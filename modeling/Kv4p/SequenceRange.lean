import Kv4p.HandOffOrder

/-! Which snapshots pack, when everything that came from outside fits its own field. -/
namespace Kv4p
open Transitions PackedStruct Code

variable {F : Type}

/-- The integer settings fit the fields they are packed into. -/
structure InRange (s : Settings F) : Prop where
  flags : s.flags < 2^16
  bw : FitsUnsigned 1 s.bw
  squelch : FitsUnsigned 1 s.squelch
  ctcssRx : FitsUnsigned 1 s.ctcssRx
  ctcssTx : FitsUnsigned 1 s.ctcssTx

/-- The arguments of a setter fit the fields they end up in. -/
def SetterCall.ArgsFit : SetterCall F → Prop
  | requestPtt _ => True
  | setFrequency _ _ => True
  | setBandwidth bw => FitsUnsigned 1 bw
  | setSquelch squelch => FitsUnsigned 1 squelch
  | setCtcss rx tx => (∀ z ∈ rx, FitsUnsigned 1 z) ∧ ∀ z ∈ tx, FitsUnsigned 1 z
  | setFlag flag _ => flag < 2^16

/-- Payloads that parse, arguments that fit. -/
def Label.WellFormed [PyFloat F] : Label F → Prop
  | .hello taken => ∃ payload, Hello.fromBytes payload = .ok taken
  | .report state => ∃ payload, DeviceState.fromBytes payload = .ok state
  | .locked _ c => c.ArgsFit
  | .replay => True
  | .handOff _ => True

theorem inRange_mutate {s : Settings F} (h : InRange s) {c : SetterCall F} (hc : c.ArgsFit) :
    InRange (c.mutate s) := by
  cases c with
  | requestPtt enabled =>
    exact ⟨BitMask.assign_lt enabled h.flags (by decide), h.bw, h.squelch, h.ctcssRx, h.ctcssTx⟩
  | setFrequency rx tx => exact ⟨h.flags, h.bw, h.squelch, h.ctcssRx, h.ctcssTx⟩
  | setBandwidth bw => exact ⟨h.flags, hc, h.squelch, h.ctcssRx, h.ctcssTx⟩
  | setSquelch squelch => exact ⟨h.flags, h.bw, hc, h.ctcssRx, h.ctcssTx⟩
  | setCtcss rx tx =>
    have hget {z : Option ℤ} {old : ℤ} (hz : ∀ x ∈ z, FitsUnsigned 1 x)
        (ho : FitsUnsigned 1 old) : FitsUnsigned 1 (z.getD old) := by
      cases z with
      | none => exact ho
      | some x => exact hz x rfl
    exact ⟨h.flags, h.bw, h.squelch, hget hc.1 h.ctcssRx, hget hc.2 h.ctcssTx⟩
  | setFlag flag enabled =>
    exact ⟨BitMask.assign_lt enabled h.flags hc, h.bw, h.squelch, h.ctcssRx, h.ctcssTx⟩

theorem inRange_seed {d : DeviceState F} (hflags : d.flags < 2^16) (hbw : FitsUnsigned 1 d.bw)
    (hsquelch : FitsUnsigned 1 d.squelch) (hrx : FitsUnsigned 1 d.ctcssRx)
    (htx : FitsUnsigned 1 d.ctcssTx) : InRange (Settings.seed d) :=
  ⟨Nat.or_lt_two_pow (BitMask.clear_lt deviceOnlyFlags hflags) (by decide), hbw, hsquelch, hrx, htx⟩

variable [PyFloat F]

/-- A report that parses holds what its fields can hold. -/
theorem inRange_fromBytes (hf : ∀ x : F, (WireFloat.toBits x).isSome = true)
    {payload : List UInt8} {d : DeviceState F} (h : DeviceState.fromBytes payload = .ok d) :
    InRange (Settings.seed d) := by
  obtain ⟨hlen, v, hv, rfl⟩ := deviceState_fromBytes_eq_ok.mp h
  have htake : (payload.take deviceStateSize).length = layoutSize deviceStateLayout := by
    rw [List.length_take]
    exact min_eq_left hlen
  obtain ⟨v', hv', hfit⟩ := unpack_of_length (F := F) htake fun b => hf _
  rw [hv] at hv'
  cases hv'
  obtain ⟨_, _, hflags, hbw, _, _, htx, hsquelch, hrx, _⟩ := hfit
  have hnat : (Int.toNat v.2.2.1 : ℤ) < 2^16 := by
    rw [Int.toNat_of_nonneg hflags.1]
    exact hflags.2
  have hlt : Int.toNat v.2.2.1 < 2^16 := by exact_mod_cast hnat
  exact inRange_seed (d := DeviceState.ofRecord v) hlt hbw hsquelch hrx htx

theorem inRange_hello (hf : ∀ x : F, (WireFloat.toBits x).isSome = true)
    {payload : List UInt8} {hello : Hello F} (h : Hello.fromBytes payload = .ok hello) :
    InRange (Settings.seed hello.deviceState) :=
  inRange_fromBytes hf (hello_fromBytes_eq_ok.mp h).2.2

/-- Every run of well-formed steps keeps the settings in range. -/
theorem inRange_run (hf : ∀ x : F, (WireFloat.toBits x).isSome = true) {s : Threads F}
    {ls : List (Label F)} (h : run Threads.step Threads.init ls = some s)
    (hls : ∀ l ∈ ls, l.WellFormed) : InRange s.tracker.settings := by
  have hstep : ∀ (s : Threads F) l t, l.WellFormed → InRange s.tracker.settings →
      s.step l = some t → InRange t.tracker.settings := by
    intro s l t hl hI hs
    rcases step_cases hs with ⟨hello, rfl, _, rfl⟩ | ⟨state, replay, _, rfl⟩ |
      ⟨thread, c, rfl, _, rfl⟩ | ⟨thread, x, _, _, rfl⟩
    · obtain ⟨payload, hp⟩ := hl
      exact inRange_hello hf hp
    · exact hI
    · rcases enter_cases s thread c with ⟨_, he⟩ | ⟨_, he⟩
      · rw [he]
        exact hI
      · rw [he]
        exact inRange_mutate hI hl
    · exact hI
  have hvalid : hostStateRadioConfigValid < 2^16 := by decide
  have hzero : FitsUnsigned 1 0 := by decide
  have hstart : InRange (Threads.init : Threads F).tracker.settings :=
    ⟨hvalid, hzero, hzero, hzero, hzero⟩
  exact run_invariant_of (I := fun s => InRange s.tracker.settings) hstep hls hstart h

theorem packs_iff_fits {d : HostDesiredState F} :
    d.packs = true ↔ Fits hostDesiredStateLayout d.record := by
  rw [packs_iff, ← pack_isOk_iff]
  simp only [toBytes_eq_ok]

/-- A snapshot of settings in range packs exactly if its number fits. -/
theorem packs_of_inRange (hf : ∀ x : F, (WireFloat.toBits x).isSome = true)
    {d : HostDesiredState F} (hI : InRange d.settings) (hm : d.memoryId = -1) :
    d.packs = true ↔ d.sequence < 2^32 := by
  have hseq : FitsUnsigned 4 d.sequence ↔ d.sequence < 2^32 := by
    unfold FitsUnsigned
    omega
  have hflags : FitsUnsigned 2 d.flags := fitsUnsigned_of_lt hI.flags
  have hmemory : FitsSigned d.memoryId := by
    rw [hm]
    decide
  rw [packs_iff_fits, ← hseq]
  constructor
  · intro h
    exact h.1
  · intro h
    exact ⟨h, hmemory, hflags, hI.bw, hf d.freqTx, hf d.freqRx, hI.ctcssTx, hI.squelch,
      hI.ctcssRx, trivial⟩

/-- In every run of HELLO and DEVICE_STATE payloads that parse and setters whose arguments fit, a
snapshot packs exactly if its number, one more than the highest number seen, stays below `2^32`.
All its other fields are always in range. -/
theorem snapshot_packs_iff (hf : ∀ x : F, (WireFloat.toBits x).isSome = true) {s t : Threads F}
    {ls : List (Label F)} (h : run Threads.step Threads.init ls = some s)
    (hls : ∀ l ∈ ls, l.WellFormed) {thread : ℕ} {c : SetterCall F} (hc : c.ArgsFit) {x : Built F}
    (hstep : s.step (.locked thread c) = some t) (hb : t.built = s.built++[x]) :
    (x.state.packs = true ↔
        max s.tracker.sequence (s.tracker.deviceState.elim 0 DeviceState.appliedSequence)+1 < 2^32) ∧
      (x.state.packs = true ↔ x.state.sequence < 2^32) ∧ InRange x.state.settings := by
  have hx := built_of_locked hstep hb
  have hI : InRange x.state.settings := by
    rw [hx, snapshot_settings]
    exact inRange_mutate (inRange_run hf h hls) hc
  have hm : x.state.memoryId = -1 := by
    rw [hx]
    rfl
  have hpacks := packs_of_inRange hf hI hm
  have hseq : x.state.sequence =
      max s.tracker.sequence (s.tracker.deviceState.elim 0 DeviceState.appliedSequence)+1 := by
    rw [hx]
    exact snapshot_sequence s.tracker c
  exact ⟨hseq ▸ hpacks, hpacks, hI⟩

/-- After HELLO the first snapshot packs: its number is 1. -/
theorem snapshot_packs_dummy :
    ∃ (s t : Threads Binary32) (x : Built Binary32),
      run Threads.step Threads.init [.hello dummyHello, .replay] = some s ∧
        s.step (.locked 0 (.setSquelch 3)) = some t ∧ t.built = s.built++[x] ∧
        (x.state.packs = true ↔ max s.tracker.sequence
          (s.tracker.deviceState.elim 0 DeviceState.appliedSequence)+1 < 2^32) := by
  have hsome : ((run Threads.step (Threads.init : Threads Binary32)
      [.hello dummyHello, .replay]).bind (·.step (.locked 0 (.setSquelch 3)))).isSome = true := by
    decide +kernel
  obtain ⟨t, ht⟩ := Option.isSome_iff_exists.mp hsome
  obtain ⟨s, hs, hstep⟩ := Option.bind_eq_some_iff.mp ht
  have hls : ∀ l ∈ [Label.hello dummyHello, .replay], l.WellFormed := by
    intro l hl
    rcases List.mem_pair.mp hl with rfl | rfl
    · exact dummyHello_parses
    · trivial
  have hfit : (SetterCall.setSquelch 3 : SetterCall Binary32).ArgsFit := by
    change FitsUnsigned 1 3
    decide
  have hbuilt : ∃ x, t.built = s.built++[x] := by
    rcases step_cases hstep with ⟨_, hl, _⟩ | ⟨_, _, hl, _⟩ | ⟨_, _, hl, _, rfl⟩ | ⟨_, _, hl, _⟩
    · cases hl
    · rcases hl with ⟨hl, _⟩ | ⟨hl, _⟩ <;> cases hl
    · cases hl
      exact ⟨_, rfl⟩
    · cases hl
  obtain ⟨x, hx⟩ := hbuilt
  exact ⟨s, t, x, hs, hstep, hx, (snapshot_packs_iff (fun _ => rfl) hs hls hfit hstep hx).1⟩

/-- A DEVICE_STATE that reports the last number of 32 bits as applied. -/
def lastNumberPayload : List UInt8 :=
  [0xFF, 0xFF, 0xFF, 0xFF, 0xFF, 0xFF, 0xFF, 0xFF, 0, 0, 0, 0, 0, 0x06, 0x43, 0, 0, 0x06, 0x43,
    0, 1, 0, 0x44, 1, 0, 0]

/-- After it the next snapshot has number `2^32` and does not pack. -/
theorem last_number_unsendable :
    (do
      let bytes ← dummyTransport.buildHelloBytes.toOption
      let hello ← (Hello.fromBytes bytes : Except (PyError Binary32) _).toOption
      let state ← (DeviceState.fromBytes lastNumberPayload : Except (PyError Binary32) _).toOption
      let s ← run Threads.step Threads.init [.hello hello, .replay, .report state,
        .locked 0 (.setSquelch 3)]
      pure (s.built.map fun x => (x.state.sequence, x.state.packs))) =
      some [(2^32, false)] := by
  decide +kernel

end Kv4p
