import Kv4p.SettingsHistory
import Kv4p.Wire

/-! What the device can be told to do: the frequencies, the bandwidth and the flags of every desired
state, against the HELLO that came before it. -/
namespace Kv4p
open Effects BitMask Transitions

variable {F : Type}

/-- The last HELLO taken over. -/
def lastHello (log : List (Event F)) : Option (Hello F) :=
  log.foldl (fun known e =>
    match e with
    | .hello hello => some hello
    | _ => known) none

/-- The call to the transport that went through, if the event is one. -/
def Event.carried : Event F → Option TransportCall
  | .transport call true => some call
  | _ => none

theorem Event.carried_eq_some {e : Event F} {call : TransportCall} (h : e.carried = some call) :
    e = .transport call true := by
  unfold Event.carried at h
  split at h
  · cases h
    rfl
  · cases h

variable [PyFloat F]

/-- The value lies in the range the device announced. -/
def InBand (version : Version F) (freq : F) : Prop :=
  PyFloat.le version.minRadioFreq freq = true ∧ PyFloat.le freq version.maxRadioFreq = true

/-- A frequency is the one HELLO reported or lies in its range, the bandwidth is the one it reported or
one of the two there are, and the flags are those of a valid configuration without the device's own. -/
structure Tuned (hello : Hello F) (s : Settings F) : Prop where
  freqRx : s.freqRx = hello.deviceState.freqRx ∨ InBand hello.version s.freqRx
  freqTx : s.freqTx = hello.deviceState.freqTx ∨ InBand hello.version s.freqTx
  bw : s.bw = hello.deviceState.bw ∨ s.bw = dra818_12K5 ∨ s.bw = dra818_25K
  flags : ∀ i ∈ [0, 8, 9, 10], s.flags.testBit i = decide (i = 0)

/-- What the radio has checked before it calls the tracker. -/
def SetterCall.Checked (hello : Hello F) : SetterCall F → Prop
  | setFrequency rx tx => (∀ freq ∈ rx, InBand hello.version freq) ∧
      ∀ freq ∈ tx, InBand hello.version freq
  | setBandwidth bw => bw = dra818_12K5 ∨ bw = dra818_25K
  | c => ∀ i ∈ [0, 8, 9, 10], c.flagWrite i = none

/-- A desired state the device can be told to take up after this HELLO. -/
def Tunes (hello : Hello F) (d : HostDesiredState F) : Prop :=
  ∃ sent : HostDesiredState F, d = sent.onWire ∧ Tuned hello sent.settings ∧ sent.memoryId = -1

theorem tuned_seed (hello : Hello F) : Tuned hello (Settings.seed hello.deviceState) :=
  ⟨Or.inl rfl, Or.inl rfl, Or.inl rfl, fun _ hi => testBit_seed hello.deviceState hi⟩

theorem Tuned.mutate {hello : Hello F} {s : Settings F} (h : Tuned hello s) {c : SetterCall F}
    (hc : c.Checked hello) : Tuned hello (c.mutate s) := by
  have hflags (hw : ∀ i ∈ [0, 8, 9, 10], c.flagWrite i = none) :
      ∀ i ∈ [0, 8, 9, 10], (c.mutate s).flags.testBit i = decide (i = 0) := by
    intro i hi
    rw [testBit_mutate, hw i hi]
    exact h.flags i hi
  cases c with
  | requestPtt enabled => exact ⟨h.freqRx, h.freqTx, h.bw, hflags hc⟩
  | setFlag flag enabled => exact ⟨h.freqRx, h.freqTx, h.bw, hflags hc⟩
  | setSquelch squelch => exact ⟨h.freqRx, h.freqTx, h.bw, h.flags⟩
  | setCtcss rx tx => exact ⟨h.freqRx, h.freqTx, h.bw, h.flags⟩
  | setBandwidth bw => exact ⟨h.freqRx, h.freqTx, Or.inr hc, h.flags⟩
  | setFrequency rx tx =>
    refine ⟨?_, ?_, h.bw, h.flags⟩
    · cases rx with
      | none => exact h.freqRx
      | some freq => exact Or.inr (hc.1 freq rfl)
    · cases tx with
      | none => exact h.freqTx
      | some freq => exact Or.inr (hc.2 freq rfl)

theorem inBand_of_check {version : Version F} {values : List F}
    (h : Setter.checkFrequencies version values = .ok ()) :
    ∀ freq ∈ values, InBand version freq := by
  induction values with
  | nil => exact fun _ hf => (List.not_mem_nil hf).elim
  | cons value values ih =>
    rw [Setter.checkFrequencies] at h
    split at h
    · rename_i hin
      intro freq hf
      rcases List.mem_cons.mp hf with rfl | hf
      · exact Bool.and_eq_true_iff.mp hin
      · exact ih h freq hf
    · cases h

omit [PyFloat F] in
theorem bandwidth_cases {value : String} {bw : ℤ}
    (h : (bandwidthToDra818 value : Except (PyError F) ℤ) = .ok bw) :
    bw = dra818_12K5 ∨ bw = dra818_25K := by
  rw [bandwidthToDra818] at h
  split at h
  · cases h
    exact Or.inr rfl
  · split at h
    · cases h
      exact Or.inl rfl
    · cases h

/-- A public setter that gets past its checks calls the tracker with checked arguments. -/
theorem checked_of_check {w : World F} {hello : Hello F} (hhello : w.tracker.hello = some hello)
    {c : Setter F} (hc : c.check w = .ok ()) {tc : SetterCall F} (h : tc ∈ c.trackerCalls) :
    tc.Checked hello := by
  have hwrite : ∀ i ∈ [0, 8, 9, 10], tc.flagWrite i = none := by
    intro i hi
    have hsub : [0, 8, 9, 10] ⊆ [0, 1, 8, 9, 10] := by decide
    rcases flagWrite_of_trackerCalls h (hsub hi) with hn | ⟨rfl, _⟩
    · exact hn
    · exact absurd hi (by decide)
  have harguments : c.checkArguments w = .ok () := by
    rw [Setter.check] at hc
    split at hc
    · cases hc
    · exact hc
  cases c with
  | setFrequency freq txfreq =>
    rw [Setter.checkArguments, hhello] at harguments
    have hin := inBand_of_check harguments
    rw [List.mem_singleton.mp h]
    constructor
    · intro x hx
      cases hx
      exact hin freq List.mem_cons_self
    · intro x hx
      cases hx
      cases txfreq with
      | none => exact hin freq List.mem_cons_self
      | some tx => exact hin tx (List.mem_cons_of_mem freq (List.mem_singleton_self tx))
  | setBandwidth bandwidth =>
    rw [Setter.trackerCalls] at h
    split at h
    · rename_i bw hbw
      rw [List.mem_singleton.mp h]
      exact bandwidth_cases hbw
    · cases h
  | setFilters pre high low =>
    obtain ⟨flag, enabled, rfl, _⟩ := mem_filterCalls h
    exact hwrite
  | setSquelch | setCtcss | setHighPower | setTxAllowed | setRssi | setRxAudioOpen |
      setStatusReports | setPtt =>
    rw [List.mem_singleton.mp h] at hwrite ⊢
    exact hwrite

omit [PyFloat F] in
theorem lastHello_concat (log : List (Event F)) (e : Event F) :
    lastHello (log++[e]) =
      match e with
      | .hello hello => some hello
      | _ => lastHello log := by
  rw [lastHello, List.foldl_append]
  rfl

/-- A desired state comes after a HELLO that allows it. -/
def SentTuned (before : List (Event F)) (e : Event F) : Prop :=
  ∀ call ok d, e = .transport call ok → call.desiredState = some d →
    ∃ hello, lastHello before = some hello ∧ Tunes hello d

/-- What a run keeps: the tracker knows the last HELLO, its settings are allowed by it, and so was
everything that was sent. -/
structure InTune (w : World F) : Prop where
  audio : w.tracker.txAudioCommand ≠ commandHostDesiredState
  hello : lastHello w.log = w.tracker.hello
  settings : ∀ hello, w.tracker.hello = some hello → Tuned hello w.tracker.settings
  sent : AtEach SentTuned w.log

namespace InTune

/-- Moves that neither take over a HELLO nor change a setting nor send a desired state. -/
theorem extend {w v : World F} (hI : InTune w)
    (ha : v.tracker.txAudioCommand = w.tracker.txAudioCommand)
    (ht : v.tracker.hello = w.tracker.hello) (hs : v.tracker.settings = w.tracker.settings)
    (hlast : lastHello v.log = lastHello w.log) (hsent : AtEach SentTuned v.log) : InTune v := by
  refine ⟨by rw [ha]; exact hI.audio, by rw [hlast, ht]; exact hI.hello, ?_, hsent⟩
  rw [ht, hs]
  exact hI.settings

theorem survives : Survives (F := F) (fun _ => True) InTune where
  quiet {w v} h hI := by
    obtain ⟨last, ht⟩ := h.tracker
    obtain ⟨calls, hlog, hc⟩ := h.log
    apply hI.extend (by rw [ht]) (by rw [ht]) (by rw [ht]) (h.foldl_log (fun _ _ _ => rfl) none)
    rw [hlog]
    apply atEach_append hI.sent
    intro e he before call ok d heq
    obtain ⟨c, ok', rfl⟩ := hc e he
    cases heq
  hello {w payload hello} _ hI := by
    refine ⟨txAudioCommand_takeHello w hello, lastHello_concat w.log (.hello hello), ?_, ?_⟩
    · intro known hknown
      cases hknown
      exact tuned_seed hello
    · exact atEach_concat hI.sent fun _ _ _ he => nomatch he
  report _ hI := hI.extend rfl rfl rfl rfl hI.sent
  error _ hI := hI.extend rfl rfl rfl rfl hI.sent
  clearError hI := hI.extend rfl rfl rfl rfl hI.sent
  isOpen _ hI := hI.extend rfl rfl rfl rfl hI.sent
  call {w call} ok hc hI := by
    have hlast := lastHello_concat w.log (.transport call ok)
    refine hI.extend (v := w.record (.transport call ok)) rfl rfl rfl hlast ?_
    apply atEach_concat hI.sent
    rintro call' ok' d ⟨rfl, rfl⟩ hsend
    rw [desiredState_of_harmless hc] at hsend
    cases hsend
  audio hI := hI.audio

/-- A setter of the tracker with checked arguments. -/
theorem trackerCall (env : Environment F) {hello : Hello F} {c : SetterCall F}
    (hc : c.Checked hello) :
    Keeps (fun w => InTune w ∧ w.tracker.hello = some hello) (trackerCall env c) := by
  intro w hw
  obtain ⟨hI, hhello⟩ := hw
  obtain ⟨hsettings, hsame, haudio⟩ := tracker_trackerCall env c w
  have hnew : Tuned hello (c.mutate w.tracker.settings) := (hI.settings hello hhello).mutate hc
  have hafter (v : World F) (hv : v = ((Kv4p.trackerCall env c).run w).2)
      (hlast : lastHello v.log = lastHello w.log) (hsent : AtEach SentTuned v.log) :
      InTune v ∧ v.tracker.hello = some hello := by
    subst hv
    refine ⟨⟨?_, ?_, ?_, hsent⟩, hsame.trans hhello⟩
    · rw [haudio]
      exact hI.audio
    · rw [hlast, hsame]
      exact hI.hello
    · intro known hknown
      rw [hsame, hhello] at hknown
      cases hknown
      rw [hsettings]
      exact hnew
  have hsend {body : List UInt8} (hb : (c.snapshot w.tracker).toBytes = .ok body) (ok : Bool) :
      AtEach SentTuned ((w.afterSection c).record (.transport (desiredCall body) ok)).log := by
    apply atEach_concat hI.sent
    rintro call ok' d ⟨rfl, rfl⟩ hd
    rw [desiredState_desiredCall hb] at hd
    cases hd
    refine ⟨hello, hI.hello.trans hhello, c.snapshot w.tracker, rfl, ?_, rfl⟩
    rw [snapshot_settings]
    exact hnew
  rcases trackerCall_cases env c w with ⟨_, h⟩ | ⟨_, e, _, h⟩ | ⟨_, body, hb, _, h⟩ |
    ⟨_, body, hb, _, h⟩
  · exact hafter _ rfl (by rw [h]) (by rw [h]; exact hI.sent)
  · exact hafter _ rfl (by rw [h]; rfl) (by rw [h]; exact hI.sent)
  · exact hafter _ rfl (by rw [h]; exact lastHello_concat w.log _) (by rw [h]; exact hsend hb false)
  · exact hafter _ rfl (by rw [h]; exact lastHello_concat w.log _) (by rw [h]; exact hsend hb true)

theorem run (env : Environment F) (ops : List (Op F)) : InTune (World.run env World.init ops) := by
  have hstart : InTune (World.init : World F) := by
    have haudio : commandAudioOpus ≠ commandHostDesiredState := by decide
    exact ⟨haudio, rfl, fun _ h => (by cases h), atEach_nil⟩
  have hset : ∀ (w : World F) (op : Op F), InTune w → True → ∀ c ∈ op.setters,
      c.check w = .ok () → InTune ((Effect.each (Kv4p.trackerCall env) c.trackerCalls).run w).2 := by
    intro w op hI _ c _ hc
    have hready := isReady_of_check hc
    simp only [World.isReady, Bool.and_eq_true] at hready
    obtain ⟨hello, hhello⟩ := Option.isSome_iff_exists.mp hready.2
    exact (keeps_each (fun tc htc => trackerCall env (checked_of_check hhello hc htc)) w
      ⟨hI, hhello⟩).1
  exact survives.run hset (fun _ _ _ _ => trivial) hstart
    (allSteps_of_forall fun _ _ _ => trivial)

end InTune

/-- Whatever is called and arrives, one after the other, and whatever fails: a desired state is handed
to the transport only after a HELLO, and what it tells the device is within the last HELLO before it.
Its frequencies are those HELLO reported or lie in the range it announced, up to the precision of the
wire; its bandwidth is the one HELLO reported or one of the two there are; its flags declare a valid
configuration and none of the device's own bits; it names no memory. -/
theorem desired_states_tuned (env : Environment F) (ops : List (Op F)) {before : List (Event F)}
    {call : TransportCall} {ok : Bool} {d : HostDesiredState F}
    (hsend : before++[.transport call ok] <+: (World.run env World.init ops).log)
    (hd : call.desiredState = some d) :
    ∃ hello, lastHello before = some hello ∧ Tunes hello d ∧ ProperFlags d ∧ d.memoryId = -1 := by
  obtain ⟨hello, hlast, sent, rfl, htuned, hmemory⟩ :=
    (InTune.run env ops).sent before _ hsend call ok d rfl hd
  have hbit {i : ℕ} (hi : i ∈ [0, 8, 9, 10]) : sent.onWire.flags.testBit i = decide (i = 0) :=
    htuned.flags i hi
  refine ⟨hello, hlast, ⟨sent, rfl, htuned, hmemory⟩, ⟨?_, ?_, ?_, ?_⟩, hmemory⟩
  · exact (anySet_single _ 0).trans (hbit (by decide))
  · exact (anySet_single _ 8).trans (hbit (by decide))
  · exact (anySet_single _ 9).trans (hbit (by decide))
  · exact (anySet_single _ 10).trans (hbit (by decide))

/-- A frequency of 200 is refused, one of 150 is sent. -/
theorem desired_states_tuned_dummy :
    let w := World.run faultless World.init [.connect [] dummyTransport.helloFrames,
      .setter (.setFrequency ⟨0x43480000⟩ none), .setter (.setFrequency ⟨0x43160000⟩ none)]
    ∃ before call d, before++[.transport call true] <+: w.log ∧ call.desiredState = some d ∧
      d.freqTx = ⟨0x43160000⟩ ∧ ∃ hello, lastHello before = some hello ∧ Tunes hello d := by
  intro w
  have hlast : ((w.log.getLast?.bind Event.carried).bind fun call =>
      (call.desiredState : Option (HostDesiredState Binary32))).map HostDesiredState.freqTx =
        some ⟨0x43160000⟩ := by
    decide +kernel
  obtain ⟨d, hsent, hfreq⟩ := Option.map_eq_some_iff.mp hlast
  obtain ⟨call, hcarried, hd⟩ := Option.bind_eq_some_iff.mp hsent
  obtain ⟨e, he, hcall⟩ := Option.bind_eq_some_iff.mp hcarried
  obtain ⟨before, hlog⟩ := List.getLast?_eq_some_iff.mp he
  rw [Event.carried_eq_some hcall] at hlog
  have hprefix : before++[.transport call true] <+: w.log := ⟨[], by rw [List.append_nil, hlog]⟩
  obtain ⟨hello, hhello, htunes, _⟩ := desired_states_tuned faultless _ hprefix hd
  exact ⟨before, call, d, hprefix, hd, hfreq, hello, hhello, htunes⟩

end Kv4p
