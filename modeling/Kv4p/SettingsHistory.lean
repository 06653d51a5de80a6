import Kv4p.HandOffOrder
import Kv4p.Library.LastWrite
import Kv4p.RadioSteps

/-! Every snapshot carries, field by field and bit by bit, the last value written since HELLO. -/
namespace Kv4p
open Transitions LastWrite

variable {F : Type}

namespace SetterCall

/-! What a setter writes to each field, if it writes there; `flagWrite` says it for the flags. -/

def freqRxWrite : SetterCall F → Option F
  | setFrequency rx _ => rx
  | _ => none

def freqTxWrite : SetterCall F → Option F
  | setFrequency _ tx => tx
  | _ => none

def bwWrite : SetterCall F → Option ℤ
  | setBandwidth bw => some bw
  | _ => none

def squelchWrite : SetterCall F → Option ℤ
  | setSquelch squelch => some squelch
  | _ => none

def ctcssRxWrite : SetterCall F → Option ℤ
  | setCtcss rx _ => rx
  | _ => none

def ctcssTxWrite : SetterCall F → Option ℤ
  | setCtcss _ tx => tx
  | _ => none

end SetterCall

/-- `s` is `start` with the last value of the calls in every field and every flag bit they write. -/
structure HoldsLastWrites (start : Settings F) (calls : List (SetterCall F)) (s : Settings F) :
    Prop where
  flags : ∀ i, s.flags.testBit i =
    lastWrite (SetterCall.flagWrite i) (start.flags.testBit i) calls
  freqRx : s.freqRx = lastWrite SetterCall.freqRxWrite start.freqRx calls
  freqTx : s.freqTx = lastWrite SetterCall.freqTxWrite start.freqTx calls
  bw : s.bw = lastWrite SetterCall.bwWrite start.bw calls
  squelch : s.squelch = lastWrite SetterCall.squelchWrite start.squelch calls
  ctcssRx : s.ctcssRx = lastWrite SetterCall.ctcssRxWrite start.ctcssRx calls
  ctcssTx : s.ctcssTx = lastWrite SetterCall.ctcssTxWrite start.ctcssTx calls

theorem holdsLastWrites_nil (start : Settings F) : HoldsLastWrites start [] start :=
  ⟨fun _ => rfl, rfl, rfl, rfl, rfl, rfl, rfl⟩

/-- One more setter writes its own fields and bits and leaves the rest. -/
theorem HoldsLastWrites.mutate {start s : Settings F} {calls : List (SetterCall F)}
    (h : HoldsLastWrites start calls s) (c : SetterCall F) :
    HoldsLastWrites start (calls++[c]) (c.mutate s) := by
  have hflags (i : ℕ) : (c.mutate s).flags.testBit i =
      lastWrite (SetterCall.flagWrite i) (start.flags.testBit i) (calls++[c]) := by
    rw [testBit_mutate, lastWrite_concat, ← h.flags i]
  refine ⟨hflags, ?_, ?_, ?_, ?_, ?_, ?_⟩
  · rw [lastWrite_concat, ← h.freqRx]
    cases c <;> rfl
  · rw [lastWrite_concat, ← h.freqTx]
    cases c <;> rfl
  · rw [lastWrite_concat, ← h.bw]
    cases c <;> rfl
  · rw [lastWrite_concat, ← h.squelch]
    cases c <;> rfl
  · rw [lastWrite_concat, ← h.ctcssRx]
    cases c <;> rfl
  · rw [lastWrite_concat, ← h.ctcssTx]
    cases c <;> rfl

/-- The latest HELLO and the setter calls whose locked section ran since then. -/
abbrev SinceHello (F : Type) := Option (Hello F × List (SetterCall F))

def SinceHello.next (a : SinceHello F) : Label F → SinceHello F
  | .hello hello => some (hello, [])
  | .locked _ c => a.map fun p => (p.1, p.2++[c])
  | .replay => a
  | .report _ => a
  | .handOff _ => a

def sinceHello (ls : List (Label F)) : SinceHello F := ls.foldl SinceHello.next none

/-- The tracker's settings are what HELLO reported, with the calls since then written over it. -/
def Agrees (s : Threads F) (a : SinceHello F) : Prop :=
  ∀ hello calls, a = some (hello, calls) →
    HoldsLastWrites (Settings.seed hello.deviceState) calls s.tracker.settings

theorem settings_enter (s : Threads F) (thread : ℕ) (c : SetterCall F) :
    (s.enter thread c).tracker.settings = c.mutate s.tracker.settings := by
  rcases enter_cases s thread c with ⟨hs, h⟩ | ⟨_, h⟩
  · rw [h, mutate_of_suppressed hs]
  · rw [h]
    rfl

theorem Agrees.locked {s : Threads F} {a : SinceHello F} (hI : Agrees s a) (thread : ℕ)
    (c : SetterCall F) : Agrees (s.enter thread c) (a.next (.locked thread c)) := by
  intro hello calls ha
  rw [settings_enter]
  obtain ⟨⟨hello', calls'⟩, ha', hp⟩ := Option.map_eq_some_iff.mp ha
  cases hp
  exact (hI hello' calls' ha').mutate c

variable [PyFloat F]

theorem Agrees.step {s t : Threads F} {l : Label F} {a : SinceHello F} (hI : Agrees s a)
    (h : s.step l = some t) : Agrees t (a.next l) := by
  rcases step_cases h with ⟨hello, rfl, _, rfl⟩ | ⟨state, replay, hl, rfl⟩ |
    ⟨thread, c, rfl, _, rfl⟩ | ⟨thread, x, rfl, _, rfl⟩
  · intro hello' calls ha
    cases ha
    exact holdsLastWrites_nil _
  · rcases hl with ⟨rfl, _⟩ | ⟨rfl, _⟩
    · exact hI
    · exact hI
  · exact hI.locked thread c
  · exact hI

theorem agrees_run {s : Threads F} {ls : List (Label F)}
    (h : run Threads.step Threads.init ls = some s) : Agrees s (sinceHello ls) := by
  have hstart : Agrees (Threads.init : Threads F) none := by
    intro hello calls ha
    cases ha
  exact run_simulates (P := fun _ => True) (fun _ _ _ _ _ hI hs => hI.step hs)
    (fun _ _ => trivial) hstart h

/-- The latest snapshot since HELLO carries the tracker's current settings. -/
def LatestIsCurrent (s : Threads F) : Prop :=
  ∀ x, s.built.getLast? = some x → x.hellos = s.hellos → x.state.settings = s.tracker.settings

theorem latestIsCurrent_step {s t : Threads F} {l : Label F} (hn : Numbered s)
    (hI : LatestIsCurrent s) (h : s.step l = some t) : LatestIsCurrent t := by
  rcases step_cases h with ⟨hello, _, _, rfl⟩ | ⟨state, replay, _, rfl⟩ | ⟨thread, c, _, _, rfl⟩ |
    ⟨thread, x, _, _, rfl⟩
  · -- No snapshot belongs to the new HELLO yet.
    intro x hx he
    have hle := (hn.bounded x (List.mem_of_getLast? hx)).1
    have he : x.hellos = s.hellos+1 := he
    omega
  · exact hI
  · rcases enter_cases s thread c with ⟨_, he⟩ | ⟨_, he⟩
    · rw [he]
      exact hI
    · rw [he]
      intro x hx _
      rw [Threads.push, List.getLast?_concat] at hx
      cases hx
      rfl
  · exact hI

theorem latestIsCurrent_run {s : Threads F} {ls : List (Label F)}
    (h : run Threads.step Threads.init ls = some s) : LatestIsCurrent s := by
  have hstart : Numbered (Threads.init : Threads F) ∧ LatestIsCurrent (Threads.init : Threads F) :=
    ⟨⟨List.Pairwise.nil, by simp [Threads.init]⟩, by simp [LatestIsCurrent, Threads.init]⟩
  exact (run_invariant (I := fun s => Numbered s ∧ LatestIsCurrent s)
    (fun _ _ _ hI hs => ⟨hI.1.step hs, latestIsCurrent_step hI.1 hI.2 hs⟩) hstart h).2

/-- The snapshot with the highest number since HELLO carries the tracker's current settings. -/
theorem highest_is_current {s : Threads F} {ls : List (Label F)}
    (h : run Threads.step Threads.init ls = some s) {x : Built F} (hx : x ∈ s.built)
    (he : x.hellos = s.hellos)
    (hmax : ∀ y ∈ s.built, y.hellos = s.hellos → y.state.sequence ≤ x.state.sequence) :
    x.state.settings = s.tracker.settings := by
  have hn := numbered_run h
  apply latestIsCurrent_run h x _ he
  obtain ⟨before, after, hb⟩ := List.append_of_mem hx
  rw [hb]
  cases hlast : after.getLast? with
  | none =>
    rw [List.getLast?_eq_none_iff.mp hlast]
    exact List.getLast?_concat
  | some y =>
    -- A later snapshot would have the higher number.
    have hy : y ∈ after := List.mem_of_getLast? hlast
    have hmem : y ∈ s.built := by
      rw [hb]
      exact List.mem_append_right before (List.mem_cons_of_mem x hy)
    have hinc := hn.increasing
    rw [hb] at hinc
    obtain ⟨hle, hlt⟩ :=
      (List.pairwise_cons.mp (List.pairwise_append.mp hinc).2.1).1 y hy
    have hey : y.hellos = s.hellos := le_antisymm (hn.bounded y hmem).1 (he ▸ hle)
    have hseq := hlt (he.trans hey.symm)
    exact absurd (hmax y hmem hey) (not_le.mpr hseq)

omit [PyFloat F] in
/-- What the public setters cannot write stays as HELLO seeded it. -/
theorem testBit_of_public {start s : Settings F} {calls : List (SetterCall F)}
    (h : HoldsLastWrites start calls s)
    (hp : ∀ c ∈ calls, ∃ setter : Setter F, c ∈ setter.trackerCalls) {i : ℕ}
    (hi : i ∈ [0, 8, 9, 10]) : s.flags.testBit i = start.flags.testBit i := by
  have hnone : ∀ c ∈ calls, c.flagWrite i = none := by
    intro c hc
    obtain ⟨setter, hs⟩ := hp c hc
    have hmem : i ∈ [0, 1, 8, 9, 10] := by
      have hsub : [0, 8, 9, 10] ⊆ [0, 1, 8, 9, 10] := by decide
      exact hsub hi
    rcases flagWrite_of_trackerCalls hs hmem with hw | ⟨rfl, _⟩
    · exact hw
    · exact absurd hi (by decide)
  rw [h.flags i, lastWrite, List.filterMap_eq_nil_iff.mpr hnone]
  rfl

omit [PyFloat F] in
theorem testBit_seed (d : DeviceState F) {i : ℕ} (hi : i ∈ [0, 8, 9, 10]) :
    (Settings.seed d).flags.testBit i = decide (i = 0) := by
  rw [Settings.seed, Nat.testBit_or, BitMask.testBit_clear]
  have hmasks : ∀ i ∈ [0, 8, 9, 10], deviceOnlyFlags.testBit i = !decide (i = 0) ∧
      hostStateRadioConfigValid.testBit i = decide (i = 0) := by decide
  obtain ⟨hm, hv⟩ := hmasks i hi
  rw [hm, hv, Bool.not_not]
  cases d.flags.testBit i <;> simp

/-- The flags a desired state must have and must not have. -/
def ProperFlags (d : HostDesiredState F) : Prop :=
  BitMask.anySet d.flags hostStateRadioConfigValid = true ∧
    BitMask.anySet d.flags deviceStatePhysPttDown = false ∧
    BitMask.anySet d.flags deviceStateTxActive = false ∧
    BitMask.anySet d.flags deviceStateSquelched = false

omit [PyFloat F] in
theorem properFlags_of_public {hello : Hello F} {calls : List (SetterCall F)}
    {d : HostDesiredState F}
    (h : HoldsLastWrites (Settings.seed hello.deviceState) calls d.settings)
    (hp : ∀ c ∈ calls, ∃ setter : Setter F, c ∈ setter.trackerCalls) : ProperFlags d := by
  have hbit {i : ℕ} (hi : i ∈ [0, 8, 9, 10]) : d.flags.testBit i = decide (i = 0) :=
    (testBit_of_public h hp hi).trans (testBit_seed hello.deviceState hi)
  refine ⟨?_, ?_, ?_, ?_⟩
  · exact (BitMask.anySet_single d.flags 0).trans (hbit (by decide))
  · exact (BitMask.anySet_single d.flags 8).trans (hbit (by decide))
  · exact (BitMask.anySet_single d.flags 9).trans (hbit (by decide))
  · exact (BitMask.anySet_single d.flags 10).trans (hbit (by decide))

/-- No setting update is lost, in any interleaving. A snapshot built after a HELLO carries the last
write to every field and flag bit since that HELLO, its own included, and with public setters only,
proper flags. Device reports change no setting. The snapshot with the highest number since HELLO
carries the tracker's current settings. -/
theorem no_update_lost {s : Threads F} {ls : List (Label F)}
    (h : run Threads.step Threads.init ls = some s) :
    (∀ thread c t x, s.step (.locked thread c) = some t → t.built = s.built++[x] →
      ∀ hello calls, sinceHello ls = some (hello, calls) →
        HoldsLastWrites (Settings.seed hello.deviceState) (calls++[c]) x.state.settings ∧
          ((∀ c' ∈ calls++[c], ∃ setter : Setter F, c' ∈ setter.trackerCalls) →
            ProperFlags x.state)) ∧
      (∀ l t, (l = .replay ∨ ∃ state, l = .report state) → s.step l = some t →
        t.tracker.settings = s.tracker.settings) ∧
      ∀ x ∈ s.built, x.hellos = s.hellos →
        (∀ y ∈ s.built, y.hellos = s.hellos → y.state.sequence ≤ x.state.sequence) →
          x.state.settings = s.tracker.settings := by
  refine ⟨?_, ?_, fun x hx he hmax => highest_is_current h hx he hmax⟩
  · intro thread c t x hstep hbuilt hello calls hsince
    have hx : x.state.settings = c.mutate s.tracker.settings := by
      rw [built_of_locked hstep hbuilt]
      exact snapshot_settings s.tracker c
    have hlast : HoldsLastWrites (Settings.seed hello.deviceState) (calls++[c])
        x.state.settings := by
      rw [hx]
      exact (agrees_run h hello calls hsince).mutate c
    exact ⟨hlast, properFlags_of_public hlast⟩
  · intro l t hl hstep
    rcases step_cases hstep with ⟨_, he, _⟩ | ⟨_, _, _, rfl⟩ | ⟨_, _, he, _⟩ | ⟨_, _, he, _⟩
    · rcases hl with rfl | ⟨_, rfl⟩ <;> cases he
    · rfl
    · rcases hl with rfl | ⟨_, rfl⟩ <;> cases he
    · rcases hl with rfl | ⟨_, rfl⟩ <;> cases he

/-- Two threads write one half of the CTCSS pair each, a report says otherwise, and the first thread goes
on while the other still has its snapshot in hand. -/
theorem no_update_lost_dummy :
    let report : DeviceState Binary32 := { dummyHello.deviceState with squelch := 9, ctcssRx := 9 }
    let halves : List (SetterCall Binary32) := [.setCtcss (some 5) none, .setCtcss none (some 7)]
    let labels : List (Label Binary32) := [.hello dummyHello, .replay,
      .locked 1 (.setCtcss (some 5) none), .locked 2 (.setCtcss none (some 7)), .report report,
      .handOff 1]
    ∃ s t : Threads Binary32, run Threads.step Threads.init labels = some s ∧
      s.step (.locked 1 (.setSquelch 3)) = some t ∧ s.inFlight.map (·.thread) = [2] ∧
      t.tracker.settings.ctcssRx = 5 ∧ t.tracker.settings.ctcssTx = 7 ∧
      t.tracker.settings.squelch = 3 ∧
      (∀ x, t.built = s.built++[x] → HoldsLastWrites (Settings.seed dummyHello.deviceState)
        (halves++[.setSquelch 3]) x.state.settings) ∧
      ∀ x ∈ s.built, x.hellos = s.hellos →
        (∀ y ∈ s.built, y.hellos = s.hellos → y.state.sequence ≤ x.state.sequence) →
          x.state.settings = s.tracker.settings := by
  intro report halves labels
  have hrun : ((run Threads.step Threads.init labels).bind fun s =>
      (s.step (.locked 1 (.setSquelch 3))).map fun t => (s.inFlight.map (·.thread),
        t.tracker.settings.ctcssRx, t.tracker.settings.ctcssTx, t.tracker.settings.squelch)) =
      some ([2], 5, 7, 3) := by
    decide +kernel
  obtain ⟨s, hs, hmore⟩ := Option.bind_eq_some_iff.mp hrun
  obtain ⟨t, ht, hvalues⟩ := Option.map_eq_some_iff.mp hmore
  obtain ⟨hthread, hfields⟩ := Prod.mk.inj hvalues
  obtain ⟨hrx, hrest⟩ := Prod.mk.inj hfields
  obtain ⟨htx, hsquelch⟩ := Prod.mk.inj hrest
  obtain ⟨hbuilt, _, hhighest⟩ := no_update_lost hs
  exact ⟨s, t, hs, ht, hthread, hrx, htx, hsquelch,
    fun x hx => (hbuilt 1 (.setSquelch 3) t x ht hx dummyHello halves rfl).1, hhighest⟩

end Kv4p
