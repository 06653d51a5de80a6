import Kv4p.SettingsHistory
import Mathlib.Data.List.Induction

/-! Whether the transmitter is keyed only on request: the PTT bit of the desired states against the
calls of `set_ptt` since HELLO, in any interleaving. -/
namespace Kv4p
open Transitions

variable {F : Type}

/-- The PTT request in a report. -/
def DeviceState.pttRequested (d : DeviceState F) : Bool :=
  BitMask.anySet d.flags hostStatePttRequested

def HostDesiredState.keyed (d : HostDesiredState F) : Bool :=
  BitMask.anySet d.flags hostStatePttRequested

def requestAfter (requested : Bool) : Label F → Bool
  | .hello _ => false
  | .locked _ (.requestPtt enabled) => enabled
  | _ => requested

/-- `set_ptt(True)` was called since the last HELLO, and no `set_ptt(False)` after it. -/
def requestedSinceHello (ls : List (Label F)) : Bool := ls.foldl requestAfter false

def inheritedAfter (inherited : Bool) : Label F → Bool
  | .hello hello => hello.deviceState.pttRequested
  | .locked _ (.requestPtt _) => false
  | _ => inherited

/-- The last HELLO reported a PTT request, and `set_ptt` was not called since. -/
def inheritedFromHello (ls : List (Label F)) : Bool := ls.foldl inheritedAfter false

theorem requestedSinceHello_concat (ls : List (Label F)) (l : Label F) :
    requestedSinceHello (ls++[l]) = requestAfter (requestedSinceHello ls) l := by
  rw [requestedSinceHello, requestedSinceHello, List.foldl_append]
  rfl

theorem inheritedFromHello_concat (ls : List (Label F)) (l : Label F) :
    inheritedFromHello (ls++[l]) = inheritedAfter (inheritedFromHello ls) l := by
  rw [inheritedFromHello, inheritedFromHello, List.foldl_append]
  rfl

/-- The last of HELLO and `set_ptt` decides: one bit is not both asked for and inherited. -/
theorem inherited_of_requested {ls : List (Label F)} (h : requestedSinceHello ls = true) :
    inheritedFromHello ls = false := by
  induction ls using List.reverseRecOn with
  | nil => rfl
  | append_singleton ls l ih =>
    rw [requestedSinceHello_concat] at h
    rw [inheritedFromHello_concat]
    cases l with
    | hello hello => cases h
    | replay | report | handOff => exact ih h
    | locked thread c =>
      cases c with
      | requestPtt enabled => rfl
      | setFrequency | setBandwidth | setSquelch | setCtcss | setFlag => exact ih h

/-- A locked section of a setter is one that a public setter calls. -/
def Label.IsPublic : Label F → Prop
  | .locked _ c => ∃ setter : Setter F, c ∈ setter.trackerCalls
  | _ => True

/-- HELLO strips three bits of the report, and this is none of them. -/
theorem pttRequested_seed (d : DeviceState F) :
    (Settings.seed d).pttRequested = d.pttRequested := by
  have hmasks : deviceOnlyFlags.testBit 1 = false ∧ hostStateRadioConfigValid.testBit 1 = false := by
    decide
  rw [pttRequested_eq, Settings.seed, Nat.testBit_or, BitMask.testBit_clear, hmasks.1, hmasks.2,
    Bool.not_false, Bool.and_true, Bool.or_false]
  exact (BitMask.anySet_single d.flags 1).symm

/-- Among the public setters only `set_ptt` touches the request. -/
theorem pttRequested_locked {thread : ℕ} {c : SetterCall F}
    (hp : (Label.locked thread c).IsPublic) {s : Settings F} {requested inherited : Bool}
    (hs : s.pttRequested = (requested || inherited)) :
    (c.mutate s).pttRequested = (requestAfter requested (.locked thread c) ||
      inheritedAfter inherited (.locked thread c)) := by
  obtain ⟨setter, hc⟩ := hp
  rcases flagWrite_of_trackerCalls hc (i := 1) (by decide) with hnone | ⟨_, enabled, rfl⟩
  · -- A setter that does not write the bit is not `set_ptt`, so neither history notices it.
    rw [pttRequested_mutate hnone, hs]
    cases c with
    | requestPtt enabled =>
      have hwrite : (SetterCall.requestPtt enabled : SetterCall F).flagWrite 1 = some enabled := rfl
      rw [hwrite] at hnone
      cases hnone
    | setFrequency | setBandwidth | setSquelch | setCtcss | setFlag => rfl
  · rw [List.mem_singleton.mp hc, pttRequested_requestPtt, requestAfter, inheritedAfter,
      Bool.or_false]

variable [PyFloat F]

/-- The snapshot is the one that the section of `c` built after `past`, with `i` built before it. -/
def BuiltAfter (past : List (Label F)) (thread : ℕ) (c : SetterCall F) (i : ℕ) (x : Built F) :
    Prop :=
  ∃ s t, run Threads.step Threads.init past = some s ∧ s.step (.locked thread c) = some t ∧
    s.built.length = i ∧ t.built = s.built++[x]

/-- The tracker's PTT bit was asked for or inherited, and so was that of every snapshot when its
section ran. -/
structure Explained (past : List (Label F)) (s : Threads F) : Prop where
  reached : run Threads.step Threads.init past = some s
  tracker : s.tracker.settings.pttRequested =
    (requestedSinceHello past || inheritedFromHello past)
  built : ∀ i x, s.built[i]? = some x → ∃ before thread c,
    before++[.locked thread c] <+: past ∧ BuiltAfter before thread c i x ∧
      x.state.keyed = (requestedSinceHello (before++[.locked thread c]) ||
        inheritedFromHello (before++[.locked thread c]))

namespace Explained

/-- A step that builds nothing. -/
theorem keep {past : List (Label F)} {s t : Threads F} {l : Label F} (hI : Explained past s)
    (h : s.step l = some t) (hbuilt : t.built = s.built)
    (htracker : t.tracker.settings.pttRequested =
      (requestAfter (requestedSinceHello past) l || inheritedAfter (inheritedFromHello past) l)) :
    Explained (past++[l]) t := by
  constructor
  · exact run_append.mpr ⟨s, hI.reached, run_singleton.mpr h⟩
  · rw [requestedSinceHello_concat, inheritedFromHello_concat]
    exact htracker
  · intro i x hx
    rw [hbuilt] at hx
    obtain ⟨before, thread, c, hpre, hrest⟩ := hI.built i x hx
    exact ⟨before, thread, c, hpre.trans (List.prefix_append past [l]), hrest⟩

theorem locked {past : List (Label F)} {s t : Threads F} {thread : ℕ} {c : SetterCall F}
    (hI : Explained past s) (hp : (Label.locked thread c).IsPublic)
    (h : s.step (.locked thread c) = some t) (ht : t = s.enter thread c) :
    Explained (past++[.locked thread c]) t := by
  have hsettings := pttRequested_locked hp hI.tracker
  rw [← settings_enter s thread c, ← ht] at hsettings
  rcases enter_cases s thread c with ⟨_, he⟩ | ⟨_, he⟩
  · exact hI.keep h (by rw [ht, he]) hsettings
  · have hreached := run_append.mpr ⟨s, hI.reached, run_singleton.mpr h⟩
    have hbuilt : t.built = s.built++[⟨c.snapshot s.tracker, s.hellos⟩] := by
      rw [ht, he]
      rfl
    refine ⟨hreached, ?_, ?_⟩
    · rw [requestedSinceHello_concat, inheritedFromHello_concat]
      exact hsettings
    · intro i x hx
      rw [hbuilt] at hx
      by_cases hi : i < s.built.length
      · rw [List.getElem?_append_left hi] at hx
        obtain ⟨before, thread', c', hpre, hrest⟩ := hI.built i x hx
        exact ⟨before, thread', c', hpre.trans (List.prefix_append past _), hrest⟩
      · -- The new snapshot carries the settings the section leaves behind.
        have hlen := (List.getElem?_eq_some_iff.mp hx).1
        rw [List.length_append, List.length_singleton] at hlen
        have hlast : i = s.built.length := by omega
        rw [hlast, List.getElem?_concat_length] at hx
        cases hx
        refine ⟨past, thread, c, List.prefix_rfl, ⟨s, t, hI.reached, h, hlast.symm, hbuilt⟩, ?_⟩
        rw [requestedSinceHello_concat, inheritedFromHello_concat, ← hsettings, ht, settings_enter]
        rfl

theorem step {past : List (Label F)} {s t : Threads F} {l : Label F} (hp : l.IsPublic)
    (hI : Explained past s) (h : s.step l = some t) : Explained (past++[l]) t := by
  rcases step_cases h with ⟨hello, rfl, _, rfl⟩ | ⟨state, replay, hl, rfl⟩ |
    ⟨thread, c, rfl, _, ht⟩ | ⟨thread, x, rfl, _, rfl⟩
  · apply hI.keep h rfl
    rw [requestAfter, inheritedAfter, Bool.false_or]
    exact pttRequested_seed hello.deviceState
  · -- A report changes no setting.
    rcases hl with ⟨rfl, _⟩ | ⟨rfl, _⟩
    · exact hI.keep h rfl hI.tracker
    · exact hI.keep h rfl hI.tracker
  · exact hI.locked hp h ht
  · exact hI.keep h rfl hI.tracker

end Explained

theorem explained_run {s : Threads F} {ls : List (Label F)} (hp : ∀ l ∈ ls, l.IsPublic)
    (h : run Threads.step Threads.init ls = some s) : Explained ls s := by
  have hstart : Explained [] (Threads.init : Threads F) := by
    have hclear : hostStateRadioConfigValid.testBit 1 = false := by decide
    refine ⟨rfl, (pttRequested_eq _).trans hclear, ?_⟩
    intro i x hx
    cases hx
  exact run_history (I := Explained) (P := fun _ l => l.IsPublic)
    (fun _ _ _ _ hp hI hs => hI.step hp hs) [] (along_of_forall fun l hl _ => hp l hl) hstart h

/-- No snapshot on its way to the transport is keyed. -/
def NoneKeyed (s : Threads F) : Prop := ∀ x ∈ s.inFlight, x.built.state.keyed = false

/-- A HELLO reports no PTT request, and neither it nor `set_ptt(False)` comes while a keyed snapshot
is on its way. -/
def Undisturbed (s : Threads F) : Label F → Prop
  | .hello hello => hello.deviceState.pttRequested = false ∧ NoneKeyed s
  | .locked _ (.requestPtt false) => NoneKeyed s
  | _ => True

/-- Nothing was inherited, and what is on its way keyed is still asked for. -/
structure StillAsked (past : List (Label F)) (s : Threads F) : Prop where
  explained : Explained past s
  inherited : inheritedFromHello past = false
  inFlight : ∀ x ∈ s.inFlight, x.built.state.keyed = true → requestedSinceHello past = true

namespace StillAsked

theorem locked {past : List (Label F)} {s t : Threads F} {thread : ℕ} {c : SetterCall F}
    (hI : StillAsked past s) (hp : (Label.locked thread c).IsPublic)
    (hu : Undisturbed s (.locked thread c)) (h : s.step (.locked thread c) = some t)
    (ht : t = s.enter thread c) : StillAsked (past++[.locked thread c]) t := by
  have hexplained := hI.explained.locked hp h ht
  have hinherited : inheritedFromHello (past++[.locked thread c]) = false := by
    rw [inheritedFromHello_concat, hI.inherited]
    cases c <;> rfl
  have hold : ∀ x ∈ s.inFlight, x.built.state.keyed = true →
      requestedSinceHello (past++[.locked thread c]) = true := by
    intro x hx hk
    have hasked := hI.inFlight x hx hk
    rw [requestedSinceHello_concat]
    cases c with
    | requestPtt enabled =>
      cases enabled with
      | true => rfl
      | false =>
        rw [hu x hx] at hk
        cases hk
    | setFrequency | setBandwidth | setSquelch | setCtcss | setFlag => exact hasked
  refine ⟨hexplained, hinherited, ?_⟩
  rcases enter_cases s thread c with ⟨_, he⟩ | ⟨_, he⟩
  · rw [ht, he]
    exact hold
  · intro x hx hk
    rw [ht, he] at hx
    rcases List.mem_cons.mp hx with rfl | hx
    · -- The new snapshot is keyed as the tracker is now.
      have htracker := hexplained.tracker
      rw [hinherited, Bool.or_false, ht, settings_enter] at htracker
      exact htracker.symm.trans hk
    · exact hold x hx hk

theorem step {past : List (Label F)} {s t : Threads F} {l : Label F} (hp : l.IsPublic)
    (hu : Undisturbed s l) (hI : StillAsked past s) (h : s.step l = some t) :
    StillAsked (past++[l]) t := by
  have hexplained := hI.explained.step hp h
  rcases step_cases h with ⟨hello, rfl, _, rfl⟩ | ⟨state, replay, hl, rfl⟩ |
    ⟨thread, c, rfl, _, ht⟩ | ⟨thread, x, rfl, _, rfl⟩
  · refine ⟨hexplained, ?_, ?_⟩
    · rw [inheritedFromHello_concat]
      exact hu.1
    · -- HELLO forgets the request, but nothing keyed is on its way.
      intro x hx hk
      rw [hu.2 x hx] at hk
      cases hk
  · refine ⟨hexplained, ?_, ?_⟩
    · rw [inheritedFromHello_concat]
      rcases hl with ⟨rfl, _⟩ | ⟨rfl, _⟩
      · exact hI.inherited
      · exact hI.inherited
    · rw [requestedSinceHello_concat]
      rcases hl with ⟨rfl, _⟩ | ⟨rfl, _⟩
      · exact hI.inFlight
      · exact hI.inFlight
  · exact hI.locked hp hu h ht
  · refine ⟨hexplained, ?_, ?_⟩
    · rw [inheritedFromHello_concat]
      exact hI.inherited
    · rw [requestedSinceHello_concat]
      exact fun y hy => hI.inFlight y (List.mem_filter.mp hy).1

end StillAsked

theorem stillAsked_run {s : Threads F} {ls : List (Label F)} (hp : ∀ l ∈ ls, l.IsPublic)
    (hu : Along Threads.step Undisturbed Threads.init ls)
    (h : run Threads.step Threads.init ls = some s) : StillAsked ls s := by
  have hstart : StillAsked [] (Threads.init : Threads F) := by
    refine ⟨explained_run (fun _ h => nomatch h) rfl, rfl, ?_⟩
    intro x hx
    cases hx
  have hboth := along_and (along_of_forall fun l hl _ => hp l hl) hu
  exact run_history (I := StillAsked) (fun _ _ _ _ hP hI hs => hI.step hP.1 hP.2 hs) [] hboth hstart h

/-- What is handed over was on its way. -/
theorem inFlight_of_handed {s t : Threads F} {thread : ℕ} {x : Handed F}
    (h : s.step (.handOff thread) = some t) (hhanded : t.handed = s.handed++[x]) :
    ∃ y ∈ s.inFlight, y.built = x.built := by
  obtain ⟨y, hy, rfl⟩ := Option.map_eq_some_iff.mp h
  refine ⟨y, List.mem_of_find?_eq_some hy, ?_⟩
  unfold Threads.leave at hhanded
  dsimp only at hhanded
  split at hhanded
  · have hone := List.append_cancel_left hhanded
    cases hone
    rfl
  · -- A snapshot that does not pack is not handed over.
    simp at hhanded

/-- A desired state that is handed over with the PTT bit was asked for when its section built it,
exactly if the bit was not inherited from HELLO. If no HELLO brings the bit, and no HELLO and no
`set_ptt(False)` overtakes a keyed snapshot, it is still asked for when it is handed over. -/
theorem keyed_on_request_iff {s : Threads F} {ls : List (Label F)} (hp : ∀ l ∈ ls, l.IsPublic)
    (h : run Threads.step Threads.init ls = some s) :
    (∀ x ∈ s.handed, ∃ before thread c, before++[.locked thread c] <+: ls ∧
      BuiltAfter before thread c x.index x.built ∧
        ((x.built.state.keyed = true →
            requestedSinceHello (before++[.locked thread c]) = true) ↔
          inheritedFromHello (before++[.locked thread c]) = false)) ∧
      (Along Threads.step Undisturbed Threads.init ls →
        ∀ thread t x, s.step (.handOff thread) = some t → t.handed = s.handed++[x] →
          x.built.state.keyed = true → requestedSinceHello ls = true) := by
  constructor
  · intro x hx
    obtain ⟨before, thread, c, hpre, hbuilt, hkeyed⟩ :=
      (explained_run hp h).built x.index x.built ((tracked_run h).handed x hx).1
    refine ⟨before, thread, c, hpre, hbuilt, ?_⟩
    rw [hkeyed, Bool.or_eq_true]
    constructor
    · intro himp
      by_contra hinherited
      have hyes := Bool.eq_true_of_not_eq_false hinherited
      exact hinherited (inherited_of_requested (himp (Or.inr hyes)))
    · intro hno hor
      rw [hno] at hor
      exact hor.resolve_right Bool.false_ne_true
  · intro hu thread t x hstep hhanded hk
    obtain ⟨y, hy, hsame⟩ := inFlight_of_handed hstep hhanded
    rw [← hsame] at hk
    exact (stillAsked_run hp hu h).inFlight y hy hk

/-- After `set_ptt(True)` the snapshot handed over is keyed, and it was asked for. -/
theorem keyed_on_request_dummy :
    ∃ s t x, run Threads.step (Threads.init : Threads Binary32)
        [.hello dummyHello, .replay, .locked 0 (.requestPtt true)] = some s ∧
      s.step (.handOff 0) = some t ∧ t.handed = s.handed++[x] ∧ x.built.state.keyed = true ∧
      requestedSinceHello [.hello dummyHello, .replay, .locked 0 (.requestPtt true)] = true := by
  have hnone : (run Threads.step (Threads.init : Threads Binary32)
      [.hello dummyHello, .replay, .locked 0 (.requestPtt true)]).map (·.handed) = some [] := by
    decide +kernel
  obtain ⟨s, hs, hempty⟩ := Option.map_eq_some_iff.mp hnone
  have hkeyed : ((run Threads.step (Threads.init : Threads Binary32)
      [.hello dummyHello, .replay, .locked 0 (.requestPtt true)]).bind (·.step (.handOff 0))).map
        (fun t => t.handed.map fun x => x.built.state.keyed) = some [true] := by
    decide +kernel
  rw [hs, Option.bind_some] at hkeyed
  obtain ⟨t, ht, hhanded⟩ := Option.map_eq_some_iff.mp hkeyed
  obtain ⟨x, hx, hk⟩ := List.map_eq_singleton_iff.mp hhanded
  have hpublic : ∀ l ∈ [Label.hello dummyHello, .replay, .locked 0 (.requestPtt true)],
      l.IsPublic := by
    simp only [List.forall_mem_cons]
    exact ⟨trivial, trivial, ⟨.setPtt true, List.mem_singleton_self _⟩, fun _ h => nomatch h⟩
  have hundisturbed : Along Threads.step Undisturbed (Threads.init : Threads Binary32)
      [.hello dummyHello, .replay, .locked 0 (.requestPtt true)] :=
    ⟨⟨by decide +kernel, fun _ h => nomatch h⟩, trivial, trivial, trivial⟩
  have hadded : t.handed = s.handed++[x] := by rw [hx, hempty, List.nil_append]
  exact ⟨s, t, x, hs, ht, hadded, hk,
    (keyed_on_request_iff hpublic hs).2 hundisturbed 0 t x ht hadded hk⟩

/-- A transport whose HELLO reports a PTT request. -/
def keyedTransport : DummyTransport Binary32 := { dummyTransport with deviceStateFlags := 3 }

def keyedHello : Hello Binary32 :=
  ⟨Version.ofRecord keyedTransport.versionRecord, DeviceState.ofRecord keyedTransport.deviceStateRecord⟩

/-- HELLO reports a PTT request, `set_squelch` is called and sends a keyed state: nobody called
`set_ptt`. -/
theorem keyed_without_request :
    (∃ payload, (Hello.fromBytes payload : Except (PyError Binary32) _) = .ok keyedHello) ∧
      ((run Threads.step Threads.init
          [.hello keyedHello, .replay, .locked 0 (.setSquelch 3)]).bind (·.step (.handOff 0))).map
        (fun s => s.handed.map fun x => x.built.state.keyed) = some [true] ∧
      requestedSinceHello [.hello keyedHello, .replay, .locked 0 (.setSquelch 3)] = false := by
  exact ⟨builtHello_parses (t := keyedTransport) (by decide +kernel), by decide +kernel, rfl⟩

end Kv4p
