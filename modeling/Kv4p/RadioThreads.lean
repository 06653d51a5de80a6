import Kv4p.HandOffOrder
import Kv4p.Wire

/-! Every run of the radio object is a run of the shared tracker in which one thread calls setters:
used by one thread, the radio sends its desired states in order. -/
namespace Kv4p
open Effects Transitions

variable {F : Type}

/-- The tracker without what only `wait_for_hello` and the callbacks look at. -/
def DeviceStateTracker.core (t : DeviceStateTracker F) : DeviceStateTracker F :=
  { t with helloEvent := false, last := ⟨none, none, none⟩ }

variable [PyFloat F]

/-- The HELLOs and the desired states of a log, up to one more event: how many HELLOs there were, and
the desired states handed to the transport, each with the number of HELLOs before it. -/
def frameAfter (a : ℕ × List (ℕ × HostDesiredState F)) :
    Event F → ℕ × List (ℕ × HostDesiredState F)
  | .hello _ => (a.1+1, a.2)
  | .transport call _ =>
    match (call.desiredState : Option (HostDesiredState F)) with
    | some d => (a.1, a.2++[(a.1, d)])
    | none => a
  | .callback _ _ => a

def desiredFrames (log : List (Event F)) : ℕ × List (ℕ × HostDesiredState F) :=
  log.foldl frameAfter (0, [])

theorem desiredFrames_concat (log : List (Event F)) (e : Event F) :
    desiredFrames (log++[e]) = frameAfter (desiredFrames log) e := by
  rw [desiredFrames, List.foldl_append]
  rfl

theorem desiredFrames_quiet {w v : World F} (h : Quiet w v) :
    desiredFrames v.log = desiredFrames w.log :=
  h.foldl_log (fun _ _ _ => rfl) (0, [])

theorem desiredFrames_record_harmless (w : World F) {call : TransportCall} (h : Harmless call)
    (ok : Bool) : desiredFrames (w.record (.transport call ok)).log = desiredFrames w.log := by
  rw [World.record, desiredFrames_concat, frameAfter, desiredState_of_harmless h]

theorem desiredFrames_record_desired (w : World F) {d : HostDesiredState F} {body : List UInt8}
    (h : d.toBytes = .ok body) (ok : Bool) :
    desiredFrames (w.record (.transport (desiredCall body) ok)).log =
      ((desiredFrames w.log).1,
        (desiredFrames w.log).2++[((desiredFrames w.log).1, d.onWire)]) := by
  rw [World.record, desiredFrames_concat, frameAfter, desiredState_desiredCall h]

/-- A setter that thread 0 carries out alone. -/
def Threads.oneCall (s : Threads F) (c : SetterCall F) : Threads F :=
  (s.push 0 c).leave ⟨0, s.built.length, ⟨c.snapshot s.tracker, s.hellos⟩⟩

theorem run_oneCall {s : Threads F} {c : SetterCall F} (hidle : s.inFlight = [])
    (hs : c.suppressed s.tracker.settings = false) :
    run Threads.step s [.locked 0 c, .handOff 0] = some (s.oneCall c) := by
  have hlocked : s.step (.locked 0 c) = some (s.push 0 c) := by
    rcases enter_cases s 0 c with ⟨hn, _⟩ | ⟨_, h⟩
    · rw [hs] at hn
      cases hn
    · rw [Threads.step, Threads.sending, hidle, h]
      rfl
  exact run_cons.mpr ⟨_, hlocked, run_singleton.mpr rfl⟩

theorem inFlight_oneCall {s : Threads F} (hidle : s.inFlight = []) (c : SetterCall F) :
    (s.oneCall c).inFlight = [] := by
  rw [Threads.oneCall, Threads.leave, Threads.push, hidle]
  rfl

theorem built_oneCall (s : Threads F) (c : SetterCall F) :
    (s.oneCall c).built.length = s.built.length+1 := List.length_append

theorem handed_oneCall (s : Threads F) (c : SetterCall F) :
    (s.oneCall c).handed = s.handed++(if (c.snapshot s.tracker).packs = true then
      [⟨s.built.length, ⟨c.snapshot s.tracker, s.hellos⟩, s.built.length+1⟩] else []) := by
  have hlen : (s.push 0 c).built.length = s.built.length+1 := List.length_append
  rw [Threads.oneCall, Threads.leave, hlen]
  cases (c.snapshot s.tracker).packs with
  | true => rfl
  | false => exact (List.append_nil _).symm

/-- Every frame was handed over before the next snapshot was built. -/
structure OneByOne (s : Threads F) : Prop where
  order : s.handed.Pairwise fun x y => x.builtBefore ≤ y.index
  bound : ∀ x ∈ s.handed, x.builtBefore ≤ s.built.length

theorem OneByOne.oneCall {s : Threads F} (hI : OneByOne s) (c : SetterCall F) :
    OneByOne (s.oneCall c) := by
  have hlen := built_oneCall s c
  constructor
  · rw [handed_oneCall]
    apply List.pairwise_append.mpr
    refine ⟨hI.order, ?_, ?_⟩
    · split
      · exact List.pairwise_singleton _ _
      · exact List.Pairwise.nil
    · intro x hx y hy
      split at hy
      · rw [List.mem_singleton.mp hy]
        exact hI.bound x hx
      · cases hy
  · intro x hx
    rw [hlen]
    rw [handed_oneCall] at hx
    rcases List.mem_append.mp hx with hx | hx
    · exact (hI.bound x hx).trans (Nat.le_succ _)
    · split at hx
      · rw [List.mem_singleton.mp hx]
      · cases hx

/-- Between two calls the radio is where the threads are with no snapshot on its way. -/
structure Matches (w : World F) (s : Threads F) : Prop where
  tracker : s.tracker = w.tracker.core
  replay : s.replay = none
  idle : s.inFlight = []
  alone : OneByOne s
  frames : desiredFrames w.log =
    (s.hellos, s.handed.map fun x => (x.built.hellos, x.built.state.onWire))

/-- The radio got here the way one thread and the receiving thread could have. -/
def Simulated (w : World F) : Prop :=
  w.tracker.txAudioCommand ≠ commandHostDesiredState ∧
    ∃ ls s, run Threads.step Threads.init ls = some s ∧ Matches w s

namespace Simulated

/-- Further steps of the threads that lead to a matching state. -/
theorem extend {w : World F} {ls ms : List (Label F)} {s t : Threads F}
    (h : run Threads.step Threads.init ls = some s) (hrun : run Threads.step s ms = some t)
    (ha : w.tracker.txAudioCommand ≠ commandHostDesiredState) (hm : Matches w t) :
    Simulated w :=
  ⟨ha, ls++ms, t, run_append.mpr ⟨s, h, hrun⟩, hm⟩

/-- Moves that change neither the tracker's core nor the frames. -/
theorem still {w v : World F} (hI : Simulated w)
    (ha : v.tracker.txAudioCommand = w.tracker.txAudioCommand)
    (ht : v.tracker.core = w.tracker.core) (hf : desiredFrames v.log = desiredFrames w.log) :
    Simulated v := by
  obtain ⟨haudio, ls, s, hrun, hm⟩ := hI
  rw [← ha] at haudio
  exact ⟨haudio, ls, s, hrun, hm.tracker.trans ht.symm, hm.replay, hm.idle, hm.alone,
    hf.trans hm.frames⟩

theorem quiet {w v : World F} (h : Quiet w v) (hI : Simulated w) : Simulated v := by
  obtain ⟨last, ht⟩ := h.tracker
  apply hI.still
  · rw [ht]
  · rw [ht]
    rfl
  · exact desiredFrames_quiet h

theorem takeHello {w : World F} (hI : Simulated w) (hello : Hello F) :
    Simulated (w.takeHello hello) := by
  obtain ⟨_, ls, s, hrun, hm⟩ := hI
  have htracker : ((s.tracker.onHelloLocked hello).onDeviceStateLocked hello.deviceState) =
      (w.takeHello hello).tracker.core := by
    have hsame := congrArg World.tracker (takeReport_takeHello w hello)
    rw [hm.tracker, ← hsame]
    rfl
  have hstep : run Threads.step s [.hello hello, .replay] = some { s with
      tracker := (s.tracker.onHelloLocked hello).onDeviceStateLocked hello.deviceState
      replay := none
      hellos := s.hellos+1 } := by
    have hfirst : s.step (.hello hello) = some { s with
        tracker := s.tracker.onHelloLocked hello
        replay := some hello.deviceState
        hellos := s.hellos+1 } := by
      rw [Threads.step, hm.replay]
      rfl
    exact run_cons.mpr ⟨_, hfirst, run_singleton.mpr rfl⟩
  have hframes : desiredFrames (w.takeHello hello).log =
      (s.hellos+1, s.handed.map fun x => (x.built.hellos, x.built.state.onWire)) := by
    have hlog : (w.takeHello hello).log = w.log++[.hello hello] := rfl
    rw [hlog, desiredFrames_concat, hm.frames]
    rfl
  exact extend hrun hstep (txAudioCommand_takeHello w hello)
    ⟨htracker, rfl, hm.idle, ⟨hm.alone.order, hm.alone.bound⟩, hframes⟩

theorem takeReport {w : World F} (hI : Simulated w) (state : DeviceState F) :
    Simulated (w.takeReport state) := by
  obtain ⟨ha, ls, s, hrun, hm⟩ := hI
  have hstep : run Threads.step s [.report state] =
      some { s with tracker := s.tracker.onDeviceStateLocked state } := by
    apply run_singleton.mpr
    rw [Threads.step, hm.replay]
    rfl
  have htracker : s.tracker.onDeviceStateLocked state = (w.takeReport state).tracker.core := by
    rw [hm.tracker]
    rfl
  exact extend hrun hstep ha
    ⟨htracker, hm.replay, hm.idle, ⟨hm.alone.order, hm.alone.bound⟩, hm.frames⟩

theorem survives : Survives (F := F) (fun _ => True) Simulated where
  quiet := quiet
  hello _ hI := hI.takeHello _
  report _ hI := hI.takeReport _
  error _ hI := hI.still rfl rfl rfl
  clearError hI := hI.still rfl rfl rfl
  isOpen _ hI := hI.still rfl rfl rfl
  call ok hc hI := hI.still rfl rfl (desiredFrames_record_harmless _ hc ok)
  audio hI := hI.1

/-- A setter call of the radio is a locked section and, if it built a snapshot, its hand-off. -/
theorem keeps_call (env : Environment F) (c : SetterCall F) :
    Keeps Simulated (trackerCall env c) := by
  intro w hI
  have hframe := trackerCall_frame env c w
  have haudio := (tracker_trackerCall env c w).2.2
  rcases trackerCall_cases env c w with ⟨_, h⟩ | hsent
  · -- Nothing to send: the radio stays where it is, and so do the threads.
    rw [h]
    exact hI
  · obtain ⟨ha, ls, s, hrun, hm⟩ := hI
    have hs : c.suppressed w.tracker.settings = false := by
      rcases hsent with ⟨hs, _⟩ | ⟨hs, _⟩ | ⟨hs, _⟩ <;> exact hs
    have hsnapshot : c.snapshot s.tracker = c.snapshot w.tracker := by
      rw [hm.tracker]
      rfl
    have hmore : run Threads.step s [.locked 0 c, .handOff 0] = some (s.oneCall c) := by
      apply run_oneCall hm.idle
      rw [hm.tracker]
      exact hs
    have htracker : (s.oneCall c).tracker = ((trackerCall env c).run w).2.tracker.core := by
      have hsec : (w.tracker.setterSection c).2 = { w.tracker with
          settings := c.mutate w.tracker.settings
          sequence := w.tracker.nextSequence } := by
        rcases setterSection_cases w.tracker c with ⟨hn, _⟩ | ⟨_, h⟩
        · rw [hs] at hn
          cases hn
        · rw [h]
      rw [hframe.1, hsec, Threads.oneCall, Threads.leave, Threads.push, hm.tracker]
      rfl
    rw [← haudio] at ha
    refine extend hrun hmore ha
      ⟨htracker, hm.replay, inFlight_oneCall hm.idle c, hm.alone.oneCall c, ?_⟩
    -- A snapshot that does not pack reaches neither log; the others reach both, refused or not.
    have hold : desiredFrames (w.afterSection c).log = _ := hm.frames
    rw [handed_oneCall, List.map_append, hsnapshot]
    rcases hsent with ⟨_, e, he, h⟩ | ⟨_, body, hb, _, h⟩ | ⟨_, body, hb, _, h⟩
    · have hp : (c.snapshot w.tracker).packs = false := by rw [HostDesiredState.packs, he]
      rw [h, hp, if_neg Bool.noConfusion, List.map_nil, List.append_nil]
      exact hold
    · rw [h, packs_iff.mpr ⟨body, hb⟩, desiredFrames_record_desired _ hb, hold]
      rfl
    · rw [h, packs_iff.mpr ⟨body, hb⟩, desiredFrames_record_desired _ hb, hold]
      rfl

end Simulated

/-- Every run of the radio, whatever the transport and the callbacks do, is matched by a run of the
threads that hands over the same desired states in the same order. -/
theorem radio_simulated (env : Environment F) (ops : List (Op F)) :
    ∃ ls s, run Threads.step Threads.init ls = some s ∧
      Matches (World.run env World.init ops) s := by
  have haudio : commandAudioOpus ≠ commandHostDesiredState := by decide
  have halone : OneByOne (Threads.init : Threads F) :=
    ⟨List.Pairwise.nil, by simp [Threads.init]⟩
  have hstart : Simulated (World.init : World F) :=
    ⟨haudio, [], Threads.init, run_nil.mpr rfl, rfl, rfl, rfl, halone, rfl⟩
  have hset : ∀ (w : World F) (op : Op F), Simulated w → True → ∀ c ∈ op.setters,
      c.check w = .ok () → Simulated ((Effect.each (trackerCall env) c.trackerCalls).run w).2 :=
    fun w _ hI _ _ _ _ => keeps_each (fun c _ => Simulated.keeps_call env c) w hI
  exact (Simulated.survives.run hset (fun _ _ _ _ => trivial) hstart
    (allSteps_of_forall fun _ _ _ => trivial)).2

/-- A radio used by one thread hands over desired states with increasing numbers from HELLO to
HELLO. -/
theorem radio_frames_increasing (env : Environment F) (ops : List (Op F)) :
    (desiredFrames (World.run env World.init ops).log).2.Pairwise fun x y =>
      x.1 = y.1 → x.2.sequence < y.2.sequence := by
  obtain ⟨ls, s, hrun, hm⟩ := radio_simulated env ops
  have hnum := numbered_run hrun
  have htr := tracked_run hrun
  rw [hm.frames]
  apply List.pairwise_map.mpr
  apply hm.alone.order.imp_of_mem
  intro x y hx hy hle he
  obtain ⟨hbx, hlt⟩ := htr.handed x hx
  obtain ⟨hby, _⟩ := htr.handed y hy
  exact hnum.sequence_lt hbx hby (hlt.trans_le hle) he

end Kv4p
