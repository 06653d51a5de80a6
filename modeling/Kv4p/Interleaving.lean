import Kv4p.Library.Transition
import Kv4p.Tracker

/-! The tracker shared by threads: locked sections of setters and of the receiving thread, and the
hand-off of every snapshot to the transport after the lock was released, in any order. -/
namespace Kv4p
open Transitions

variable {F : Type}

/-- A snapshot, with the number of HELLOs taken over before its locked section. -/
structure Built (F : Type) where
  state : HostDesiredState F
  hellos : ℕ
deriving DecidableEq

/-- A snapshot on its way to the transport: its thread, and its place among all that were built. -/
structure InFlight (F : Type) where
  thread : ℕ
  index : ℕ
  built : Built F
deriving DecidableEq

/-- A frame handed to the transport: the place of its snapshot among all that were built, and how
many had been built when it was handed over. -/
structure Handed (F : Type) where
  index : ℕ
  built : Built F
  builtBefore : ℕ
deriving DecidableEq

structure Threads (F : Type) where
  tracker : DeviceStateTracker F
  /-- The report the receiving thread still passes to `on_device_state` before `on_hello` returns. -/
  replay : Option (DeviceState F)
  hellos : ℕ
  built : List (Built F)
  inFlight : List (InFlight F)
  handed : List (Handed F)
deriving DecidableEq

/-- What happens next: the receiving thread takes over a HELLO, passes its report on, or takes over
a DEVICE_STATE; a thread runs the locked section of a setter, or hands its snapshot over. -/
inductive Label (F : Type)
  | hello (hello : Hello F)
  | replay
  | report (state : DeviceState F)
  | locked (thread : ℕ) (c : SetterCall F)
  | handOff (thread : ℕ)
deriving DecidableEq

namespace Threads

def init [PyFloat F] : Threads F := ⟨DeviceStateTracker.init, none, 0, [], [], []⟩

/-- The snapshot a thread is about to hand over, if it is not outside a setter. -/
def sending (s : Threads F) (thread : ℕ) : Option (InFlight F) :=
  s.inFlight.find? (·.thread == thread)

def enter (s : Threads F) (thread : ℕ) (c : SetterCall F) : Threads F :=
  match s.tracker.setterSection c with
  | (none, tracker) => { s with tracker := tracker }
  | (some state, tracker) =>
    { s with
      tracker := tracker
      built := s.built++[⟨state, s.hellos⟩]
      inFlight := ⟨thread, s.built.length, ⟨state, s.hellos⟩⟩ :: s.inFlight }

/-- A snapshot that does not pack raises before it reaches the transport. -/
def leave [PyFloat F] (s : Threads F) (x : InFlight F) : Threads F :=
  { s with
    inFlight := s.inFlight.filter (·.thread != x.thread)
    handed :=
      if x.built.state.packs then s.handed++[⟨x.index, x.built, s.built.length⟩] else s.handed }

/-- A thread that is handing over a snapshot starts no other setter, and the receiving thread takes
frames one at a time. -/
def step [PyFloat F] (s : Threads F) : Label F → Option (Threads F)
  | .hello hello =>
    -- The receiving thread is still inside the `on_hello` of the HELLO before.
    if s.replay.isSome then none
    else some { s with
      tracker := s.tracker.onHelloLocked hello
      replay := some hello.deviceState
      hellos := s.hellos+1 }
  | .replay =>
    match s.replay with
    | none => none
    | some state => some { s with
        tracker := s.tracker.onDeviceStateLocked state
        replay := none }
  | .report state =>
    if s.replay.isSome then none
    else some { s with tracker := s.tracker.onDeviceStateLocked state }
  | .locked thread c => if (s.sending thread).isSome then none else some (s.enter thread c)
  | .handOff thread => (s.sending thread).map s.leave

end Threads

/-- A locked section that builds a snapshot. -/
def Threads.push (s : Threads F) (thread : ℕ) (c : SetterCall F) : Threads F :=
  { s with
    tracker := { s.tracker with
      settings := c.mutate s.tracker.settings
      sequence := s.tracker.nextSequence }
    built := s.built++[⟨c.snapshot s.tracker, s.hellos⟩]
    inFlight := ⟨thread, s.built.length, ⟨c.snapshot s.tracker, s.hellos⟩⟩ :: s.inFlight }

theorem enter_cases (s : Threads F) (thread : ℕ) (c : SetterCall F) :
    (c.suppressed s.tracker.settings = true ∧ s.enter thread c = s) ∨
      (c.suppressed s.tracker.settings = false ∧ s.enter thread c = s.push thread c) := by
  unfold Threads.enter
  rcases setterSection_cases s.tracker c with ⟨hs, h⟩ | ⟨hs, h⟩
  · rw [h]
    exact Or.inl ⟨hs, rfl⟩
  · rw [h]
    exact Or.inr ⟨hs, rfl⟩

variable [PyFloat F]

theorem step_cases {s t : Threads F} {l : Label F} (h : s.step l = some t) :
    (∃ hello, l = .hello hello ∧ s.replay = none ∧
      t = { s with
        tracker := s.tracker.onHelloLocked hello
        replay := some hello.deviceState
        hellos := s.hellos+1 }) ∨
    (∃ state replay, (l = .replay ∧ s.replay = some state ∧ replay = none ∨
        l = .report state ∧ s.replay = none ∧ replay = s.replay) ∧
      t = { s with tracker := s.tracker.onDeviceStateLocked state, replay := replay }) ∨
    (∃ thread c, l = .locked thread c ∧ s.sending thread = none ∧ t = s.enter thread c) ∨
    (∃ thread x, l = .handOff thread ∧ s.sending thread = some x ∧ t = s.leave x) := by
  cases l with
  | hello hello =>
    rw [Threads.step] at h
    split at h
    · cases h
    · rename_i hr
      cases h
      exact Or.inl ⟨hello, rfl, by simpa using hr, rfl⟩
  | replay =>
    rw [Threads.step] at h
    split at h
    · cases h
    · rename_i state hr
      cases h
      exact Or.inr (Or.inl ⟨state, none, Or.inl ⟨rfl, hr, rfl⟩, rfl⟩)
  | report state =>
    rw [Threads.step] at h
    split at h
    · cases h
    · rename_i hr
      cases h
      exact Or.inr (Or.inl ⟨state, s.replay, Or.inr ⟨rfl, by simpa using hr, rfl⟩, rfl⟩)
  | locked thread c =>
    rw [Threads.step] at h
    split at h
    · cases h
    · rename_i hr
      cases h
      exact Or.inr (Or.inr (Or.inl ⟨thread, c, rfl, by simpa using hr, rfl⟩))
  | handOff thread =>
    obtain ⟨x, hx, rfl⟩ := Option.map_eq_some_iff.mp h
    exact Or.inr (Or.inr (Or.inr ⟨thread, x, rfl, hx, rfl⟩))

/-- What a locked section that builds a snapshot builds. -/
theorem built_of_locked {s t : Threads F} {thread : ℕ} {c : SetterCall F} {x : Built F}
    (h : s.step (.locked thread c) = some t) (hb : t.built = s.built++[x]) :
    x = ⟨c.snapshot s.tracker, s.hellos⟩ := by
  rcases step_cases h with ⟨_, hl, _⟩ | ⟨_, _, hl, _⟩ | ⟨_, _, hl, _, rfl⟩ | ⟨_, _, hl, _⟩
  · cases hl
  · rcases hl with ⟨hl, _⟩ | ⟨hl, _⟩ <;> cases hl
  · cases hl
    rcases enter_cases s thread c with ⟨_, he⟩ | ⟨_, he⟩
    · rw [he] at hb
      simp at hb
    · rw [he] at hb
      simpa [Threads.push, eq_comm] using hb
  · cases hl

end Kv4p
