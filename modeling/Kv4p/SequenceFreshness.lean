import Kv4p.HandOffOrder

/-! Every number the tracker issues is new: above all numbers issued, and above all numbers reported
as applied, since the last HELLO. What counts is the order of the locked sections, whichever threads
run them. -/
namespace Kv4p
open Transitions

variable {F : Type}

/-- A locked section of the tracker. `on_hello` has two: one that takes the HELLO over, and later that
of the call of `on_device_state` with the report inside. -/
inductive LockedSection (F : Type)
  | hello (hello : Hello F)
  | report (state : DeviceState F)
  | setter (c : SetterCall F)
deriving DecidableEq

def LockedSection.isHello : LockedSection F → Bool
  | hello _ => true
  | report _ => false
  | setter _ => false

/-- The sequence number a section deals with: one that the device says it has applied, or the one
given to a snapshot. -/
inductive Mark
  | applied (n : ℕ)
  | issued (n : ℕ)
deriving DecidableEq, Repr

def Mark.number : Mark → ℕ
  | applied n => n
  | issued n => n

namespace DeviceStateTracker

def afterSection (t : DeviceStateTracker F) : LockedSection F → DeviceStateTracker F
  | .hello hello => t.onHelloLocked hello
  | .report state => t.onDeviceStateLocked state
  | .setter c => (t.setterSection c).2

/-- A setter that has nothing to send issues no number. -/
def mark (t : DeviceStateTracker F) : LockedSection F → Option Mark
  | .hello hello => some (.applied hello.deviceState.appliedSequence)
  | .report state => some (.applied state.appliedSequence)
  | .setter c => (t.setterSection c).1.map fun state => .issued state.sequence

/-- The marks of sections that run one after the other. -/
def marks (t : DeviceStateTracker F) : List (LockedSection F) → List Mark
  | [] => []
  | a :: rest => (t.mark a).toList++(t.afterSection a).marks rest

end DeviceStateTracker

/-- If `y` was issued it is above `x`. -/
def Below (x y : Mark) : Prop := ∀ n, y = .issued n → x.number < n

/-- What a setter issues is above the counter, which moves up to it. -/
theorem issued_spec {t : DeviceStateTracker F} {c : SetterCall F} {x : Mark}
    (h : t.mark (.setter c) = some x) :
    x = .issued t.nextSequence ∧ (t.afterSection (.setter c)).sequence = t.nextSequence := by
  unfold DeviceStateTracker.mark at h
  unfold DeviceStateTracker.afterSection
  dsimp only at h ⊢
  rcases setterSection_cases t c with ⟨_, hc⟩ | ⟨_, hc⟩
  · rw [hc] at h
    cases h
  · rw [hc] at h ⊢
    cases h
    exact ⟨rfl, rfl⟩

/-- Whatever number a section deals with, the counter is not below it afterwards. -/
theorem mark_le_afterSection {t : DeviceStateTracker F} {a : LockedSection F} {x : Mark}
    (h : t.mark a = some x) : x.number ≤ (t.afterSection a).sequence := by
  cases a with
  | hello hello =>
    cases h
    exact le_rfl
  | report state =>
    cases h
    have hseq : (t.afterSection (.report state)).sequence =
        if state.appliedSequence > t.sequence then state.appliedSequence else t.sequence := rfl
    rw [hseq, Mark.number]
    split
    · exact le_rfl
    · omega
  | setter c =>
    obtain ⟨hx, hseq⟩ := issued_spec h
    rw [hseq, hx]
    exact le_rfl

/-- Only a HELLO moves the counter back. -/
theorem sequence_le_afterSection (t : DeviceStateTracker F) {a : LockedSection F}
    (ha : a.isHello = false) : t.sequence ≤ (t.afterSection a).sequence := by
  cases a with
  | hello hello => cases ha
  | report state => exact sequence_le_onDeviceState t state
  | setter c =>
    have hlt := sequence_lt_nextSequence t
    unfold DeviceStateTracker.afterSection
    dsimp only
    rcases setterSection_cases t c with ⟨_, hc⟩ | ⟨_, hc⟩
    · rw [hc]
    · rw [hc]
      exact hlt.le

/-- Until the next HELLO everything issued is above where the counter stands. -/
theorem sequence_lt_issued {t : DeviceStateTracker F} {epoch : List (LockedSection F)}
    (hno : ∀ a ∈ epoch, a.isHello = false) {n : ℕ} (hn : .issued n ∈ t.marks epoch) :
    t.sequence < n := by
  induction epoch generalizing t with
  | nil => cases hn
  | cons a rest ih =>
    have ha := hno a List.mem_cons_self
    have hle := sequence_le_afterSection t ha
    rcases List.mem_append.mp hn with hn | hn
    · have hmark : t.mark a = some (.issued n) := Option.mem_toList.mp hn
      cases a with
      | hello hello => cases ha
      | report state => cases hmark
      | setter c =>
        have heq := (issued_spec hmark).1
        cases heq
        exact sequence_lt_nextSequence t
    · have hlt := ih (fun b hb => hno b (List.mem_cons_of_mem a hb)) hn
      omega

/-- The marks of an epoch are in order from any counter that is not below its start. -/
theorem marks_pairwise (t : DeviceStateTracker F) {epoch : List (LockedSection F)}
    (hno : ∀ a ∈ epoch, a.isHello = false) : (t.marks epoch).Pairwise Below := by
  induction epoch generalizing t with
  | nil => exact List.Pairwise.nil
  | cons a rest ih =>
    have hrest : ∀ b ∈ rest, b.isHello = false := fun b hb => hno b (List.mem_cons_of_mem a hb)
    apply List.pairwise_append.mpr
    refine ⟨?_, ih (t.afterSection a) hrest, ?_⟩
    · cases t.mark a with
      | none => exact List.Pairwise.nil
      | some x => exact List.pairwise_singleton Below x
    · intro x hx y hy n hn
      have hle := mark_le_afterSection (Option.mem_toList.mp hx)
      rw [hn] at hy
      have hlt := sequence_lt_issued hrest hy
      omega

/-- From one HELLO to the next, in whatever order the locked sections of setters and reports run:
every number issued is above all numbers issued before it, above the number the HELLO reported as
applied, and above that of every report taken over before it. -/
theorem sequence_fresh (t : DeviceStateTracker F) (hello : Hello F)
    (epoch : List (LockedSection F)) (hno : ∀ a ∈ epoch, a.isHello = false) :
    (t.marks (.hello hello :: epoch)).Pairwise Below := by
  have hmarks : t.marks (.hello hello :: epoch) =
      .applied hello.deviceState.appliedSequence :: (t.onHelloLocked hello).marks epoch := rfl
  rw [hmarks]
  apply List.pairwise_cons.mpr
  refine ⟨?_, marks_pairwise (t.onHelloLocked hello) hno⟩
  intro y hy n hn
  rw [hn] at hy
  exact sequence_lt_issued hno hy

/-- Reports out of order between two setters. -/
theorem sequence_fresh_dummy :
    (DeviceStateTracker.init.marks [.hello dummyHello, .setter (.setSquelch 3),
        .report { dummyHello.deviceState with appliedSequence := 7 },
        .report { dummyHello.deviceState with appliedSequence := 2 },
        .setter (.setSquelch 4)]).Pairwise Below :=
  sequence_fresh DeviceStateTracker.init dummyHello _ (by decide)

/-- The numbers issued, in order. -/
def issuedNumbers (marks : List Mark) : List ℕ :=
  marks.filterMap fun x =>
    match x with
    | .issued n => some n
    | .applied _ => none

theorem marks_append (t : DeviceStateTracker F) (as bs : List (LockedSection F)) :
    t.marks (as++bs) = t.marks as++(as.foldl DeviceStateTracker.afterSection t).marks bs := by
  induction as generalizing t with
  | nil => rfl
  | cons a as ih =>
    rw [List.cons_append, DeviceStateTracker.marks, ih, DeviceStateTracker.marks, List.foldl_cons,
      List.append_assoc]

variable [PyFloat F]

/-- The threads got where they are by these locked sections. -/
structure Ran (secs : List (LockedSection F)) (s : Threads F) : Prop where
  tracker : s.tracker = secs.foldl DeviceStateTracker.afterSection DeviceStateTracker.init
  numbers : s.built.map (fun x => x.state.sequence) =
    issuedNumbers (DeviceStateTracker.init.marks secs)
  hellos : s.hellos = secs.countP LockedSection.isHello

theorem Ran.snoc {secs : List (LockedSection F)} {s t : Threads F} (h : Ran secs s)
    {a : LockedSection F} (ht : t.tracker = s.tracker.afterSection a)
    (hb : t.built.map (fun x => x.state.sequence) =
      s.built.map (fun x => x.state.sequence)++issuedNumbers (s.tracker.mark a).toList)
    (hh : t.hellos = s.hellos+[a].countP LockedSection.isHello) : Ran (secs++[a]) t := by
  have hmarks : s.tracker.marks [a] = (s.tracker.mark a).toList := List.append_nil _
  constructor
  · rw [ht, h.tracker, List.foldl_append]
    rfl
  · rw [hb, h.numbers, marks_append, ← h.tracker, hmarks]
    exact (List.filterMap_append ..).symm
  · rw [hh, h.hellos, List.countP_append]

/-- Every run of the threads is a list of locked sections. -/
theorem threads_sections {s : Threads F} {ls : List (Label F)}
    (h : run Threads.step Threads.init ls = some s) : ∃ secs, Ran secs s := by
  have hstep : ∀ (s : Threads F) (l : Label F) (t : Threads F), (∃ secs, Ran secs s) →
      s.step l = some t → ∃ secs, Ran secs t := by
    intro s l t hI hs
    obtain ⟨secs, hran⟩ := hI
    rcases step_cases hs with ⟨hello, _, _, rfl⟩ | ⟨state, replay, _, rfl⟩ |
      ⟨thread, c, _, _, rfl⟩ | ⟨thread, x, _, _, rfl⟩
    · exact ⟨_, hran.snoc (a := .hello hello) rfl (List.append_nil _).symm rfl⟩
    · exact ⟨_, hran.snoc (a := .report state) rfl (List.append_nil _).symm rfl⟩
    · refine ⟨_, hran.snoc (a := .setter c) ?_ ?_ ?_⟩
      all_goals
        rcases setterSection_cases s.tracker c with ⟨_, hc⟩ | ⟨_, hc⟩ <;>
          simp [Threads.enter, hc, DeviceStateTracker.afterSection, DeviceStateTracker.mark,
            issuedNumbers, LockedSection.isHello]
    · exact ⟨secs, hran.tracker, hran.numbers, hran.hellos⟩
  exact run_invariant hstep ⟨[], rfl, rfl, rfl⟩ h

end Kv4p
