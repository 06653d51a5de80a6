import Kv4p.FlowControl
import Kv4p.Library.Monitor

/-! The flow-control window shared by threads: claims that wait for credit on its condition, refills
and resets that notify them all. -/
namespace Kv4p
open Monitors Transitions

/-- The operations that change the window for everybody. -/
inductive WindowChange
  | reset (size : ℤ)
  | add (size : ℤ)
deriving DecidableEq, Repr

namespace WindowChange

def apply : WindowChange → FlowControlWindow → FlowControlWindow
  | reset size, w => w.reset size
  | add size, w => w.add size

def size : WindowChange → ℤ
  | reset size => size
  | add size => size

end WindowChange

variable {ρ : Type}

/-- The window serves claims of whatever asks for a number of bytes. -/
def windowService (bytes : ρ → ℤ) : Service FlowControlWindow ρ WindowChange where
  serve w request := w.tryClaim (bytes request)
  change := WindowChange.apply

variable {bytes : ρ → ℤ}

/-- Granting a claim shrinks the window, so nobody who waits is helped by it. -/
theorem windowService_takes : (windowService bytes).Takes fun request => 0 ≤ bytes request := by
  intro w w' request request' hpos hserved hwaits
  obtain ⟨_, rfl⟩ := FlowControlWindow.tryClaim_eq_some.mp hserved
  have hlt : w.size < bytes request' := FlowControlWindow.tryClaim_eq_none.mp hwaits
  apply FlowControlWindow.tryClaim_eq_none.mpr
  dsimp only
  omega

/-- No size is negative. -/
def ActionNonneg (bytes : ρ → ℤ) : Action ρ WindowChange → Prop
  | .enter _ request _ => 0 ≤ bytes request
  | .wake _ => True
  | .resume _ _ => True
  | .change k => 0 ≤ k.size

theorem window_nonneg_step {m t : Monitor FlowControlWindow ρ WindowChange}
    {a : Action ρ WindowChange} (ha : ActionNonneg bytes a) (hI : 0 ≤ m.data.size)
    (h : (windowService bytes).step m a = some t) : 0 ≤ t.data.size := by
  rcases Service.step_cases h with ⟨thread, request, expired, rfl, _⟩ | ⟨_, _, _, _, rfl⟩ |
    ⟨k, rfl, rfl⟩
  · rcases Service.turn_cases m thread request expired with ⟨w, hs, hturn⟩ | ⟨_, _, hturn⟩ |
      ⟨_, _, hturn⟩
    all_goals rw [hturn]
    · -- A claim is granted only out of what is there.
      obtain ⟨hle, rfl⟩ := FlowControlWindow.tryClaim_eq_some.mp hs
      dsimp only
      omega
    · exact hI
    · exact hI
  · exact hI
  · have hk : 0 ≤ k.size := ha
    cases k with
    | reset size => exact hk
    | add size => exact add_nonneg hI hk

theorem window_nonneg_run {size : ℤ} (h0 : 0 ≤ size)
    {m : Monitor FlowControlWindow ρ WindowChange} {as : List (Action ρ WindowChange)}
    (h : run (windowService bytes).step (Monitor.start ⟨size⟩) as = some m)
    (has : ∀ a ∈ as, ActionNonneg bytes a) : 0 ≤ m.data.size :=
  run_invariant_of (I := fun m => 0 ≤ m.data.size)
    (fun _ _ _ ha hI hs => window_nonneg_step ha hI hs) has h0 h

/-- The balance after one more event: a reset sets it, a refill adds, a granted claim takes, a claim
that returned `False` leaves it alone. -/
def balanceAfter (bytes : ρ → ℤ) (balance : ℤ) : Event ρ WindowChange → ℤ
  | .changed (.reset size) => size
  | .changed (.add size) => balance+size
  | .returned _ request true => balance-bytes request
  | .returned _ _ false => balance

theorem window_accounts :
    (windowService bytes).Accounts FlowControlWindow.size (balanceAfter bytes) where
  served w w' thread request hs := by
    obtain ⟨_, rfl⟩ := FlowControlWindow.tryClaim_eq_some.mp hs
    rfl
  refused _ _ _ := rfl
  changed w k := by cases k <;> rfl

/-- Any number of threads claim any sizes while others refill and reset, with wake-ups and timeouts
at any time. The window is the balance of the log and never negative, a claim returns `False` only
when the window is smaller than its size, and then changes nothing, and no claim is asleep without a
notification while the window is at least its size. -/
theorem flow_control_sound {size : ℤ} (h0 : 0 ≤ size)
    {m : Monitor FlowControlWindow ℤ WindowChange} {as : List (Action ℤ WindowChange)}
    (h : run (windowService id).step (Monitor.start ⟨size⟩) as = some m)
    (has : ∀ a ∈ as, ActionNonneg id a) :
    m.data.size = m.log.foldl (balanceAfter id) size ∧ 0 ≤ m.data.size ∧
      (∀ a t thread claimed, (windowService id).step m a = some t →
        t.log = m.log++[.returned thread claimed false] →
          m.data.size < claimed ∧ t.data = m.data) ∧
      ∀ w ∈ m.waiting, w.asleep = true → m.data.size < w.request := by
  refine ⟨window_accounts.run h, window_nonneg_run h0 h has, ?_, ?_⟩
  · intro a t thread claimed hs hlog
    obtain ⟨hnone, hdata⟩ := Service.data_of_refused hs hlog
    exact ⟨FlowControlWindow.tryClaim_eq_none.mp hnone, hdata⟩
  · have hof : ∀ a ∈ as, Service.Action.Of (fun n : ℤ => 0 ≤ id n) a := by
      intro a ha
      have hn := has a ha
      cases a with
      | enter thread request expired => exact hn
      | wake | resume | change => trivial
    have hsound := Service.sound_run windowService_takes h hof
    intro w hw hasleep
    exact FlowControlWindow.tryClaim_eq_none.mp (hsound.overslept w hw hasleep)

/-- A claim of 150 sleeps on a window of 100, another takes 60 meanwhile, and a refill of 120 lets the
first one go on. -/
theorem flow_control_sound_refill :
    let actions : List (Action ℤ WindowChange) :=
      [.enter 0 150 false, .enter 1 60 false, .change (.add 120), .resume 0 false]
    let m : Monitor FlowControlWindow ℤ WindowChange :=
      ⟨⟨10⟩, [], [.returned 1 60 true, .changed (.add 120), .returned 0 150 true]⟩
    run (windowService id).step (Monitor.start ⟨100⟩) actions = some m ∧
      m.data.size = m.log.foldl (balanceAfter id) 100 := by
  intro actions m
  have hrun : run (windowService id).step (Monitor.start ⟨100⟩) actions = some m := by
    decide +kernel
  have hnonneg : ∀ a ∈ actions, ActionNonneg id a := by simp [actions, ActionNonneg,
    WindowChange.size]
  exact ⟨hrun, (flow_control_sound (by decide) hrun hnonneg).1⟩

end Kv4p
