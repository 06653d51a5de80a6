import Mathlib.Algebra.Order.Ring.Int

/-! The flow-control window: how many bytes may still be sent. -/
namespace Kv4p

structure FlowControlWindow where
  size : ℤ
deriving DecidableEq, Repr

namespace FlowControlWindow

def init : FlowControlWindow := ⟨2048⟩

def reset (_ : FlowControlWindow) (size : ℤ) : FlowControlWindow := ⟨size⟩

def add (w : FlowControlWindow) (size : ℤ) : FlowControlWindow := ⟨w.size+size⟩

/-- One turn of the loop in `claim` with the lock held: deduct, or find too little and wait. -/
def tryClaim (w : FlowControlWindow) (size : ℤ) : Option FlowControlWindow :=
  if w.size < size then none else some ⟨w.size-size⟩

theorem tryClaim_eq_some {w w' : FlowControlWindow} {size : ℤ} :
    w.tryClaim size = some w' ↔ size ≤ w.size ∧ w' = ⟨w.size-size⟩ := by
  unfold tryClaim
  split
  · rename_i h
    simp [not_le.mpr h]
  · rename_i h
    simp [not_lt.mp h, eq_comm]

theorem tryClaim_eq_none {w : FlowControlWindow} {size : ℤ} :
    w.tryClaim size = none ↔ w.size < size := by
  unfold tryClaim
  split
  · rename_i h
    simp [h]
  · rename_i h
    simp [h]

end FlowControlWindow

end Kv4p
