import Mathlib.Data.List.Basic

/-! A register written by some of the operations of a history holds the last write. -/
namespace LastWrite

variable {Op α : Type}

/-- The value the history leaves: the last write, or the initial value if there was none. -/
def lastWrite (writes : Op → Option α) (init : α) (ops : List Op) : α :=
  ((ops.filterMap writes).getLast?).getD init

/-- One more operation is the last write if it writes. -/
theorem getLast?_filterMap_concat (writes : Op → Option α) (ops : List Op) (op : Op) :
    ((ops++[op]).filterMap writes).getLast? = (writes op).or (ops.filterMap writes).getLast? := by
  rw [List.filterMap_append, List.getLast?_append]
  cases hw : writes op with
  | none => simp [hw]
  | some a => simp [hw]

theorem lastWrite_concat (writes : Op → Option α) (init : α) (ops : List Op) (op : Op) :
    lastWrite writes init (ops++[op]) = (writes op).getD (lastWrite writes init ops) := by
  rw [lastWrite, lastWrite, getLast?_filterMap_concat]
  cases writes op with
  | none => rfl
  | some a => rfl

end LastWrite
