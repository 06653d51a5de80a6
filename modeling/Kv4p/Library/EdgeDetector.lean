import Mathlib.Data.List.Destutter

/-! A memory of the value seen last, which reports a value exactly when it differs from it. -/
namespace EdgeDetector

variable {β : Type} [DecidableEq β]

/-- The memory and the reports so far, after one more value. -/
def see (d : Option β × List β) (v : β) : Option β × List β :=
  if d.1 = some v then d else (some v, d.2++[v])

theorem see_of_eq {d : Option β × List β} {v : β} (h : d.1 = some v) : see d v = d := if_pos h

theorem see_of_ne {d : Option β × List β} {v : β} (h : d.1 ≠ some v) :
    see d v = (some v, d.2++[v]) := if_neg h

/-- From a value `a` that was just reported. -/
theorem foldl_see_some (a : β) (reports vs : List β) :
    vs.foldl see (some a, reports++[a]) =
      ((a :: vs).getLast?, reports++vs.destutter' (· ≠ ·) a) := by
  induction vs generalizing a reports with
  | nil => rfl
  | cons v vs ih =>
    rw [List.foldl_cons, List.getLast?_cons_cons]
    by_cases h : a = v
    · subst h
      rw [see_of_eq rfl, ih, List.destutter'_cons_neg _ (not_not.mpr rfl)]
    · have hne : (some a, reports++[a]).1 ≠ some v := fun he => h (Option.some.inj he)
      rw [see_of_ne hne, ih, List.destutter'_cons_pos _ h, List.append_assoc]
      rfl

/-- A fresh detector reports the values with consecutive duplicates removed. -/
theorem foldl_see (vs : List β) :
    vs.foldl see (none, []) = (vs.getLast?, vs.destutter (· ≠ ·)) := by
  cases vs with
  | nil => rfl
  | cons v vs =>
    have hne : ((none, []) : Option β × List β).1 ≠ some v := fun h => nomatch h
    rw [List.foldl_cons, see_of_ne hne, foldl_see_some]
    rfl

/-- The last report is the value in the memory. -/
theorem getLast?_see {d : Option β × List β} (h : d.2.getLast? = d.1) (v : β) :
    (see d v).2.getLast? = (see d v).1 := by
  by_cases he : d.1 = some v
  · rw [see_of_eq he, h]
  · rw [see_of_ne he, List.getLast?_concat]

/-- Removing consecutive duplicates keeps the last value. -/
theorem getLast?_destutter (vs : List β) :
    (vs.destutter (· ≠ ·)).getLast? = vs.getLast? := by
  have hkeep (d : Option β × List β) (h : d.2.getLast? = d.1) :
      (vs.foldl see d).2.getLast? = (vs.foldl see d).1 := by
    induction vs generalizing d with
    | nil => exact h
    | cons v vs ih => exact ih (see d v) (getLast?_see h v)
  have h := hkeep (none, []) rfl
  rwa [foldl_see] at h

end EdgeDetector
