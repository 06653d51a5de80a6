import Mathlib.Data.Nat.Bitwise

/-! Flag words: natural numbers read bit by bit, with masks that are set and cleared. -/
namespace BitMask

/-- `word & ~mask`. -/
def clear (word mask : ℕ) : ℕ := word ^^^ (word &&& mask)

/-- Set or clear all the bits of `mask`. -/
def assign (word mask : ℕ) (enabled : Bool) : ℕ :=
  if enabled then word ||| mask else clear word mask

/-- `bool(word & mask)`. -/
def anySet (word mask : ℕ) : Bool := word &&& mask != 0

theorem testBit_clear (word mask i : ℕ) :
    (clear word mask).testBit i = (word.testBit i && !mask.testBit i) := by
  rw [clear, Nat.testBit_xor, Nat.testBit_and]
  cases word.testBit i <;> cases mask.testBit i <;> rfl

theorem testBit_assign (word mask : ℕ) (enabled : Bool) (i : ℕ) :
    (assign word mask enabled).testBit i =
      if mask.testBit i then enabled else word.testBit i := by
  cases enabled with
  | true =>
    simp only [assign, ↓reduceIte, Nat.testBit_or]
    cases word.testBit i <;> cases mask.testBit i <;> rfl
  | false =>
    simp only [assign, Bool.false_eq_true, ↓reduceIte, testBit_clear]
    cases word.testBit i <;> cases mask.testBit i <;> rfl

theorem testBit_single (k i : ℕ) : (1 <<< k).testBit i = decide (k = i) := by
  rw [Nat.one_shiftLeft, Nat.testBit_two_pow]

theorem anySet_single (word k : ℕ) : anySet word (1 <<< k) = word.testBit k := by
  rw [anySet, Nat.one_shiftLeft, Nat.and_two_pow]
  cases word.testBit k with
  | true => simp
  | false => simp

theorem clear_lt {word n : ℕ} (mask : ℕ) (h : word < 2^n) : clear word mask < 2^n :=
  Nat.xor_lt_two_pow h (Nat.and_le_left.trans_lt h)

theorem assign_lt {word mask n : ℕ} (enabled : Bool) (hw : word < 2^n) (hm : mask < 2^n) :
    assign word mask enabled < 2^n := by
  cases enabled with
  | true => exact Nat.or_lt_two_pow hw hm
  | false => exact clear_lt mask hw

end BitMask
