import Mathlib.Tactic.Linarith

/-!
# Arithmetic that may not overflow

In C the sum of two signed integers has no meaning where it does not fit. Here it has a value only
where it fits, so a computation that has a value has not overflowed.
-/

namespace Checked

/-- The integer as a 64-bit one, where it fits. -/
def fit (i : ℤ) : Option Int64 :=
  if h : Int64.minValue.toInt ≤ i ∧ i ≤ Int64.maxValue.toInt then some (Int64.ofIntLE i h.1 h.2)
  else none

/-- `a + b`. -/
def add (a b : Int64) : Option Int64 := fit (a.toInt + b.toInt)

/-- `a - b`. -/
def sub (a b : Int64) : Option Int64 := fit (a.toInt - b.toInt)

/-- An unsigned 32-bit integer as a signed 64-bit one. -/
def widen (n : UInt32) : Int64 :=
  Int64.ofIntLE n.toNat (le_trans (by decide) (Int.natCast_nonneg _))
    (le_trans (Int.ofNat_le.mpr n.toNat_lt.le) (by decide))

@[simp] theorem toInt_widen (n : UInt32) : (widen n).toInt = n.toNat := Int64.toInt_ofIntLE

theorem toInt_maxValue : Int64.maxValue.toInt = 2 ^ 63 - 1 := by decide

theorem toInt_minValue : Int64.minValue.toInt = -2 ^ 63 := by decide

/-- Whatever fits has a value, which is the exact one. -/
theorem exists_fit {i : ℤ} (hlow : -2 ^ 63 ≤ i) (hhigh : i ≤ 2 ^ 63 - 1) :
    ∃ r, fit i = some r ∧ r.toInt = i := by
  have hfits : Int64.minValue.toInt ≤ i ∧ i ≤ Int64.maxValue.toInt := by
    rw [toInt_minValue, toInt_maxValue]
    exact ⟨hlow, hhigh⟩
  exact ⟨_, dif_pos hfits, Int64.toInt_ofIntLE⟩

theorem toInt_min (a b : Int64) : (min a b).toInt = min a.toInt b.toInt := by
  show (if a ≤ b then a else b).toInt = _
  rw [min_def]
  simp only [Int64.le_iff_toInt_le]
  split
  · rfl
  · rfl

theorem toInt_bounds (a : Int64) : -2 ^ 63 ≤ a.toInt ∧ a.toInt ≤ 2 ^ 63 - 1 := by
  have hlow := a.le_toInt
  have hhigh := a.toInt_lt
  omega

end Checked
