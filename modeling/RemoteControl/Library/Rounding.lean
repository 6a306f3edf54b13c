/-
This file develops quotients of integers that are rounded to a nearest integer,
whichever way ties go. Nothing is computed here: a rounding is any function that
meets `Nearest`, and what follows from that alone is that exact quotients are
kept, that the order of numerators is kept, and that two quotients more than one
apart stay apart. A rounded scaling that is undone by another one is off by the
two roundings, and exact when neither loses half a unit.
-/

import Mathlib.Algebra.Order.Field.Basic
import Mathlib.Data.Rat.Cast.Order
import Mathlib.Tactic.FieldSimp
import Mathlib.Tactic.Linarith
import Mathlib.Tactic.Ring

namespace Rounding

/-- The quotient is an integer nearest to `numerator / denominator`. -/
def Nearest (numerator denominator quotient : Int) : Prop :=
  2 * (quotient * denominator - numerator) ≤ denominator ∧
    2 * (numerator - quotient * denominator) ≤ denominator

instance (numerator denominator quotient : Int) :
    Decidable (Nearest numerator denominator quotient) :=
  inferInstanceAs (Decidable (_ ∧ _))

section

variable {numerator larger denominator quotient other : Int}

/-- The only integer nearest to a quotient that lies less than half a unit from an integer. -/
theorem Nearest.eq_of_close (positive : 0 < denominator)
    (nearest : Nearest numerator denominator quotient)
    (below : 2 * (other * denominator - numerator) < denominator)
    (above : 2 * (numerator - other * denominator) < denominator) : quotient = other := by
  obtain ⟨upper, lower⟩ := nearest
  have notLess : ¬ quotient < other := fun less => by
    have gap : (quotient + 1) * denominator ≤ other * denominator :=
      mul_le_mul_of_nonneg_right less positive.le
    linarith [add_mul quotient 1 denominator]
  have notGreater : ¬ other < quotient := fun greater => by
    have gap : (other + 1) * denominator ≤ quotient * denominator :=
      mul_le_mul_of_nonneg_right greater positive.le
    linarith [add_mul other 1 denominator]
  omega

/-- An exact quotient is kept. -/
theorem Nearest.eq_of_exact (positive : 0 < denominator)
    (nearest : Nearest (other * denominator) denominator quotient) : quotient = other :=
  nearest.eq_of_close positive (by linarith) (by linarith)

/-- A larger numerator has no smaller quotient. -/
theorem Nearest.le_of_lt (positive : 0 < denominator)
    (nearest : Nearest numerator denominator quotient) (nearest' : Nearest larger denominator other)
    (less : numerator < larger) : quotient ≤ other := by
  by_contra greater
  have gap : (other + 1) * denominator ≤ quotient * denominator :=
    mul_le_mul_of_nonneg_right (by omega) positive.le
  linarith [nearest.1, nearest'.2, add_mul other 1 denominator]

/-- Quotients more than one apart stay apart. -/
theorem Nearest.lt_of_apart (positive : 0 < denominator)
    (nearest : Nearest numerator denominator quotient) (nearest' : Nearest larger denominator other)
    (apart : numerator + denominator < larger) : quotient < other := by
  by_contra notLess
  have gap : other * denominator ≤ quotient * denominator :=
    mul_le_mul_of_nonneg_right (by omega) positive.le
  linarith [nearest.1, nearest'.2]

/-- A quotient between two integers is rounded to an integer between them. -/
theorem Nearest.mem_Icc {low high : Int} (positive : 0 < denominator)
    (nearest : Nearest numerator denominator quotient) (atLeast : low * denominator ≤ numerator)
    (atMost : numerator ≤ high * denominator) : low ≤ quotient ∧ quotient ≤ high := by
  constructor
  · by_contra less
    have gap : (quotient + 1) * denominator ≤ low * denominator :=
      mul_le_mul_of_nonneg_right (by omega) positive.le
    linarith [nearest.2, add_mul quotient 1 denominator]
  · by_contra greater
    have gap : (high + 1) * denominator ≤ quotient * denominator :=
      mul_le_mul_of_nonneg_right (by omega) positive.le
    linarith [nearest.1, add_mul high 1 denominator]

/-- The distance to the exact quotient. -/
theorem Nearest.abs_sub_le (positive : 0 < denominator)
    (nearest : Nearest numerator denominator quotient) :
    |(quotient : ℚ) - numerator / denominator| ≤ 1 / 2 := by
  have positiveRat : (0 : ℚ) < denominator := by exact_mod_cast positive
  have upper : 2 * ((quotient : ℚ) * denominator - numerator) ≤ denominator := by
    exact_mod_cast nearest.1
  have lower : 2 * ((numerator : ℚ) - quotient * denominator) ≤ denominator := by
    exact_mod_cast nearest.2
  have scaled : (quotient : ℚ) - numerator / denominator =
      (quotient * denominator - numerator) / denominator := by
    field_simp
  rw [scaled, abs_le]
  constructor
  · rw [le_div_iff₀ positiveRat]
    linarith
  · rw [div_le_iff₀ positiveRat]
    linarith

end

/-! ### Scaling there and back -/

section

variable {position top scale target scaled result : Int}

/-- Scaling a position from `0..top` to `0..scale` and from there to `0..target` moves it by the
last rounding and by the image of the first. -/
theorem abs_rescale_sub_le (topPositive : 0 < top) (scalePositive : 0 < scale)
    (targetNonneg : 0 ≤ target) (first : Nearest (position * scale) top scaled)
    (second : Nearest (scaled * target) scale result) :
    |(result : ℚ) - position * target / top| ≤ 1 / 2 + target / (2 * scale) := by
  have topRat : (0 : ℚ) < top := by exact_mod_cast topPositive
  have scaleRat : (0 : ℚ) < scale := by exact_mod_cast scalePositive
  have targetRat : (0 : ℚ) ≤ target := by exact_mod_cast targetNonneg
  have inner := first.abs_sub_le topPositive
  have outer := second.abs_sub_le scalePositive
  push_cast at inner outer
  have moved : (scaled : ℚ) * target / scale - position * target / top =
      (scaled - position * scale / top) * (target / scale) := by
    field_simp
  have carried : |(scaled : ℚ) * target / scale - position * target / top| ≤
      1 / 2 * (target / scale) := by
    rw [moved, abs_mul, abs_of_nonneg (div_nonneg targetRat scaleRat.le)]
    exact mul_le_mul_of_nonneg_right inner (div_nonneg targetRat scaleRat.le)
  calc |(result : ℚ) - position * target / top|
      ≤ |(result : ℚ) - scaled * target / scale| +
          |(scaled : ℚ) * target / scale - position * target / top| := abs_sub_le _ _ _
    _ ≤ 1 / 2 + 1 / 2 * (target / scale) := add_le_add outer carried
    _ = 1 / 2 + target / (2 * scale) := by field_simp

/-- Scaling up and back gives every position back when the middle scale is no coarser. -/
theorem rescale_back (topPositive : 0 < top) (atLeast : top ≤ scale)
    (first : Nearest (position * scale) top scaled)
    (second : Nearest (scaled * top) scale result) : result = position := by
  rcases eq_or_lt_of_le atLeast with same | finer
  · subst same
    rw [first.eq_of_exact topPositive] at second
    exact second.eq_of_exact topPositive
  · refine second.eq_of_close (topPositive.trans finer) ?_ ?_
    · linarith [first.2]
    · linarith [first.1]

end

end Rounding
