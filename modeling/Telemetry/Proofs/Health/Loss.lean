import Telemetry.Health.Report
import Telemetry.Proofs.Binary64.Order

/-!
# The loss

What is lost is one less what arrived, cut off at nothing and at everything.  It is
a number whatever the completeness, falls as the completeness rises, and is all where
nothing arrived.
-/
set_option autoImplicit false
namespace Telemetry.Completeness
open Binary64
variable {x y : Binary64}

theorem finite_one : (Binary64.ofNat 1).position < infinityPosition := finite_ofNat (by decide)

theorem isNaN_one : (Binary64.ofNat 1).isNaN = false :=
  isNaN_eq_false.mpr (Nat.le_of_lt finite_one)

theorem level_one_pos : 0 < (Binary64.ofNat 1).level := by decide +kernel

/-- The lowest level has the NaNs and an infinity, and all of them lose everything. -/
theorem lossOf_lowest (low : x.level = -infinityPosition) : lossOf x = Binary64.ofNat 1 := by
  rcases level_eq_lowest.mp low with undefined | rfl
  · rw [lossOf, if_pos undefined]
  · decide +kernel

theorem level_lossOf (number : x.isNaN = false) : (lossOf x).level =
    max 0 (min (Binary64.ofNat 1).level (Binary64.ofNat 1 - x).level) := by
  have difference : (Binary64.ofNat 1 - x).isNaN = false := isNaN_add finite_one number
  have low := lt_iff_level (y := zero false) difference
  have high := lt_iff_level (y := Binary64.ofNat 1 - x) isNaN_one
  have positive := level_one_pos
  rw [level_zero] at low
  rw [lossOf, number, if_neg Bool.false_ne_true]
  simp only [low, high]
  split_ifs with negative large
  · rw [level_zero]
    omega
  · omega
  · omega

theorem isNaN_lossOf (x : Binary64) : (lossOf x).isNaN = false := by
  simp only [lossOf]
  split_ifs with undefined negative large
  · exact isNaN_one
  · rfl
  · exact isNaN_one
  · exact isNaN_add finite_one (Bool.eq_false_iff.mpr undefined)

theorem level_lossOf_nonneg (x : Binary64) : 0 ≤ (lossOf x).level := by
  cases undefined : x.isNaN with
  | true =>
      rw [lossOf_lowest (level_nan undefined)]
      exact Int.le_of_lt level_one_pos
  | false =>
      rw [level_lossOf undefined]
      exact Int.le_max_left ..

theorem level_lossOf_le (x : Binary64) : (lossOf x).level ≤ (Binary64.ofNat 1).level := by
  have positive := level_one_pos
  cases undefined : x.isNaN with
  | true => rw [lossOf_lowest (level_nan undefined)]
  | false =>
      rw [level_lossOf undefined]
      omega

/-- The more arrived, the less is lost. -/
theorem lossOf_anti (order : x.level ≤ y.level) : lossOf y ≤ lossOf x := by
  rw [le_iff_level (isNaN_lossOf y) (isNaN_lossOf x)]
  by_cases low : x.level = -infinityPosition
  · rw [lossOf_lowest low]
    exact level_lossOf_le y
  · have number {z : Binary64} (above : z.level ≠ -infinityPosition) : z.isNaN = false :=
      Bool.eq_false_iff.mpr fun undefined => above (level_nan undefined)
    have numberX := number low
    have numberY : y.isNaN = false := by
      apply number
      have bounds := level_bounds x
      omega
    have difference := level_sub_anti numberX numberY order (Binary64.ofNat 1)
    rw [level_lossOf numberX, level_lossOf numberY]
    omega

/-- Where nothing arrived, or less, everything is lost. -/
theorem lossOf_eq_one (nothing : x.level ≤ 0) : lossOf x = Binary64.ofNat 1 := by
  have zero_lost : lossOf (zero false) = Binary64.ofNat 1 := by decide +kernel
  have order : lossOf (zero false) ≤ lossOf x := lossOf_anti nothing
  rw [zero_lost, le_iff_level isNaN_one (isNaN_lossOf x)] at order
  have same : (lossOf x).level = (Binary64.ofNat 1).level :=
    Int.le_antisymm (level_lossOf_le x) order
  exact eq_of_level same (lt_of_lt_of_eq level_one_pos same.symm)

end Telemetry.Completeness
