import Mathlib.Analysis.SpecialFunctions.Log.Basic
import Mathlib.Tactic.Linarith
import Mathlib.Tactic.NormNum
import Telemetry.Proofs.Binary64.Order

/-!
# Values and rounding errors

A finite number stands for a real one, its value.  One rounding is off by at most
a part in `2 ^ 52` of the exact result and one unit (`close_round`); for results
that are not tiny the unit is negligible, and the logarithm is off by at most
`1 / 2 ^ 50`.
-/
set_option autoImplicit false
namespace Telemetry.Binary64
variable {x y : Binary64} {num den : Nat} {negative : Bool} {q r : ℝ}

/-- The value of one unit. -/
noncomputable def unit : ℝ := (one : ℝ)⁻¹

theorem unit_pos : 0 < unit := inv_pos.mpr (by exact_mod_cast Binary64.one_pos)

theorem one_mul_unit : one * unit = 1 := mul_inv_cancel₀ (by exact_mod_cast Nat.ne_of_gt Binary64.one_pos)

/-- The real number that a finite number stands for. -/
noncomputable def value (x : Binary64) : ℝ := x.signedUnits * unit

/-- What one rounding may make of a real number. -/
def Close (r q : ℝ) : Prop := |r - q| ≤ |q| / 2 ^ 52 + unit

theorem gap_le (p : Nat) : (gap p : ℝ) ≤ units p / 2 ^ 52 + 1 := by
  have steps : 2 ^ 52 * gap p ≤ units p + 2 ^ 52 := by
    by_cases high : 2 ^ 52 ≤ p
    · exact Nat.le_trans (gap_le_units high) (Nat.le_add_right _ _)
    · have first : p / 2 ^ 52 - 1 = 0 := by omega
      rw [gap, first, Nat.pow_zero]
      omega
  have real : (2 : ℝ) ^ 52 * gap p ≤ units p + 2 ^ 52 := by exact_mod_cast steps
  linarith

theorem IsNearest.abs_sub_le {p : Nat} (nearest : IsNearest num den p) (positive : 0 < den) :
    |(units p : ℝ) - num / den| ≤ num / den / 2 ^ 52 + 1 := by
  have divisor : (0 : ℝ) < den := by exact_mod_cast positive
  have quotient : (0 : ℝ) ≤ num / den := by positivity
  have above : 2 * ((num : ℝ) / den) ≤ units p + (units p + gap p) := by
    have next := nearest.above (p + 1) (Nat.lt_succ_self p)
    rw [units_succ] at next
    have real : 2 * (num : ℝ) ≤ (units p + (units p + gap p)) * den := by exact_mod_cast next
    rw [← mul_div_assoc, div_le_iff₀ divisor]
    exact real
  have upper := gap_le p
  rw [abs_le]
  constructor
  · linarith
  · rcases Nat.eq_zero_or_pos p with rfl | nonzero
    · have lowest : (units 0 : ℝ) = 0 := by simp [units]
      linarith
    · obtain ⟨k, rfl⟩ := Nat.exists_eq_succ_of_ne_zero (Nat.ne_of_gt nonzero)
      have previous := nearest.below k (Nat.lt_succ_self k)
      have step : (units (k + 1) : ℝ) = units k + gap k := by exact_mod_cast units_succ k
      have lower := gap_le k
      have below : (units k : ℝ) + units (k + 1) ≤ 2 * (num / den) := by
        have real : ((units k : ℝ) + units (k + 1)) * den ≤ 2 * num := by exact_mod_cast previous
        rw [← mul_div_assoc, le_div_iff₀ divisor]
        exact real
      have smallest : (0 : ℝ) ≤ units k := Nat.cast_nonneg _
      linarith

theorem Close.neg (close : Close r q) : Close (-r) (-q) := by
  rw [Close, abs_neg, ← neg_sub', abs_neg]
  exact close

theorem value_neg (x : Binary64) : value (neg x) = -value x := by
  have sign : (neg x).signedUnits = -x.signedUnits := by
    rw [signedUnits, signedUnits, neg]
    cases x.negative <;> simp
  rw [value, value, sign, Int.cast_neg, neg_mul]

theorem close_round (positive : 0 < den) (finite : nearestPosition num den < infinityPosition) :
    Close (value (round negative num den))
      (if negative then -(num / den * unit) else num / den * unit) := by
  have positive' := unit_pos
  have off : |(units (nearestPosition num den) : ℝ) - num / den| ≤ num / den / 2 ^ 52 + 1 :=
    (isNearest_nearestPosition positive).abs_sub_le positive
  have quotient : (0 : ℝ) ≤ num / den * unit := by positivity
  have magnitude : Close (value (round false num den)) (num / den * unit) := by
    have exact : value (round false num den) = units (nearestPosition num den) * unit := by
      have sign : (round false num den).signedUnits = units (round false num den).position := rfl
      rw [value, sign, position_round, Nat.min_eq_left (Nat.le_of_lt finite), Int.cast_natCast]
    rw [Close, exact, ← sub_mul, abs_mul, abs_of_pos positive', abs_of_nonneg quotient]
    calc |(units (nearestPosition num den) : ℝ) - num / den| * unit
        ≤ (num / den / 2 ^ 52 + 1) * unit := mul_le_mul_of_nonneg_right off (le_of_lt positive')
      _ = num / den * unit / 2 ^ 52 + unit := by ring
  cases negative with
  | false => exact magnitude
  | true =>
      have flipped : value (round true num den) = -value (round false num den) :=
        value_neg (round false num den)
      rw [flipped, if_pos rfl]
      exact magnitude.neg

theorem Exact.value_ofNat {n : Nat} (exact : Exact n) : value (ofNat n) = n := by
  have units : (ofNat n).signedUnits = (n * one : Nat) := congrArg Nat.cast exact.units_ofNat
  rw [value, units]
  push_cast
  rw [mul_assoc, one_mul_unit, mul_one]

theorem close_ofNat {n : Nat} (bound : n ≤ 2 ^ 64) : Close (value (ofNat n)) n := by
  have close := @close_round (n * one) 1 false Nat.one_pos (nearestPosition_ofNat_lt_infinity bound)
  have exact : ((n * one : Nat) : ℝ) / (1 : Nat) * unit = n := by
    push_cast
    rw [div_one, mul_assoc, one_mul_unit, mul_one]
  rw [if_neg Bool.false_ne_true, exact] at close
  exact close

theorem value_abs (x : Binary64) : value (abs x) = |value x| := by
  have magnitude : (abs x).signedUnits = x.signedUnits.natAbs := by
    rw [natAbs_signedUnits]
    rfl
  rw [value, value, magnitude, abs_mul, abs_of_pos unit_pos, Int.cast_natCast, Nat.cast_natAbs,
    Int.cast_abs]

theorem value_le_iff : value x ≤ value y ↔ x.signedUnits ≤ y.signedUnits := by
  rw [value, value, mul_le_mul_iff_left₀ unit_pos, Int.cast_le]

/-- Among numbers without a sign the ranks are in the order of the values. -/
theorem value_le_of_rank (sign : x.negative = false) (sign' : y.negative = false)
    (order : x.rank ≤ y.rank) : value x ≤ value y := by
  have rank {z : Binary64} (sign : z.negative = false) : z.rank = z.place := by
    rw [Binary64.rank, place, sign]
    rfl
  rw [rank sign, rank sign', place_le_iff] at order
  exact value_le_iff.mpr order

theorem units_le_of_value {n : Int} (bound : |(n : ℝ) * unit| ≤ 2 ^ 64) : n.natAbs ≤ 2 ^ 64 * one := by
  have scaled : |(n : ℝ)| * unit ≤ 2 ^ 64 * one * unit := by
    rw [mul_assoc, one_mul_unit, mul_one, ← abs_of_pos unit_pos, ← abs_mul]
    exact bound
  have real : |(n : ℝ)| ≤ 2 ^ 64 * one := le_of_mul_le_mul_right scaled unit_pos
  rw [← Int.cast_abs, Int.abs_eq_natAbs] at real
  exact_mod_cast real

/-- Rounding a signed numerator, as sums and logarithms do. -/
theorem close_round_signed {n : Int} (positive : 0 < den)
    (bound : n.natAbs ≤ 2 ^ 64 * one * den) :
    Close (value (round (n < 0) n.natAbs den)) (n / den * unit) := by
  have close := @close_round n.natAbs den (n < 0) positive (nearestPosition_lt_infinity positive bound)
  have signed : (if decide (n < 0) then -((n.natAbs : ℝ) / den * unit) else n.natAbs / den * unit) =
      n / den * unit := by
    have magnitude : (n.natAbs : ℝ) = |(n : ℝ)| := by rw [Nat.cast_natAbs, Int.cast_abs]
    simp only [decide_eq_true_eq]
    split_ifs with below
    · rw [magnitude, abs_of_neg (by exact_mod_cast below)]
      ring
    · rw [magnitude, abs_of_nonneg (by exact_mod_cast Int.not_lt.mp below)]
  rwa [signed] at close

theorem value_add_value : value x + value y = (x.signedUnits + y.signedUnits : Int) * unit := by
  rw [value, value]
  push_cast
  ring

section Sum
variable (finite : x.position < infinityPosition) (finite' : y.position < infinityPosition)
include finite finite'

theorem finite_add (bound : |value x + value y| ≤ 2 ^ 64) : (x + y).position < infinityPosition := by
  rw [value_add_value] at bound
  rw [add_of_finite finite finite']
  split_ifs
  · exact (by decide : 0 < infinityPosition)
  · rw [position_round]
    apply Nat.lt_of_le_of_lt (Nat.min_le_left _ _)
    exact nearestPosition_lt_infinity Nat.one_pos (by rw [Nat.mul_one]; exact units_le_of_value bound)

theorem close_add (bound : |value x + value y| ≤ 2 ^ 64) :
    Close (value (x + y)) (value x + value y) := by
  rw [value_add_value] at bound ⊢
  rw [add_of_finite finite finite']
  generalize x.signedUnits + y.signedUnits = n at bound
  split_ifs with nothing
  · have positive := unit_pos
    rw [nothing, value, signedUnits_zero, Close, sub_self, abs_zero]
    positivity
  · have close : Close (value (round (n < 0) n.natAbs 1)) (n / (1 : Nat) * unit) :=
      close_round_signed Nat.one_pos (by rw [Nat.mul_one]; exact units_le_of_value bound)
    rwa [Nat.cast_one, div_one] at close

theorem finite_sub (bound : |value x - value y| ≤ 2 ^ 64) : (x - y).position < infinityPosition := by
  rw [sub_eq_add_neg, ← value_neg] at bound
  exact finite_add finite finite' bound

theorem close_sub (bound : |value x - value y| ≤ 2 ^ 64) :
    Close (value (x - y)) (value x - value y) := by
  rw [sub_eq_add_neg, ← value_neg] at bound ⊢
  exact close_add finite finite' bound

theorem value_le_iff_level : value x ≤ value y ↔ x.level ≤ y.level := by
  rw [value_le_iff, (level_of_finite finite).1, (level_of_finite finite').1, place_le_iff]

theorem lt_iff_value : x < y ↔ value x < value y := by
  have number : x.isNaN = false := isNaN_eq_false.mpr (Nat.le_of_lt finite)
  rw [lt_iff_level number, ← not_le, ← not_le, value_le_iff_level finite' finite]

end Sum

section Quotient
variable {d : Nat} (finite : x.position < infinityPosition) (positive : 0 < d) (exact : Exact d)
include finite positive exact

theorem negative_div_ofNat : (x / ofNat d).negative = x.negative := by
  rw [div_ofNat finite positive exact, round, ofPosition]

theorem close_div_ofNat : Close (value (x / ofNat d)) (value x / d) := by
  have divisor := Nat.mul_pos positive Binary64.one_pos
  have within : nearestPosition (units x.position * one) (d * one) < infinityPosition := by
    apply Nat.lt_of_le_of_lt _ finite
    apply nearestPosition_le divisor
    exact Nat.mul_le_mul_left _ (Nat.le_mul_of_pos_left one positive)
  have close := @close_round (units x.position * one) (d * one) x.negative divisor within
  have quotient : (if x.negative then -(((units x.position * one : Nat) : ℝ) / (d * one : Nat) * unit)
      else ((units x.position * one : Nat) : ℝ) / (d * one : Nat) * unit) = value x / d := by
    have nonzero : (one : ℝ) ≠ 0 := by exact_mod_cast Nat.ne_of_gt Binary64.one_pos
    rw [value, signedUnits, Nat.cast_mul, Nat.cast_mul, mul_div_mul_right _ _ nonzero]
    split_ifs <;> push_cast <;> ring
  rw [quotient] at close
  rwa [div_ofNat finite positive exact]

end Quotient

/-! ## Logarithms of rounded values -/

theorem unit_le : unit ≤ 1 / 2 ^ 200 := by
  have large : (2 : ℝ) ^ 200 ≤ one := by
    have natural : 2 ^ 200 ≤ one := two_pow_le_one (by decide)
    exact_mod_cast natural
  rw [unit, ← one_div]
  exact one_div_le_one_div_of_le (by positivity) large

/-- Unless it is tiny, rounding a number leaves its logarithm nearly as it is. -/
theorem Close.log (close : Close r q) (least : 1 / 2 ^ 100 ≤ q) :
    q / 2 ≤ r ∧ |Real.log r - Real.log q| ≤ 1 / 2 ^ 50 := by
  have tiny := unit_le
  have positive : 0 < q := lt_of_lt_of_le (by positivity) least
  have off : |r - q| ≤ q / 2 ^ 51 := by
    rw [Close, abs_of_pos positive] at close
    have small : unit ≤ q / 2 ^ 52 := by
      calc unit ≤ 1 / 2 ^ 200 := tiny
        _ ≤ 1 / 2 ^ 100 / 2 ^ 52 := by norm_num
        _ ≤ q / 2 ^ 52 := by gcongr
    linarith
  rw [abs_le] at off
  have positive' : 0 < r := by linarith
  have half : q / 2 ≤ r := by linarith
  have above : Real.log r - Real.log q ≤ 1 / 2 ^ 50 := by
    rw [← Real.log_div (ne_of_gt positive') (ne_of_gt positive)]
    calc Real.log (r / q) ≤ r / q - 1 := Real.log_le_sub_one_of_pos (div_pos positive' positive)
      _ = (r - q) / q := by rw [sub_div, div_self (ne_of_gt positive)]
      _ ≤ 1 / 2 ^ 50 := by rw [div_le_iff₀ positive]; linarith
  have below : Real.log q - Real.log r ≤ 1 / 2 ^ 50 := by
    rw [← Real.log_div (ne_of_gt positive) (ne_of_gt positive')]
    calc Real.log (q / r) ≤ q / r - 1 := Real.log_le_sub_one_of_pos (div_pos positive positive')
      _ = (q - r) / r := by rw [sub_div, div_self (ne_of_gt positive')]
      _ ≤ 1 / 2 ^ 50 := by rw [div_le_iff₀ positive']; linarith
  exact ⟨half, abs_le.mpr ⟨by linarith, above⟩⟩

end Telemetry.Binary64
