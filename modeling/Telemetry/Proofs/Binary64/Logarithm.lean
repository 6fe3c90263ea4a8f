import Mathlib.Algebra.BigOperators.Field
import Mathlib.Algebra.Order.Floor.Semifield
import Mathlib.Analysis.SpecialFunctions.Log.Deriv
import Mathlib.Tactic.Positivity
import Telemetry.Binary64.Basic
import Telemetry.Proofs.Binary64.Value

/-!
# The logarithm and its error

The series of the area tangent is summed in parts, each power and each term
rounded down.  A power is short of the exact one by at most two parts, which the
next step keeps, since it multiplies by less than a ninth; so each of the 84 terms
is short by at most three parts.  What the series leaves out is less than one
part.  The logarithm is that of the exact value up to a million parts, and then
rounded to a binary64 number.
-/
set_option autoImplicit false
namespace Telemetry.Binary64
open Finset

theorem floor_bounds (a b : Nat) : ((a / b : Nat) : ℝ) ≤ a / b ∧ (a : ℝ) / b ≤ (a / b : Nat) + 1 := by
  refine ⟨Nat.cast_div_le, ?_⟩
  rw [← Nat.floor_div_eq_div (K := ℝ)]
  exact le_of_lt (Nat.lt_floor_add_one _)

theorem scale_pos : (0 : ℝ) < scale := by
  have natural : 0 < scale := by decide
  exact_mod_cast natural

/-! ## The series -/

section Series
variable {t : ℝ} (positive : 0 ≤ t) (small : t ≤ 1 / 3)
include positive small

theorem square_bounds {z : Nat} (floor : (z : ℝ) ≤ t * scale) (ceil : t * scale ≤ z + 1) :
    ((z * z / scale : Nat) : ℝ) ≤ t ^ 2 * scale ∧ t ^ 2 * scale ≤ (z * z / scale : Nat) + 2 := by
  have parts := scale_pos
  obtain ⟨floor', ceil'⟩ := floor_bounds (z * z) scale
  rw [Nat.cast_mul] at floor' ceil'
  have least : (z : ℝ) * z ≤ t ^ 2 * scale * scale := by
    calc (z : ℝ) * z ≤ t * scale * (t * scale) := by gcongr
      _ = t ^ 2 * scale * scale := by ring
  -- the square of `z + 1` is over that of `z` by twice a third of the scale and a little
  have third : t * scale ≤ scale / 3 := by
    calc t * scale ≤ 1 / 3 * scale := by gcongr
      _ = scale / 3 := by ring
  have most : t ^ 2 * scale * scale ≤ z * z + scale := by
    calc t ^ 2 * scale * scale = t * scale * (t * scale) := by ring
      _ ≤ t * scale * (z + 1) := by gcongr
      _ = t * scale * z + t * scale := by ring
      _ ≤ (z + 1) * z + t * scale := by gcongr
      _ = z * z + (z + t * scale) := by ring
      _ ≤ z * z + scale := by gcongr; linarith
  constructor
  · exact le_trans floor' (by rwa [div_le_iff₀ parts])
  · have quotient : t ^ 2 * scale ≤ z * z / scale + 1 := by
      rwa [div_add_one (ne_of_gt parts), le_div_iff₀ parts]
    linarith

theorem power_step {square power : Nat} {exact : ℝ} (low : (square : ℝ) ≤ t ^ 2 * scale)
    (high : t ^ 2 * scale ≤ square + 2) (below : (power : ℝ) ≤ exact) (above : exact ≤ power + 2)
    (bound : exact ≤ scale / 3) : ((power * square / scale : Nat) : ℝ) ≤ exact * t ^ 2 ∧
      exact * t ^ 2 ≤ (power * square / scale : Nat) + 2 ∧ exact * t ^ 2 ≤ scale / 3 := by
  have parts := scale_pos
  have nonneg : 0 ≤ exact := le_trans (Nat.cast_nonneg power) below
  have ninth : t ^ 2 ≤ 1 / 9 := by
    calc t ^ 2 ≤ (1 / 3) ^ 2 := by gcongr
      _ = 1 / 9 := by norm_num
  obtain ⟨floor, ceil⟩ := floor_bounds (power * square) scale
  push_cast at floor ceil
  refine ⟨?_, ?_, ?_⟩
  · calc ((power * square / scale : Nat) : ℝ) ≤ power * square / scale := floor
      _ ≤ exact * (t ^ 2 * scale) / scale := by gcongr
      _ = exact * t ^ 2 := by field_simp
  · -- both factors are short by two parts at most, of a third and a ninth
    have factor : exact * (t ^ 2 * scale) ≤ exact * (square + 2) := by gcongr
    have factor' : exact * square ≤ (power + 2) * square := by gcongr
    have ninth' : (square : ℝ) ≤ scale / 9 := by
      calc (square : ℝ) ≤ t ^ 2 * scale := low
        _ ≤ 1 / 9 * scale := by gcongr
        _ = scale / 9 := by ring
    have product : exact * t ^ 2 * scale ≤ power * square + scale := by linarith
    have quotient : exact * t ^ 2 ≤ power * square / scale + 1 := by
      rw [div_add_one (ne_of_gt parts), le_div_iff₀ parts]
      exact product
    linarith
  · calc exact * t ^ 2 ≤ exact * 1 := by gcongr; linarith
      _ ≤ scale / 3 := by rwa [mul_one]

theorem artanhTail_bounds {square : Nat} (low : (square : ℝ) ≤ t ^ 2 * scale)
    (high : t ^ 2 * scale ≤ square + 2) (terms : Nat) :
    ∀ {power n : Nat} {exact : ℝ}, 0 < n → (power : ℝ) ≤ exact → exact ≤ power + 2 →
      exact ≤ scale / 3 →
      (artanhTail square power n terms : ℝ) ≤
          ∑ i ∈ range terms, exact * t ^ (2 * i) / (n + 2 * i) ∧
        ∑ i ∈ range terms, exact * t ^ (2 * i) / (n + 2 * i) ≤
          artanhTail square power n terms + 3 * terms := by
  induction terms with
  | zero => intro power n exact _ _ _ _; simp [artanhTail]
  | succ terms ih =>
      intro power n exact odd below above bound
      obtain ⟨below', above', bound'⟩ := power_step positive small low high below above bound
      obtain ⟨lower, upper⟩ := @ih _ (n + 2) _ (Nat.succ_pos _) below' above' bound'
      have first : exact * t ^ (2 * 0) / (n + 2 * (0 : Nat)) = exact / n := by simp
      have shift : ∀ i ∈ range terms, exact * t ^ (2 * (i + 1)) / (n + 2 * ((i + 1 : Nat) : ℝ)) =
          exact * t ^ 2 * t ^ (2 * i) / ((n + 2 : Nat) + 2 * i) := by
        intro i _
        push_cast
        ring
      obtain ⟨floor, ceil⟩ := floor_bounds power n
      have odd' : (1 : ℝ) ≤ n := by exact_mod_cast odd
      have term : (power / n : ℝ) ≤ exact / n := by gcongr
      have term' : exact / n ≤ power / n + 2 := by
        calc exact / n ≤ (power + 2) / n := by gcongr
          _ = power / n + 2 / n := add_div _ _ _
          _ ≤ power / n + 2 := by gcongr; exact div_le_self (by norm_num) odd'
      rw [sum_range_succ', first, sum_congr rfl shift, artanhTail]
      push_cast at lower upper ⊢
      constructor <;> linarith

theorem remainder_le : scale * (t ^ (2 * 84 + 1) / (1 - t ^ 2)) ≤ 1 := by
  have power : t ^ (2 * 84 + 1) ≤ (1 / 3) ^ (2 * 84 + 1) := by gcongr
  have square : t ^ 2 ≤ (1 / 3) ^ 2 := by gcongr
  have whole : (scale : ℝ) = 2 ^ 256 := by
    have natural : scale = 2 ^ 256 := rfl
    exact_mod_cast natural
  rw [← mul_div_assoc, div_le_one (by linarith), whole]
  calc (2 : ℝ) ^ 256 * t ^ (2 * 84 + 1) ≤ 2 ^ 256 * (1 / 3) ^ (2 * 84 + 1) := by gcongr
    _ ≤ 1 - (1 / 3) ^ 2 := by norm_num
    _ ≤ 1 - t ^ 2 := by linarith

end Series

/-- The area tangent in parts, to within 253 of them. -/
theorem artanhParts_bounds {num den : Nat} (positive : 0 < den) (small : 3 * num ≤ den) :
    let t : ℝ := num / den
    (artanhParts num den : ℝ) ≤ scale * (1 / 2 * Real.log ((1 + t) / (1 - t))) ∧
      scale * (1 / 2 * Real.log ((1 + t) / (1 - t))) ≤ artanhParts num den + 253 := by
  intro t
  have parts := scale_pos
  have divisor : (0 : ℝ) < den := by exact_mod_cast positive
  have nonneg : 0 ≤ t := by positivity
  have third : t ≤ 1 / 3 := by
    have real : (3 : ℝ) * num ≤ den := by exact_mod_cast small
    rw [div_le_div_iff₀ divisor (by norm_num)]
    linarith
  let z := num * scale / den
  obtain ⟨floor, ceil⟩ : (z : ℝ) ≤ t * scale ∧ t * scale ≤ z + 1 := by
    have bounds := floor_bounds (num * scale) den
    rwa [Nat.cast_mul, mul_div_right_comm] at bounds
  obtain ⟨low, high⟩ := square_bounds nonneg third floor ceil
  have bound : t * scale ≤ scale / 3 := by
    calc t * scale ≤ 1 / 3 * scale := by gcongr
      _ = scale / 3 := by ring
  have series (i : Nat) : t * scale * t ^ (2 * i) / ((1 : Nat) + 2 * i) =
      scale * (t ^ (2 * i + 1) / (2 * i + 1)) := by
    push_cast
    ring
  obtain ⟨lower, upper⟩ := artanhTail_bounds nonneg third low high 84 Nat.one_pos floor
    (by linarith) bound
  simp only [series, ← mul_sum] at lower upper
  have within : t < 1 := by linarith
  have partial_le := Real.sum_range_le_log_div nonneg within 84
  have rest := Real.log_div_le_sum_range_add nonneg within 84
  have tiny := remainder_le nonneg third
  have area : artanhParts num den = artanhTail (z * z / scale) z 1 84 := rfl
  rw [area]
  constructor
  · exact le_trans lower (mul_le_mul_of_nonneg_left partial_le (le_of_lt parts))
  · have scaled := mul_le_mul_of_nonneg_left rest (le_of_lt parts)
    rw [mul_add] at scaled
    linarith

/-! ## Logarithms in parts -/

theorem artanhParts_ratio {u v : Nat} (positive : 0 < v) (order : v ≤ u) (near : u ≤ 2 * v) :
    |(2 * artanhParts (u - v) (u + v) : ℝ) - scale * Real.log (u / v)| ≤ 506 := by
  obtain ⟨lower, upper⟩ := @artanhParts_bounds (u - v) (u + v) (by omega) (by omega)
  have divisor : (0 : ℝ) < v := by exact_mod_cast positive
  have order' : (v : ℝ) ≤ u := by exact_mod_cast order
  have ratio : (1 + ((u - v : Nat) : ℝ) / (u + v : Nat)) / (1 - ((u - v : Nat) : ℝ) / (u + v : Nat)) =
      u / v := by
    have sum : (u : ℝ) + v ≠ 0 := by positivity
    have above : 1 + ((u : ℝ) - v) / (u + v) = 2 * u / (u + v) := by
      rw [one_add_div sum]
      ring
    have below : 1 - ((u : ℝ) - v) / (u + v) = 2 * v / (u + v) := by
      rw [one_sub_div sum]
      ring
    rw [Nat.cast_sub order, Nat.cast_add, above, below, div_div_div_cancel_right₀ sum,
      mul_div_mul_left _ _ two_ne_zero]
  rw [ratio] at lower upper
  rw [abs_le]
  constructor <;> linarith

theorem lnNearOne_bounds {u v : Nat} (positive : 0 < u) (positive' : 0 < v) (near : u ≤ 2 * v)
    (near' : v ≤ 2 * u) : |(lnNearOne u v : ℝ) - scale * Real.log (u / v)| ≤ 506 := by
  rw [lnNearOne]
  split_ifs with order
  · push_cast
    exact artanhParts_ratio positive' order near
  · have bounds := artanhParts_ratio positive (Nat.le_of_not_le order) near'
    rw [Nat.add_comm v u, ← abs_neg] at bounds
    rw [← inv_div (v : ℝ) u, Real.log_inv]
    push_cast
    convert bounds using 2
    ring

theorem ln2Parts_bounds : |(ln2Parts : ℝ) - scale * Real.log 2| ≤ 506 := by
  have bounds := artanhParts_ratio (u := 2) (v := 1) (by decide) (by decide) (by decide)
  rw [ln2Parts]
  push_cast at bounds ⊢
  rwa [div_one] at bounds

/-- The power of two near to a number is within a factor of two of it. -/
theorem exponent_spec {u k : Nat} (positive : 0 < u)
    (eq : k = if u * u < 2 * Nat.pow 4 u.log2 then u.log2 else u.log2 + 1) :
    u ≤ 2 * 2 ^ k ∧ 2 ^ k ≤ 2 * u := by
  have lower : 2 ^ u.log2 ≤ u := Nat.log2_self_le (Nat.ne_of_gt positive)
  have upper : u < 2 ^ (u.log2 + 1) := Nat.lt_log2_self
  have double : 2 ^ (u.log2 + 1) = 2 * 2 ^ u.log2 := Nat.pow_succ'
  subst eq
  split_ifs <;> constructor <;> omega

theorem log_one_units : Real.log one = 1074 * Real.log 2 := by
  obtain ⟨e, eq, power⟩ : ∃ e : Nat, (e : ℝ) = 1074 ∧ one = 2 ^ e := by
    refine ⟨1074, by norm_num, ?_⟩
    unfold one
    generalize 1074 = e
    rfl
  have real : (one : ℝ) = 2 ^ e := by exact_mod_cast power
  rw [real, Real.log_pow, eq]

theorem lnParts_bounds {u : Nat} (positive : 0 < u) (digits : u.log2 < 2100) :
    |(lnParts u : ℝ) - scale * (Real.log u - Real.log one)| ≤ 1000000 := by
  obtain ⟨k, eq⟩ : ∃ k, k = if u * u < 2 * Nat.pow 4 u.log2 then u.log2 else u.log2 + 1 := ⟨_, rfl⟩
  obtain ⟨near, near'⟩ := exponent_spec positive eq
  have range : (k : ℝ) ≤ 2100 := by
    have natural : k ≤ 2100 := by
      subst eq
      split_ifs <;> omega
    exact_mod_cast natural
  have parts : lnParts u = ((k : Int) - 1074) * ln2Parts + lnNearOne u (2 ^ k) := by
    rw [lnParts, ← eq]
    rfl
  have nearOne := lnNearOne_bounds positive (Nat.two_pow_pos k) near near'
  have two := ln2Parts_bounds
  have positive' : (0 : ℝ) < u := by exact_mod_cast positive
  have log : Real.log u - Real.log one =
      (k - 1074) * Real.log 2 + Real.log (u / ((2 ^ k : Nat) : ℝ)) := by
    rw [log_one_units, Real.log_div (ne_of_gt positive') (by positivity), Nat.cast_pow, Real.log_pow]
    push_cast
    ring
  have split : (lnParts u : ℝ) - scale * (Real.log u - Real.log one) =
      (k - 1074) * (ln2Parts - scale * Real.log 2) +
        (lnNearOne u (2 ^ k) - scale * Real.log (u / ((2 ^ k : Nat) : ℝ))) := by
    rw [parts, log]
    push_cast
    ring
  have steps : |(k : ℝ) - 1074| ≤ 1074 := by
    have low : (0 : ℝ) ≤ k := Nat.cast_nonneg k
    rw [abs_le]
    constructor <;> linarith
  rw [split]
  calc _ ≤ |((k : ℝ) - 1074) * (ln2Parts - scale * Real.log 2)| +
        |(lnNearOne u (2 ^ k) : ℝ) - scale * Real.log (u / ((2 ^ k : Nat) : ℝ))| := abs_add_le _ _
    _ ≤ 1074 * 506 + 506 := by
        rw [abs_mul]
        gcongr
    _ ≤ 1000000 := by norm_num

theorem log2_lt_of_le {n m k : Nat} (positive : 0 < n) (order : n ≤ m) (top : m.log2 < k) :
    n.log2 < k := by
  rw [Nat.log2_lt (by omega)] at top ⊢
  exact Nat.lt_of_le_of_lt order top

/-- Parts rounded to a binary64 number. -/
theorem close_parts {n : Int} (bound : n.natAbs ≤ 2 ^ 64 * scale) :
    (round (n < 0) (n.natAbs * one) scale).position < infinityPosition ∧
      Close (value (round (n < 0) (n.natAbs * one) scale)) (n / scale) := by
  have positive : 0 < scale := by decide
  have scaled : (n * one).natAbs = n.natAbs * one := by rw [Int.natAbs_mul, Int.natAbs_natCast]
  have within : n.natAbs * one ≤ 2 ^ 64 * one * scale := by
    rw [Nat.mul_right_comm]
    exact Nat.mul_le_mul_right one bound
  have below : n * one < 0 ↔ n < 0 := by
    have unit : (0 : Int) < one := by exact_mod_cast Binary64.one_pos
    exact ⟨fun product => neg_of_mul_neg_left product (le_of_lt unit),
      fun negative => Int.mul_neg_of_neg_of_pos negative unit⟩
  have rounded : Close (value (round (n * one < 0) (n * one).natAbs scale))
      ((n * one : Int) / scale * unit) := close_round_signed positive (by rwa [scaled])
  have exact : ((n * one : Int) : ℝ) / scale * unit = n / scale := by
    push_cast
    rw [mul_div_right_comm, mul_assoc, one_mul_unit, mul_one]
  simp only [scaled, below, exact] at rounded
  refine ⟨?_, rounded⟩
  exact Nat.lt_of_le_of_lt (Nat.min_le_left _ _) (nearestPosition_lt_infinity positive within)

section Finite
variable {x : Binary64} (finite : x.position < infinityPosition) (positive : 0 < x.position)
include finite positive

theorem log2_units_lt : (units x.position).log2 < 2100 := by
  have order : units x.position ≤ units infinityPosition :=
    units_strictMono.monotone (Nat.le_of_lt finite)
  have top : (units infinityPosition).log2 < 2100 := by decide +kernel
  exact log2_lt_of_le (units_strictMono positive) order top

/-- Logarithms of finite numbers are small. -/
theorem abs_log_units_le : |Real.log (units x.position) - Real.log one| ≤ 2100 := by
  have digits := log2_units_lt finite positive
  have least : (1 : ℝ) ≤ units x.position := by exact_mod_cast units_strictMono positive
  have two : Real.log 2 ≤ 1 := by
    have bound := Real.log_le_sub_one_of_pos (zero_lt_two' ℝ)
    linarith
  have zero : 0 ≤ Real.log 2 := Real.log_nonneg one_le_two
  have low : 0 ≤ Real.log (units x.position) := Real.log_nonneg least
  have high : Real.log (units x.position) ≤ 2100 := by
    obtain ⟨k, eq⟩ : ∃ k, k = (units x.position).log2 := ⟨_, rfl⟩
    have below : (units x.position : ℝ) ≤ 2 ^ (k + 1) := by
      have natural : units x.position < 2 ^ (k + 1) := eq ▸ Nat.lt_log2_self
      exact_mod_cast Nat.le_of_lt natural
    have digits' : ((k + 1 : Nat) : ℝ) ≤ 2100 := by exact_mod_cast (by omega : k + 1 ≤ 2100)
    calc Real.log (units x.position) ≤ Real.log (2 ^ (k + 1)) := Real.log_le_log (by linarith) below
      _ = (k + 1 : Nat) * Real.log 2 := Real.log_pow _ _
      _ ≤ 2100 * 1 := by gcongr
      _ = 2100 := mul_one _
  rw [log_one_units, abs_le]
  constructor <;> linarith

omit finite in
theorem log_value (sign : x.negative = false) :
    Real.log (value x) = Real.log (units x.position) - Real.log one := by
  have unsigned : x.signedUnits = units x.position := by rw [signedUnits, sign]; rfl
  have nonzero : (units x.position : ℝ) ≠ 0 := by
    exact_mod_cast Nat.ne_of_gt (units_strictMono positive)
  rw [value, unsigned, Int.cast_natCast, Real.log_mul nonzero (ne_of_gt unit_pos), unit, Real.log_inv,
    sub_eq_add_neg]

theorem ln_eq_round (sign : x.negative = false) :
    ln x = round (lnParts (units x.position) < 0) ((lnParts (units x.position)).natAbs * one) scale := by
  have number : x.isNaN = false := isNaN_eq_false.mpr (Nat.le_of_lt finite)
  have bounded : x.isInfinite = false := beq_eq_false_iff_ne.mpr (Nat.ne_of_lt finite)
  simp only [ln, number, bounded, sign, Nat.ne_of_gt positive, Bool.false_eq_true, if_false]

/-- The logarithm of a positive number is exact to nine digits. -/
theorem ln_bounds (sign : x.negative = false) : (ln x).position < infinityPosition ∧
    |value (ln x)| ≤ 3000 ∧ |value (ln x) - Real.log (value x)| ≤ 1 / 10 ^ 9 := by
  have parts := scale_pos
  have fine : (10 : ℝ) ^ 20 ≤ scale := by
    have natural : 10 ^ 20 ≤ scale := by decide
    exact_mod_cast natural
  have error := lnParts_bounds (units_strictMono positive) (log2_units_lt finite positive)
  have size := abs_log_units_le finite positive
  rw [← log_value positive sign] at error size
  rw [ln_eq_round finite positive sign]
  generalize lnParts (units x.position) = n at error
  have quotient : |(n : ℝ) / scale - Real.log (value x)| ≤ 1 / 10 ^ 14 := by
    have scaled : (n : ℝ) / scale - Real.log (value x) =
        (n - scale * Real.log (value x)) / scale := by
      rw [sub_div, mul_div_cancel_left₀ _ (ne_of_gt parts)]
    rw [scaled, abs_div, abs_of_pos parts, div_le_iff₀ parts]
    linarith
  have range : |(n : ℝ) / scale| ≤ 2101 := by
    rw [abs_le] at quotient size ⊢
    constructor <;> linarith
  have bound : n.natAbs ≤ 2 ^ 64 * scale := by
    rw [abs_div, abs_of_pos parts, div_le_iff₀ parts, ← Int.cast_abs, Int.abs_eq_natAbs] at range
    have natural : n.natAbs ≤ 2101 * scale := by exact_mod_cast range
    exact Nat.le_trans natural (Nat.mul_le_mul_right scale (by decide))
  obtain ⟨bounded, close⟩ := close_parts bound
  have tiny : unit ≤ 1 / 10 ^ 14 := le_trans unit_le (by norm_num)
  have off : |value (round (n < 0) (n.natAbs * one) scale) - n / scale| ≤ 1 / 10 ^ 10 := by
    rw [Close] at close
    linarith
  refine ⟨bounded, ?_, ?_⟩
  · rw [abs_le] at off range ⊢
    constructor <;> linarith
  · rw [abs_le] at off quotient ⊢
    constructor <;> linarith

end Finite

end Telemetry.Binary64
