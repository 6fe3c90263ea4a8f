import Mathlib.Order.Monotone.Basic
import Mathlib.Tactic.Ring
import Telemetry.Binary64.Basic

/-!
# Rounding and division

The magnitude at position `shift * 2 ^ 52 + q` is `q * 2 ^ shift`, so magnitudes
grow with their positions, by `gap` from each to the next.  A quotient is rounded
to the magnitude nearest to it; hence rounding never passes a magnitude, and does
not fall back on one when the quotient lies beyond the middle to the next.  For
division by a whole number this means that a comparison of the quotient with a
whole number comes out as it would without rounding (`units_div_le`,
`le_units_div`, `lt_units_div`).
-/
set_option autoImplicit false
namespace Telemetry.Binary64

/-- The distance from the magnitude at a position to the next one. -/
def gap (p : Nat) : Nat := 2 ^ (p / 2 ^ 52 - 1)

theorem units_of_lt {p : Nat} (low : p < 2 ^ 52) : units p = p := if_pos low

theorem units_of_le {p : Nat} (high : 2 ^ 52 ≤ p) :
    units p = (2 ^ 52 + p % 2 ^ 52) * 2 ^ (p / 2 ^ 52 - 1) := if_neg (Nat.not_lt.mpr high)

theorem units_succ (p : Nat) : units (p + 1) = units p + gap p := by
  rcases Nat.lt_trichotomy (p + 1) (2 ^ 52) with low | edge | high
  · have first : p / 2 ^ 52 - 1 = 0 := by omega
    rw [units_of_lt low, units_of_lt (by omega), gap, first, Nat.pow_zero]
  · have first : p / 2 ^ 52 - 1 = 0 := by omega
    rw [units_of_le (by omega), units_of_lt (by omega), gap, first, edge]
    omega
  · have high : 2 ^ 52 ≤ p := by omega
    rw [units_of_le (by omega), units_of_le high, gap]
    by_cases last : p % 2 ^ 52 + 1 = 2 ^ 52
    · have carry : (p + 1) / 2 ^ 52 - 1 = (p / 2 ^ 52 - 1) + 1 := by omega
      have reset : (p + 1) % 2 ^ 52 = 0 := by omega
      have full : 2 ^ 52 + p % 2 ^ 52 + 1 = 2 ^ 53 := by omega
      rw [carry, reset, Nat.pow_succ 2 (p / 2 ^ 52 - 1), ← Nat.succ_mul, Nat.succ_eq_add_one, full]
      omega
    · have same : (p + 1) / 2 ^ 52 = p / 2 ^ 52 := by omega
      have next : (p + 1) % 2 ^ 52 = p % 2 ^ 52 + 1 := by omega
      rw [same, next, ← Nat.add_assoc, Nat.succ_mul]

theorem units_strictMono : StrictMono units := by
  apply strictMono_nat_of_lt_succ
  intro p
  rw [units_succ]
  exact Nat.lt_add_of_pos_right (Nat.two_pow_pos _)

theorem units_lt_gap (p : Nat) : units p < 2 ^ 53 * gap p := by
  have positive : 0 < gap p := Nat.two_pow_pos _
  by_cases low : p < 2 ^ 52
  · rw [units_of_lt low]
    omega
  · rw [units_of_le (by omega), gap]
    exact Nat.mul_lt_mul_of_pos_right (by omega) (Nat.two_pow_pos _)

theorem gap_le_units {p : Nat} (high : 2 ^ 52 ≤ p) : 2 ^ 52 * gap p ≤ units p := by
  rw [units_of_le high, gap]
  exact Nat.mul_le_mul_right _ (Nat.le_add_right _ _)

/-- The magnitude `q * 2 ^ shift` by its position. -/
theorem units_scaled {shift q : Nat} (normal : shift = 0 ∨ 2 ^ 52 ≤ q) (bound : q ≤ 2 ^ 53) :
    units (shift * 2 ^ 52 + q) = q * 2 ^ shift := by
  by_cases low : shift * 2 ^ 52 + q < 2 ^ 52
  · have first : shift = 0 := by omega
    rw [units_of_lt low, first]
    omega
  · rw [units_of_le (by omega)]
    by_cases top : q = 2 ^ 53
    · subst top
      have quotient : (shift * 2 ^ 52 + 2 ^ 53) / 2 ^ 52 - 1 = shift + 1 := by omega
      have rest : (shift * 2 ^ 52 + 2 ^ 53) % 2 ^ 52 = 0 := by omega
      rw [quotient, rest, Nat.pow_succ 2 shift]
      omega
    · have quotient : (shift * 2 ^ 52 + q) / 2 ^ 52 - 1 = shift := by omega
      have rest : (shift * 2 ^ 52 + q) % 2 ^ 52 = q - 2 ^ 52 := by omega
      have whole : 2 ^ 52 + (q - 2 ^ 52) = q := by omega
      rw [quotient, rest, whole]

/-- The magnitude at `p` is as near to `num / den` as any other. -/
structure IsNearest (num den p : Nat) : Prop where
  below : ∀ q, q < p → (units q + units p) * den ≤ 2 * num
  above : ∀ q, p < q → 2 * num ≤ (units p + units q) * den

/-- Next to its neighbours a magnitude is nearest among all. -/
theorem isNearest_of_adjacent {num den p : Nat}
    (below : p = 0 ∨ (units (p - 1) + units p) * den ≤ 2 * num)
    (above : 2 * num ≤ (units p + units (p + 1)) * den) : IsNearest num den p := by
  constructor
  · intro q less
    have least : units q ≤ units (p - 1) := units_strictMono.monotone (by omega)
    have adjacent : (units (p - 1) + units p) * den ≤ 2 * num := below.resolve_left (by omega)
    exact Nat.le_trans (Nat.mul_le_mul_right den (Nat.add_le_add_right least _)) adjacent
  · intro q more
    have least : units (p + 1) ≤ units q := units_strictMono.monotone more
    exact Nat.le_trans above (Nat.mul_le_mul_right den (Nat.add_le_add_left least _))

/-- A quotient less its last binary digits: it has 53 digits left, or nothing is cut off. -/
theorem shifted_quotient (num den : Nat) :
    let shift := (num / den).log2 - 52
    let low := num / (den * 2 ^ shift)
    low < 2 ^ 53 ∧ (shift = 0 ∨ 2 ^ 52 ≤ low) := by
  intro shift low
  have lowEq : low = num / den / 2 ^ shift := (Nat.div_div_eq_div_mul num den (2 ^ shift)).symm
  rw [lowEq]
  constructor
  · apply Nat.div_lt_of_lt_mul
    rw [← Nat.pow_add]
    exact Nat.lt_of_lt_of_le Nat.lt_log2_self (Nat.pow_le_pow_right (by omega) (by omega))
  · by_cases small : shift = 0
    · exact .inl small
    · refine .inr ?_
      have nonzero : num / den ≠ 0 := by
        intro zero
        apply small
        simp [shift, zero]
      have exponent : 52 + shift = (num / den).log2 := by omega
      rw [Nat.le_div_iff_mul_le (Nat.two_pow_pos _), ← Nat.pow_add, exponent]
      exact Nat.log2_self_le nonzero

theorem isNearest_nearestPosition {num den : Nat} (positive : 0 < den) :
    IsNearest num den (nearestPosition num den) := by
  let shift := (num / den).log2 - 52
  let step := den * 2 ^ shift
  let low := num / step
  let rest := num % step
  obtain ⟨low_lt, normal⟩ : low < 2 ^ 53 ∧ (shift = 0 ∨ 2 ^ 52 ≤ low) := shifted_quotient num den
  have whole : num = step * low + rest := (Nat.div_add_mod num step).symm
  have rest_lt : rest < step := Nat.mod_lt _ (Nat.mul_pos positive (Nat.two_pow_pos _))
  have lowUnits : units (shift * 2 ^ 52 + low) * den = step * low := by
    rw [units_scaled normal (by omega)]
    ring
  have nextUnits : units (shift * 2 ^ 52 + low + 1) * den = step * low + step := by
    have next : units (shift * 2 ^ 52 + (low + 1)) = (low + 1) * 2 ^ shift :=
      units_scaled (by omega) (by omega)
    rw [Nat.add_assoc, next]
    ring
  have definition : nearestPosition num den = shift * 2 ^ 52 +
      if step < 2 * rest ∨ (step = 2 * rest ∧ low % 2 = 1) then low + 1 else low := rfl
  rw [definition]
  split
  · -- up: at least half a step is left
    have larger : units (shift * 2 ^ 52 + low + 1) ≤ units (shift * 2 ^ 52 + low + 1 + 1) :=
      units_strictMono.monotone (Nat.le_succ _)
    have scaled := Nat.mul_le_mul_right den larger
    apply isNearest_of_adjacent
    · right
      rw [← Nat.add_assoc, Nat.add_sub_cancel, Nat.add_mul]
      omega
    · rw [← Nat.add_assoc, Nat.add_mul]
      omega
  · -- down: at most half a step is left
    have smaller : units (shift * 2 ^ 52 + low - 1) ≤ units (shift * 2 ^ 52 + low) :=
      units_strictMono.monotone (Nat.sub_le _ _)
    have scaled := Nat.mul_le_mul_right den smaller
    apply isNearest_of_adjacent
    · right
      rw [Nat.add_mul]
      omega
    · rw [Nat.add_mul]
      omega

section Round
variable {num den p q : Nat} {sign : Bool}

theorem nearestPosition_le (positive : 0 < den) (below : num ≤ units p * den) :
    nearestPosition num den ≤ p := by
  by_contra more
  rw [Nat.not_le] at more
  have middle := (isNearest_nearestPosition positive).below p more
  have larger := Nat.mul_lt_mul_of_pos_right (units_strictMono more) positive
  rw [Nat.add_mul] at middle
  omega

theorem le_nearestPosition (positive : 0 < den) (above : units p * den ≤ num) :
    p ≤ nearestPosition num den := by
  by_contra less
  rw [Nat.not_le] at less
  have middle := (isNearest_nearestPosition positive).above p less
  have smaller := Nat.mul_lt_mul_of_pos_right (units_strictMono less) positive
  rw [Nat.add_mul] at middle
  omega

/-- What lies beyond the middle between two magnitudes is not rounded to the lower one. -/
theorem lt_nearestPosition (positive : 0 < den) (order : p < q)
    (beyond : (units p + units q) * den < 2 * num) : p < nearestPosition num den := by
  by_contra less
  rw [Nat.not_lt] at less
  have middle := (isNearest_nearestPosition positive).above q (Nat.lt_of_le_of_lt less order)
  have smaller := Nat.mul_le_mul_right den (units_strictMono.monotone less)
  rw [Nat.add_mul] at middle beyond
  omega

theorem nearestPosition_mono {num' : Nat} (positive : 0 < den) (order : num ≤ num') :
    nearestPosition num den ≤ nearestPosition num' den := by
  by_contra more
  rw [Nat.not_le] at more
  have lower := IsNearest.below (isNearest_nearestPosition positive) _ more
  have upper := IsNearest.above (isNearest_nearestPosition positive) _ more
  have same : num = num' := by omega
  rw [same] at more
  exact Nat.lt_irrefl _ more

theorem nearestPosition_eq (positive : 0 < den) (exact : num = units p * den) :
    nearestPosition num den = p :=
  Nat.le_antisymm (nearestPosition_le positive (Nat.le_of_eq exact))
    (le_nearestPosition positive (Nat.le_of_eq exact.symm))

/-! ## Whole numbers -/

theorem exists_one : ∃ e, one = 2 ^ e := by
  refine ⟨1074, ?_⟩
  unfold one
  generalize 1074 = e
  rfl

theorem two_pow_le_one {k : Nat} (bound : k ≤ 1074) : 2 ^ k ≤ one := by
  unfold one
  revert bound
  generalize 1074 = e
  exact fun bound => Nat.pow_le_pow_right (by decide) bound

theorem one_pos : 0 < one := by
  obtain ⟨e, eq⟩ := exists_one
  rw [eq]
  exact Nat.two_pow_pos e

theorem lt_units_infinityPosition : 2 ^ 64 * one < units infinityPosition := by decide +kernel

theorem lt_infinityPosition {n : Nat} (bound : n ≤ 2 ^ 64) (below : units p ≤ n * one) :
    p < infinityPosition := by
  rw [← units_strictMono.lt_iff_lt]
  exact Nat.lt_of_le_of_lt (Nat.le_trans below (Nat.mul_le_mul_right one bound))
    lt_units_infinityPosition

/-- With at most 53 binary digits, and zeros after them, a number of units is a magnitude. -/
theorem exists_units (exponent : Nat) : ∀ {digits : Nat}, digits ≤ 2 ^ 53 →
    ∃ p, units p = digits * 2 ^ exponent := by
  induction exponent with
  | zero =>
      intro digits bound
      have scaled : units (0 * 2 ^ 52 + digits) = digits * 2 ^ 0 := units_scaled (.inl rfl) bound
      exact ⟨digits, by simpa using scaled⟩
  | succ exponent ih =>
      intro digits bound
      by_cases normal : 2 ^ 52 ≤ digits
      · exact ⟨_, units_scaled (.inr normal) bound⟩
      · have double : digits * 2 ≤ 2 ^ 53 := by omega
        obtain ⟨p, found⟩ := ih double
        refine ⟨p, ?_⟩
        rw [found, Nat.pow_succ]
        ring

/-- The natural number is a binary64 number, and not too large for comfort. -/
structure Exact (n : Nat) : Prop where
  bound : n ≤ 2 ^ 64
  exists_position : ∃ p, units p = n * one

theorem exact_of_le {n : Nat} (bound : n ≤ 2 ^ 53) : Exact n := by
  obtain ⟨e, eq⟩ := exists_one
  refine ⟨by omega, ?_⟩
  rw [eq]
  exact exists_units e bound

theorem exact_double {n : Nat} (bound : n ≤ 2 ^ 53) : Exact (n * 2) := by
  obtain ⟨e, eq⟩ := exists_one
  obtain ⟨p, found⟩ := exists_units (e + 1) bound
  refine ⟨by omega, p, ?_⟩
  rw [found, eq, Nat.pow_succ]
  ring

theorem position_round {sign : Bool} :
    (round sign num den).position = min (nearestPosition num den) infinityPosition := rfl

theorem isNaN_round {sign : Bool} : (round sign num den).isNaN = false :=
  decide_eq_false (Nat.not_lt.mpr (Nat.min_le_right _ _))

theorem Exact.units_ofNat {n : Nat} (exact : Exact n) : units (ofNat n).position = n * one := by
  obtain ⟨p, found⟩ := exact.exists_position
  have same : nearestPosition (n * one) 1 = p := nearestPosition_eq Nat.one_pos (by omega)
  have finite : p < infinityPosition := lt_infinityPosition exact.bound (Nat.le_of_eq found)
  rw [ofNat, position_round, same, Nat.min_eq_left (Nat.le_of_lt finite), found]

theorem Exact.finite {n : Nat} (exact : Exact n) : (ofNat n).position < infinityPosition :=
  lt_infinityPosition exact.bound (Nat.le_of_eq exact.units_ofNat)

theorem position_ofNat_mono {n m : Nat} (order : n ≤ m) :
    (ofNat n).position ≤ (ofNat m).position := by
  have nearest := nearestPosition_mono Nat.one_pos (Nat.mul_le_mul_right one order)
  exact Nat.le_min.mpr ⟨Nat.le_trans (Nat.min_le_left _ _) nearest, Nat.min_le_right _ _⟩

/-- A quotient of at most `2 ^ 64` is not rounded to infinity. -/
theorem nearestPosition_lt_infinity (positive : 0 < den) (bound : num ≤ 2 ^ 64 * one * den) :
    nearestPosition num den < infinityPosition := by
  obtain ⟨e, eq⟩ := exists_one
  obtain ⟨p, found⟩ : ∃ p, units p = 1 * 2 ^ (e + 64) := exists_units (e + 64) (by decide)
  have value : units p = 2 ^ 64 * one := by rw [found, eq, Nat.pow_add, Nat.one_mul, Nat.mul_comm]
  have below : nearestPosition num den ≤ p := by
    apply nearestPosition_le positive
    rw [value]
    exact bound
  exact Nat.lt_of_le_of_lt below (lt_infinityPosition (Nat.le_refl _) (Nat.le_of_eq value))

theorem nearestPosition_ofNat_lt_infinity {n : Nat} (bound : n ≤ 2 ^ 64) :
    nearestPosition (n * one) 1 < infinityPosition := by
  apply nearestPosition_lt_infinity Nat.one_pos
  rw [Nat.mul_one]
  exact Nat.mul_le_mul_right one bound

/-- Whole numbers up to `2 ^ 64` are finite. -/
theorem finite_ofNat {n : Nat} (bound : n ≤ 2 ^ 64) : (ofNat n).position < infinityPosition :=
  Nat.lt_of_le_of_lt (Nat.min_le_left _ _) (nearestPosition_ofNat_lt_infinity bound)

theorem position_ofNat_pos {n : Nat} (positive : 0 < n) : 0 < (ofNat n).position := by
  apply Nat.lt_of_lt_of_le _ (position_ofNat_mono (n := 1) positive)
  by_contra none
  have value := (exact_of_le (n := 1) (by decide)).units_ofNat
  rw [Nat.eq_zero_of_not_pos none, units_of_lt (by decide), Nat.one_mul] at value
  exact Nat.ne_of_gt one_pos value.symm

end Round

/-! ## Division by a whole number -/

section Division
variable {x : Binary64} {n d : Nat}

theorem div_ofNat (finite : x.position < infinityPosition) (positive : 0 < d) (exact : Exact d) :
    x / ofNat d = round x.negative (units x.position * one) (d * one) := by
  have bounded := exact.finite
  have value := exact.units_ofNat
  have nonzero : (ofNat d).position ≠ 0 := by
    intro zero
    rw [zero, units_of_lt (by omega)] at value
    have := Nat.mul_pos positive one_pos
    omega
  have notNaN : x.isNaN = false := decide_eq_false (by omega)
  have notNaN' : (ofNat d).isNaN = false := decide_eq_false (by omega)
  have notInfinite : x.isInfinite = false := beq_eq_false_iff_ne.mpr (by omega)
  have notInfinite' : (ofNat d).isInfinite = false := beq_eq_false_iff_ne.mpr (by omega)
  have sign : (ofNat d).negative = false := rfl
  change div x (ofNat d) = _
  simp [div, notNaN, notNaN', notInfinite, notInfinite', nonzero, value, sign]

variable (finite : x.position < infinityPosition) (positive : 0 < d) (exactDivisor : Exact d)
include finite positive exactDivisor

theorem position_div_le : (x / ofNat d).position ≤ x.position := by
  rw [div_ofNat finite positive exactDivisor, position_round]
  apply Nat.le_trans (Nat.min_le_left _ _)
  apply nearestPosition_le (Nat.mul_pos positive one_pos)
  exact Nat.mul_le_mul_left _ (Nat.le_mul_of_pos_left one positive)

variable (exact : Exact n)
include exact

theorem units_div_le (below : units x.position ≤ n * d * one) :
    units (x / ofNat d).position ≤ n * one := by
  rw [div_ofNat finite positive exactDivisor, position_round, ← exact.units_ofNat]
  apply units_strictMono.monotone
  apply Nat.le_trans (Nat.min_le_left _ _)
  apply nearestPosition_le (Nat.mul_pos positive one_pos)
  calc units x.position * one ≤ n * d * one * one := Nat.mul_le_mul_right one below
    _ = units (ofNat n).position * (d * one) := by rw [exact.units_ofNat]; ring

theorem le_units_div (above : n * d * one ≤ units x.position) :
    n * one ≤ units (x / ofNat d).position := by
  rw [div_ofNat finite positive exactDivisor, position_round, ← exact.units_ofNat]
  apply units_strictMono.monotone
  refine Nat.le_min.mpr ⟨?_, Nat.le_of_lt exact.finite⟩
  apply le_nearestPosition (Nat.mul_pos positive one_pos)
  calc units (ofNat n).position * (d * one) = n * d * one * one := by rw [exact.units_ofNat]; ring
    _ ≤ units x.position * one := Nat.mul_le_mul_right one above

/-- Between neighbours of a product and of a factor lies room enough for the rounding: a number
above `n * d` is above `n` still when it has been divided by `d`. -/
theorem lt_units_div (nonzero : 0 < n) (exactProduct : Exact (n * d))
    (above : n * d * one < units x.position) : n * one < units (x / ofNat d).position := by
  have factor := exact.units_ofNat
  have product := exactProduct.units_ofNat
  have normal : 2 ^ 52 ≤ (ofNat n).position := by
    by_contra low
    rw [units_of_lt (by omega)] at factor
    have large : 2 ^ 52 ≤ one := two_pow_le_one (by decide)
    have least := Nat.le_mul_of_pos_left one nonzero
    omega
  have room : gap (ofNat n).position * d < 2 * gap (ofNat (n * d)).position := by
    have upper := units_lt_gap (ofNat (n * d)).position
    have lower := Nat.mul_le_mul_right d (gap_le_units normal)
    have equal : units (ofNat n).position * d = units (ofNat (n * d)).position := by
      rw [factor, product]
      ring
    rw [equal, Nat.mul_assoc] at lower
    omega
  have next : n * d * one + gap (ofNat (n * d)).position ≤ units x.position := by
    rw [← product, ← units_succ]
    apply units_strictMono.monotone
    rw [← product] at above
    exact units_strictMono.lt_iff_lt.mp above
  have beyond : (2 * (n * one) + gap (ofNat n).position) * d < 2 * units x.position := by
    calc (2 * (n * one) + gap (ofNat n).position) * d
        = 2 * (n * d * one) + gap (ofNat n).position * d := by ring
      _ < 2 * units x.position := by omega
  rw [div_ofNat finite positive exactDivisor, position_round, ← factor]
  apply units_strictMono
  refine Nat.lt_min.mpr ⟨?_, exact.finite⟩
  apply lt_nearestPosition (Nat.mul_pos positive one_pos) (Nat.lt_succ_self _)
  rw [units_succ, factor]
  calc (n * one + (n * one + gap (ofNat n).position)) * (d * one)
      = (2 * (n * one) + gap (ofNat n).position) * d * one := by ring
    _ < 2 * units x.position * one := Nat.mul_lt_mul_of_pos_right beyond one_pos
    _ = 2 * (units x.position * one) := by ring

end Division
end Telemetry.Binary64
