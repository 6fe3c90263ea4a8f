import Telemetry.Proofs.Binary64.Rounding

/-!
# Arithmetic and order

The level of a number is its place in the numeric order, a NaN counting as low as
negative infinity.  Rounding never turns an order around, so a sum rises with its
terms and a quotient with its dividend, in levels, through overflow and the NaNs
of opposite infinities.
-/
set_option autoImplicit false
namespace Telemetry.Binary64
variable {x y x' y' : Binary64}

/-- The place in the numeric order; a NaN counts as low as negative infinity. -/
def level (x : Binary64) : Int := if x.isNaN then -infinityPosition else x.place

theorem isNaN_eq_false : x.isNaN = false ↔ x.position ≤ infinityPosition := by
  rw [isNaN, decide_eq_false_iff_not, Nat.not_lt]

theorem level_of_number (number : x.isNaN = false) : x.level = x.place := by
  rw [level, number, if_neg Bool.false_ne_true]

theorem level_bounds (x : Binary64) :
    -(infinityPosition : Int) ≤ x.level ∧ x.level ≤ infinityPosition := by
  rw [level]
  split_ifs with undefined
  · omega
  · rw [Bool.not_eq_true, isNaN_eq_false] at undefined
    rw [place]
    split_ifs <;> omega

/-- What lies strictly between the infinities is finite. -/
theorem finite_of_level (low : -(infinityPosition : Int) < x.level) (high : x.level < infinityPosition) :
    x.position < infinityPosition := by
  rw [level] at low high
  split_ifs at low high with undefined
  · omega
  · rw [place] at low high
    split_ifs at low high <;> omega

theorem level_of_finite (finite : x.position < infinityPosition) :
    x.level = x.place ∧ -(infinityPosition : Int) < x.level ∧ x.level < infinityPosition := by
  have same := level_of_number (isNaN_eq_false.mpr (Nat.le_of_lt finite))
  rw [same, place]
  split_ifs <;> omega

theorem lt_iff_level (number : x.isNaN = false) : x < y ↔ x.level < y.level := by
  change x.lt y = true ↔ _
  rw [lt, number, level_of_number number, level]
  split_ifs with undefined
  · have low := (level_bounds x).1
    rw [level_of_number number] at low
    simp [undefined, low]
  · simp [undefined]

theorem le_iff_level (number : x.isNaN = false) (number' : y.isNaN = false) :
    x ≤ y ↔ x.level ≤ y.level := by
  change x.le y = true ↔ _
  rw [le, number, number', level_of_number number, level_of_number number']
  simp

/-! ## Rounding a signed quotient -/

/-- The place to which a signed quotient of units is rounded. -/
def roundedPlace (num : Int) (den : Nat) : Int :=
  if num < 0 then -(min (nearestPosition num.natAbs den) infinityPosition : Nat)
  else (min (nearestPosition num.natAbs den) infinityPosition : Nat)

theorem roundedPlace_mono {num num' : Int} {den : Nat} (positive : 0 < den) (order : num ≤ num') :
    roundedPlace num den ≤ roundedPlace num' den := by
  rw [roundedPlace, roundedPlace]
  split_ifs with below below' below'
  · have nearest : nearestPosition num'.natAbs den ≤ nearestPosition num.natAbs den :=
      nearestPosition_mono positive (by omega)
    omega
  · omega
  · omega
  · have nearest : nearestPosition num.natAbs den ≤ nearestPosition num'.natAbs den :=
      nearestPosition_mono positive (by omega)
    omega

theorem nearestPosition_zero {den : Nat} (positive : 0 < den) : nearestPosition 0 den = 0 :=
  nearestPosition_eq positive (by simp [units])

theorem roundedPlace_zero {den : Nat} (positive : 0 < den) : roundedPlace 0 den = 0 := by
  simp [roundedPlace, nearestPosition_zero positive]

/-- A negative quotient of a unit or more is not rounded to zero. -/
theorem roundedPlace_neg {num den : Nat} (positive : 0 < den) (large : den ≤ num) :
    roundedPlace (-(num : Int)) den < 0 := by
  have unit : units 1 = 1 := by decide
  have nearest : 1 ≤ nearestPosition num den := by
    apply le_nearestPosition positive
    rwa [unit, Nat.one_mul]
  have least : 1 ≤ min (nearestPosition num den) infinityPosition :=
    Nat.le_min.mpr ⟨nearest, by decide⟩
  have negative : -(num : Int) < 0 := by omega
  rw [roundedPlace, if_pos negative, Int.natAbs_neg, Int.natAbs_natCast]
  omega

theorem level_zero (negative : Bool) : (zero negative).level = 0 := by
  cases negative <;> rfl

theorem level_round {num den : Nat} {negative : Bool} (positive : 0 < den) :
    (round negative num den).level = roundedPlace (if negative then -(num : Int) else num) den := by
  rw [level_of_number isNaN_round, place, position_round, roundedPlace]
  cases negative with
  | false =>
      have sign : ¬ (num : Int) < 0 := by omega
      simp [round, ofPosition, sign]
  | true =>
      simp only [round, ofPosition, if_true, Int.natAbs_neg, Int.natAbs_natCast]
      rcases Nat.eq_zero_or_pos num with rfl | nonzero
      · simp [nearestPosition_zero positive]
      · rw [if_pos (by omega)]

theorem level_ofInt_mono {m n : Int} (order : m ≤ n) : (ofInt m).level ≤ (ofInt n).level := by
  have level_ofInt (k : Int) : (ofInt k).level = roundedPlace (k * one) 1 := by
    have magnitude : (if decide (k < 0) then -((k.natAbs * one : Nat) : Int)
        else (k.natAbs * one : Nat)) = k * one := by
      simp only [decide_eq_true_eq]
      split_ifs with below
      · rw [Nat.cast_mul, ← neg_mul, show -(k.natAbs : Int) = k by omega]
      · rw [Nat.cast_mul, show (k.natAbs : Int) = k by omega]
    rw [ofInt, level_round Nat.one_pos, magnitude]
  rw [level_ofInt, level_ofInt]
  apply roundedPlace_mono Nat.one_pos
  exact Int.mul_le_mul_of_nonneg_right order (Int.natCast_nonneg one)

theorem place_le_iff : x.place ≤ y.place ↔ x.signedUnits ≤ y.signedUnits := by
  have order (p q : Nat) : units p ≤ units q ↔ p ≤ q := units_strictMono.le_iff_le
  have lowest (p : Nat) : units p = 0 ↔ p = 0 := by
    rw [← Nat.le_zero, ← Nat.le_zero, ← order p 0]
    rfl
  have forward := order x.position y.position
  have back := order y.position x.position
  have zero := lowest x.position
  have zero' := lowest y.position
  rw [place, place, signedUnits, signedUnits]
  split_ifs <;> omega

/-! ## Sums -/

theorem add_of_finite (finite : x.position < infinityPosition)
    (finite' : y.position < infinityPosition) : x + y =
      if x.signedUnits + y.signedUnits = 0 then zero (x.negative && y.negative)
      else round (decide (x.signedUnits + y.signedUnits < 0)) (x.signedUnits + y.signedUnits).natAbs 1 := by
  have number : x.isNaN = false := isNaN_eq_false.mpr (Nat.le_of_lt finite)
  have number' : y.isNaN = false := isNaN_eq_false.mpr (Nat.le_of_lt finite')
  have bounded : x.isInfinite = false := beq_eq_false_iff_ne.mpr (Nat.ne_of_lt finite)
  have bounded' : y.isInfinite = false := beq_eq_false_iff_ne.mpr (Nat.ne_of_lt finite')
  change add x y = _
  simp only [add, number, number', bounded, bounded', Bool.or_self, Bool.false_eq_true, if_false]

theorem level_add_finite (finite : x.position < infinityPosition)
    (finite' : y.position < infinityPosition) :
    (x + y).level = roundedPlace (x.signedUnits + y.signedUnits) 1 := by
  rw [add_of_finite finite finite']
  split_ifs with nothing
  · rw [nothing, level_zero, roundedPlace_zero Nat.one_pos]
  · have value : (if decide (x.signedUnits + y.signedUnits < 0) then
        -((x.signedUnits + y.signedUnits).natAbs : Int)
        else (x.signedUnits + y.signedUnits).natAbs) = x.signedUnits + y.signedUnits := by
      simp only [decide_eq_true_eq]
      split_ifs <;> omega
    rw [level_round Nat.one_pos, value]

theorem natAbs_signedUnits (x : Binary64) : x.signedUnits.natAbs = units x.position := by
  rw [signedUnits]
  split_ifs <;> omega

theorem signedUnits_zero (negative : Bool) : (zero negative).signedUnits = 0 := by
  cases negative <;> rfl

/-- A finite number times the divisor is divided without rounding. -/
theorem roundedPlace_mul {den : Nat} (positive : 0 < den) (finite : x.position < infinityPosition) :
    roundedPlace (x.signedUnits * den) den = x.level := by
  have nearest : nearestPosition (x.signedUnits * den).natAbs den = x.position := by
    apply nearestPosition_eq positive
    rw [Int.natAbs_mul, natAbs_signedUnits, Int.natAbs_natCast]
  have sign : x.signedUnits * den < 0 ↔ x.place < 0 := by
    have order := @place_le_iff (zero false) x
    rw [signedUnits_zero, (show (zero false).place = 0 from rfl)] at order
    rcases lt_or_ge x.signedUnits 0 with below | above
    · have product : x.signedUnits * den < 0 := Int.mul_neg_of_neg_of_pos below (by omega)
      omega
    · have product : 0 ≤ x.signedUnits * den := Int.mul_nonneg above (by omega)
      omega
  rw [roundedPlace, nearest, Nat.min_eq_left (Nat.le_of_lt finite), (level_of_finite finite).1]
  simp only [sign]
  rw [place]
  split_ifs <;> omega

/-- A sum with at most 53 binary digits is not rounded. -/
theorem signedUnits_add {e : Nat} (finite : x.position < infinityPosition)
    (finite' : y.position < infinityPosition) (unit : 2 ^ e ≤ one)
    (multiple : 2 ^ e ∣ (x.signedUnits + y.signedUnits).natAbs)
    (bound : (x.signedUnits + y.signedUnits).natAbs ≤ 2 ^ 53 * 2 ^ e) :
    (x + y).signedUnits = x.signedUnits + y.signedUnits := by
  obtain ⟨digits, value⟩ := multiple
  rw [Nat.mul_comm] at value
  have few : digits ≤ 2 ^ 53 := by
    rw [value] at bound
    exact Nat.le_of_mul_le_mul_right bound (Nat.two_pow_pos e)
  obtain ⟨p, found⟩ := exists_units e few
  have magnitude : units p = (x.signedUnits + y.signedUnits).natAbs := found.trans value.symm
  have nearest : nearestPosition (x.signedUnits + y.signedUnits).natAbs 1 = p :=
    nearestPosition_eq Nat.one_pos (by rw [magnitude, Nat.mul_one])
  have small : p < infinityPosition := by
    apply lt_infinityPosition (n := 2 ^ 53) (by decide)
    rw [found]
    exact Nat.mul_le_mul few unit
  rw [add_of_finite finite finite']
  split_ifs with nothing
  · rw [signedUnits_zero, nothing]
  · rw [signedUnits, position_round, nearest, Nat.min_eq_left (Nat.le_of_lt small), magnitude]
    simp only [round, ofPosition, decide_eq_true_eq]
    split_ifs <;> omega

theorem eq_infinity (bounded : x.isInfinite = true) : x = infinity x.negative := by
  obtain ⟨negative, position, bound⟩ := x
  obtain rfl : position = infinityPosition := beq_iff_eq.mp bounded
  rfl

theorem add_comm (x y : Binary64) : x + y = y + x := by
  change add x y = add y x
  rw [add, add, Bool.or_comm y.isNaN, Int.add_comm y.signedUnits, Bool.and_comm y.negative]
  cases bounded : x.isInfinite <;> cases bounded' : y.isInfinite
  · rfl
  · rfl
  · rfl
  · by_cases same : x.negative = y.negative
    · rw [eq_infinity bounded, eq_infinity bounded', same]
    · simp [same, Ne.symm same]

theorem nan_add (undefined : x.isNaN = true) (y : Binary64) : x + y = nan := by
  change add x y = nan
  simp [add, undefined]

theorem infinity_add {negative : Bool} (number : y.isNaN = false) : infinity negative + y =
    if y = infinity (!negative) then nan else infinity negative := by
  have bounded : (infinity negative).isInfinite = true := by cases negative <;> rfl
  have number' : (infinity negative).isNaN = false := by cases negative <;> rfl
  have sign : (infinity negative).negative = negative := rfl
  change add (infinity negative) y = _
  simp only [add, number, number', bounded, sign, Bool.or_self, Bool.false_eq_true, if_false, if_true]
  cases bounded' : y.isInfinite with
  | false =>
      have other : y ≠ infinity (!negative) := by
        rintro rfl
        cases negative <;> exact absurd bounded' (by decide)
      simp [other]
  | true =>
      rw [eq_infinity bounded']
      cases negative <;> cases y.negative <;> decide

/-- A finite number plus any number is a number. -/
theorem isNaN_add (finite : x.position < infinityPosition) (number : y.isNaN = false) :
    (x + y).isNaN = false := by
  cases bounded : y.isInfinite with
  | true =>
      have other : x ≠ infinity (!y.negative) := by
        rintro rfl
        exact Nat.lt_irrefl _ finite
      rw [add_comm, eq_infinity bounded, infinity_add (isNaN_eq_false.mpr (Nat.le_of_lt finite)),
        if_neg other]
      cases y.negative <;> rfl
  | false =>
      have finite' : y.position < infinityPosition :=
        Nat.lt_of_le_of_ne (isNaN_eq_false.mp number) (beq_eq_false_iff_ne.mp bounded)
      rw [add_of_finite finite finite']
      split_ifs
      · cases x.negative <;> cases y.negative <;> rfl
      · exact isNaN_round

/-! ## Sums in levels -/

theorem level_nan (undefined : x.isNaN = true) : x.level = -infinityPosition := by
  rw [level, undefined, if_pos rfl]

/-- A level above zero is that of one number only. -/
theorem eq_of_level (same : x.level = y.level) (above : 0 < x.level) : x = y := by
  have number {z : Binary64} (positive : 0 < z.level) : z.level = z.place := by
    cases undefined : z.isNaN with
    | false => exact level_of_number undefined
    | true =>
        rw [level_nan undefined] at positive
        omega
  have above' : 0 < y.level := same ▸ above
  rw [number above, number above'] at same
  rw [number above] at above
  obtain ⟨sign, p, bound⟩ := x
  obtain ⟨sign', q, bound'⟩ := y
  cases sign <;> cases sign' <;>
    simp only [place, if_true, if_false, Bool.false_eq_true] at same above
  · obtain rfl : p = q := by omega
    rfl
  · omega
  · omega
  · omega

theorem level_infinity (negative : Bool) : (infinity negative).level =
    if negative then -(infinityPosition : Int) else infinityPosition := by
  cases negative <;> rfl

theorem eq_infinity_of_place {negative : Bool} (edge : x.place = (infinity negative).place) :
    x = infinity negative := by
  obtain ⟨sign, position, bound⟩ := x
  have positive : 0 < infinityPosition := by decide
  change (if sign then -(position : Int) else position) =
    if negative then -(infinityPosition : Int) else infinityPosition at edge
  obtain rfl : position = infinityPosition := by split_ifs at edge <;> omega
  obtain rfl : sign = negative := by
    cases sign <;> cases negative <;> simp only [Bool.false_eq_true, if_true, if_false] at edge ⊢ <;>
      omega
  rfl

theorem level_eq_lowest : x.level = -infinityPosition ↔ x.isNaN = true ∨ x = infinity true := by
  constructor
  · intro lowest
    cases undefined : x.isNaN with
    | true => exact .inl rfl
    | false =>
        rw [level_of_number undefined] at lowest
        exact .inr (eq_infinity_of_place lowest)
  · rintro (undefined | rfl)
    · exact level_nan undefined
    · exact level_infinity true

theorem level_eq_highest : x.level = infinityPosition ↔ x = infinity false := by
  constructor
  · intro highest
    cases undefined : x.isNaN with
    | true =>
        have positive : 0 < infinityPosition := by decide
        rw [level_nan undefined] at highest
        omega
    | false =>
        rw [level_of_number undefined] at highest
        exact eq_infinity_of_place highest
  · rintro rfl
    exact level_infinity false

/-- Negative infinity and the NaNs swallow whatever is added to them. -/
theorem level_add_lowest (lowest : x.level = -infinityPosition) (y : Binary64) :
    (x + y).level = -infinityPosition := by
  rcases level_eq_lowest.mp lowest with undefined | rfl
  · rw [nan_add undefined]
    exact level_nan rfl
  · cases undefined : y.isNaN with
    | true =>
        rw [add_comm, nan_add undefined]
        exact level_nan rfl
    | false =>
        rw [infinity_add undefined]
        split_ifs
        · exact level_nan rfl
        · exact lowest

theorem level_add_highest (highest : x.level = infinityPosition)
    (above : -(infinityPosition : Int) < y.level) : (x + y).level = infinityPosition := by
  have number : y.isNaN = false := by
    by_contra undefined
    rw [Bool.not_eq_false] at undefined
    exact absurd (level_nan undefined) (Int.ne_of_gt above)
  have other : y ≠ infinity (!false) := by
    rintro rfl
    exact absurd (level_infinity true) (Int.ne_of_gt above)
  rw [level_eq_highest.mp highest, infinity_add number, if_neg other, level_infinity]
  rfl

theorem signedUnits_le (finite : x.position < infinityPosition)
    (finite' : y.position < infinityPosition) (order : x.level ≤ y.level) :
    x.signedUnits ≤ y.signedUnits := by
  rw [(level_of_finite finite).1, (level_of_finite finite').1] at order
  exact place_le_iff.mp order

/-- A sum rises with its terms. -/
theorem level_add_mono (left : x.level ≤ x'.level) (right : y.level ≤ y'.level) :
    (x + y).level ≤ (x' + y').level := by
  have bounds := level_bounds (x + y)
  have bounds' := level_bounds (x' + y')
  by_cases low : x.level = -infinityPosition
  · rw [level_add_lowest low]
    exact bounds'.1
  by_cases low' : y.level = -infinityPosition
  · rw [add_comm, level_add_lowest low']
    exact bounds'.1
  have above : -(infinityPosition : Int) < x.level := lt_of_le_of_ne (level_bounds x).1 (Ne.symm low)
  have above' : -(infinityPosition : Int) < y.level := lt_of_le_of_ne (level_bounds y).1 (Ne.symm low')
  by_cases high : x'.level = infinityPosition
  · rw [level_add_highest high (Int.lt_of_lt_of_le above' right)]
    exact bounds.2
  by_cases high' : y'.level = infinityPosition
  · rw [add_comm x', level_add_highest high' (Int.lt_of_lt_of_le above left)]
    exact bounds.2
  have below : x'.level < infinityPosition := lt_of_le_of_ne (level_bounds x').2 high
  have below' : y'.level < infinityPosition := lt_of_le_of_ne (level_bounds y').2 high'
  have finite := finite_of_level above (Int.lt_of_le_of_lt left below)
  have finite' := finite_of_level above' (Int.lt_of_le_of_lt right below')
  have finiteLeft := finite_of_level (Int.lt_of_lt_of_le above left) below
  have finiteRight := finite_of_level (Int.lt_of_lt_of_le above' right) below'
  rw [level_add_finite finite finite', level_add_finite finiteLeft finiteRight]
  apply roundedPlace_mono Nat.one_pos
  exact Int.add_le_add (signedUnits_le finite finiteLeft left) (signedUnits_le finite' finiteRight right)

/-- A difference rises as its subtrahend falls. -/
theorem level_sub_anti (number : x.isNaN = false) (number' : y.isNaN = false)
    (order : x.level ≤ y.level) (z : Binary64) : (z - y).level ≤ (z - x).level := by
  have level_neg {w : Binary64} (number : w.isNaN = false) : (-w).level = -w.level := by
    have opposite : (-w).isNaN = false := number
    rw [level_of_number number, level_of_number opposite, place, place]
    change (if !w.negative then -(w.position : Int) else w.position) = _
    cases w.negative <;> simp
  apply level_add_mono (Int.le_refl _)
  change (-y).level ≤ (-x).level
  rw [level_neg number, level_neg number']
  omega

/-! ## Quotients -/

theorem nan_div (undefined : x.isNaN = true) (y : Binary64) : x / y = nan := by
  change div x y = nan
  simp [div, undefined]

section Quotient
variable {d : Binary64} (finite : d.position < infinityPosition) (positive : 0 < d.position)
  (sign : d.negative = false)
include finite positive sign

theorem div_of_finite (dividend : x.position < infinityPosition) :
    x / d = round x.negative (units x.position * one) (units d.position) := by
  have number : x.isNaN = false := isNaN_eq_false.mpr (Nat.le_of_lt dividend)
  have number' : d.isNaN = false := isNaN_eq_false.mpr (Nat.le_of_lt finite)
  have bounded : x.isInfinite = false := beq_eq_false_iff_ne.mpr (Nat.ne_of_lt dividend)
  have bounded' : d.isInfinite = false := beq_eq_false_iff_ne.mpr (Nat.ne_of_lt finite)
  change div x d = _
  simp [div, number, number', bounded, bounded', Nat.ne_of_gt positive, sign]

theorem level_div_finite (dividend : x.position < infinityPosition) :
    (x / d).level = roundedPlace (x.signedUnits * one) (units d.position) := by
  have divisor : 0 < units d.position := units_strictMono positive
  have value : (if x.negative then -((units x.position * one : Nat) : Int)
      else (units x.position * one : Nat)) = x.signedUnits * one := by
    rw [signedUnits]
    split_ifs <;> push_cast <;> ring
  rw [div_of_finite finite positive sign dividend, level_round divisor, value]

omit positive in
theorem infinity_div (negative : Bool) : infinity negative / d = infinity negative := by
  have number : (infinity negative).isNaN = false := by cases negative <;> rfl
  have number' : d.isNaN = false := isNaN_eq_false.mpr (Nat.le_of_lt finite)
  have bounded : (infinity negative).isInfinite = true := by cases negative <;> rfl
  have bounded' : d.isInfinite = false := beq_eq_false_iff_ne.mpr (Nat.ne_of_lt finite)
  change div (infinity negative) d = _
  simp [div, number, number', bounded, bounded', sign]
  rfl

/-- A quotient of a number by a positive finite one is a number. -/
theorem isNaN_div (number : x.isNaN = false) : (x / d).isNaN = false := by
  cases bounded : x.isInfinite with
  | true =>
      rw [eq_infinity bounded, infinity_div finite sign]
      cases x.negative <;> rfl
  | false =>
      have dividend : x.position < infinityPosition :=
        Nat.lt_of_le_of_ne (isNaN_eq_false.mp number) (beq_eq_false_iff_ne.mp bounded)
      rw [div_of_finite finite positive sign dividend]
      exact isNaN_round

/-- A quotient by a positive number rises with its dividend. -/
theorem level_div_mono (order : x.level ≤ y.level) : (x / d).level ≤ (y / d).level := by
  have divisor : 0 < units d.position := units_strictMono positive
  have bounds := level_bounds (x / d)
  have bounds' := level_bounds (y / d)
  by_cases low : x.level = -infinityPosition
  · have lowest : (x / d).level = -infinityPosition := by
      rcases level_eq_lowest.mp low with undefined | rfl
      · rw [nan_div undefined, level_nan rfl]
      · rw [infinity_div finite sign, low]
    rw [lowest]
    exact bounds'.1
  by_cases high : y.level = infinityPosition
  · rw [level_eq_highest.mp high, infinity_div finite sign, level_infinity false]
    exact bounds.2
  have above : -(infinityPosition : Int) < x.level := lt_of_le_of_ne (level_bounds x).1 (Ne.symm low)
  have below : y.level < infinityPosition := lt_of_le_of_ne (level_bounds y).2 high
  have lower := finite_of_level above (Int.lt_of_le_of_lt order below)
  have upper := finite_of_level (Int.lt_of_lt_of_le above order) below
  rw [level_div_finite finite positive sign lower, level_div_finite finite positive sign upper]
  apply roundedPlace_mono divisor
  exact Int.mul_le_mul_of_nonneg_right (signedUnits_le lower upper order) (Int.natCast_nonneg one)

end Quotient

end Telemetry.Binary64
