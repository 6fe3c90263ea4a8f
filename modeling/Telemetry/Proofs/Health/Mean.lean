import Mathlib.Algebra.Order.BigOperators.Group.List
import Mathlib.Algebra.Order.Group.Int
import Telemetry.Health.Report
import Telemetry.Proofs.Binary64.Order

/-!
# The mean completeness

Completeness is summed in the order of the channels and then divided, each step
rounded.  A state rises with its completeness, and a mean with its terms; and the
mean of numbers with few digits is not rounded at all.  So the state of a mean
strays from the states of its terms by one step at most, never where nothing
arrived, and not at all where no addition is rounded.
-/
set_option autoImplicit false
namespace Telemetry
open Binary64

namespace HealthState
variable {x y : Binary64}

theorem grade_injective {s t : HealthState} (same : s.grade = t.grade) : s = t := by
  cases s <;> cases t <;> first | rfl | exact absurd same (by decide)

theorem okAbove_eq : okAbove = ofPosition false 4605380978949069210 := by decide +kernel

theorem fineAbove_eq : fineAbove = ofPosition false 4606732058837280358 := by decide +kernel

theorem grade_classify (x : Binary64) : (classify x).grade =
    if x.level < 0 then 0
    else if fineAbove.level < x.level then 4
    else if okAbove.level < x.level then 3
    else if 0 < x.level then 2
    else 1 := by
  have zero : disconnectedAt.level = 0 := level_zero false
  have fine := lt_iff_level (x := fineAbove) (y := x) (by rw [fineAbove_eq]; rfl)
  have ok := lt_iff_level (x := okAbove) (y := x) (by rw [okAbove_eq]; rfl)
  have some := lt_iff_level (x := disconnectedAt) (y := x) rfl
  have unknown : (x.isNaN || x.lt disconnectedAt) = true ↔ x.level < 0 := by
    cases undefined : x.isNaN with
    | true =>
        have positive : 0 < infinityPosition := by decide
        simp [level_nan undefined, positive]
    | false =>
        rw [Bool.false_or, ← zero]
        exact lt_iff_level undefined
  rw [classify]
  simp only [unknown, fine, ok, some, zero]
  split_ifs <;> rfl

/-- A state rises with its completeness. -/
theorem grade_classify_mono (order : x.level ≤ y.level) :
    (classify x).grade ≤ (classify y).grade := by
  rw [grade_classify, grade_classify]
  split_ifs <;> omega

theorem classify_congr (same : x.level = y.level) : classify x = classify y :=
  grade_injective (Nat.le_antisymm (grade_classify_mono (Int.le_of_eq same))
    (grade_classify_mono (Int.le_of_eq same.symm)))

/-- The largest completeness of the state or a worse one. -/
def most : HealthState → Binary64
  | unknown => ofPosition true 1
  | disconnected => disconnectedAt
  | warning => okAbove
  | ok => fineAbove
  | fine => infinity false

/-- The smallest completeness of the state or a better one. -/
def least : HealthState → Binary64
  | unknown => infinity true
  | disconnected => disconnectedAt
  | warning => ofPosition false 1
  | ok => ofPosition false (okAbove.position + 1)
  | fine => ofPosition false (fineAbove.position + 1)

theorem level_most (s : HealthState) : s.most.level = match s with
    | unknown => -1
    | disconnected => 0
    | warning => okAbove.level
    | ok => fineAbove.level
    | fine => infinityPosition := by
  cases s <;> rfl

theorem level_least (s : HealthState) : s.least.level = match s with
    | unknown => -infinityPosition
    | disconnected => 0
    | warning => 1
    | ok => okAbove.level + 1
    | fine => fineAbove.level + 1 := by
  cases s <;> simp only [least, okAbove_eq, fineAbove_eq] <;> rfl

theorem level_thresholds : 0 < okAbove.level ∧ okAbove.level < fineAbove.level := by
  rw [okAbove_eq, fineAbove_eq]
  decide

theorem grade_classify_le {s : HealthState} :
    (classify x).grade ≤ s.grade ↔ x.level ≤ s.most.level := by
  have thresholds := level_thresholds
  have bounds := level_bounds x
  rw [grade_classify, level_most]
  cases s <;> dsimp only [grade] <;> split_ifs <;> omega

theorem le_grade_classify {s : HealthState} :
    s.grade ≤ (classify x).grade ↔ s.least.level ≤ x.level := by
  have thresholds := level_thresholds
  have bounds := level_bounds x
  rw [grade_classify, level_least]
  cases s <;> dsimp only [grade] <;> split_ifs <;> omega

/-- A state and, at the thresholds that are not exact, the next better one. -/
def raised : HealthState → HealthState
  | warning => ok
  | ok => fine
  | s => s

/-- A state and, at the thresholds that are not exact, the next worse one. -/
def lowered : HealthState → HealthState
  | fine => ok
  | ok => warning
  | s => s

end HealthState

namespace Completeness
variable {x y : Binary64} {xs ys : List Binary64} {grain n : Nat}

/-! ## Means and order -/

theorem level_foldl_mono (order : List.Forall₂ (fun x y => x.level ≤ y.level) xs ys) :
    ∀ {a b : Binary64}, a.level ≤ b.level → (xs.foldl (· + ·) a).level ≤ (ys.foldl (· + ·) b).level := by
  induction order with
  | nil => exact id
  | cons head _ ih => exact fun first => ih (level_add_mono first head)

/-- A mean rises with its terms. -/
theorem level_mean_mono (order : List.Forall₂ (fun x y => x.level ≤ y.level) xs ys)
    (few : ys.length ≤ 2 ^ 64) : (mean xs).level ≤ (mean ys).level := by
  have length := order.length_eq
  rw [mean, mean]
  cases order with
  | nil => rfl
  | cons head tail =>
      rw [length, if_neg (by simp), if_neg (by simp)]
      apply level_div_mono (finite_ofNat few) (position_ofNat_pos (Nat.succ_pos _)) rfl
      exact level_foldl_mono (.cons head tail) (Int.le_refl _)

/-! ## Sums without rounding -/

theorem finite_of_sum (few : n ≤ 2 ^ 64) (bound : (xs.map fun x => units x.position).sum ≤ n * one) :
    ∀ x ∈ xs, x.position < infinityPosition := by
  intro x member
  apply lt_infinityPosition few
  calc units x.position ≤ (xs.map fun x => units x.position).sum :=
        List.le_sum_of_mem (List.mem_map_of_mem member)
    _ ≤ n * one := bound

/-- Terms whose sum is exact in any order: multiples of a power of two, with a total of at most 53
binary digits above it. -/
structure Unrounded (grain : Nat) (xs : List Binary64) : Prop where
  grain_le : 2 ^ grain ≤ one
  multiple : ∀ x ∈ xs, 2 ^ grain ∣ units x.position
  total : (xs.map fun x => units x.position).sum ≤ 2 ^ 53 * 2 ^ grain

namespace Unrounded

theorem perm (unrounded : Unrounded grain xs) (order : xs.Perm ys) : Unrounded grain ys where
  grain_le := unrounded.grain_le
  multiple x member := unrounded.multiple x (order.mem_iff.mpr member)
  total := by
    rw [← (order.map fun x => units x.position).sum_eq]
    exact unrounded.total

theorem finite (unrounded : Unrounded grain xs) (member : x ∈ xs) : x.position < infinityPosition := by
  apply finite_of_sum (n := 2 ^ 53) (by decide) _ x member
  exact Nat.le_trans unrounded.total (Nat.mul_le_mul_left _ unrounded.grain_le)

/-- The first addition of the sum is exact, and what is left to add is no harder. -/
theorem step (unrounded : Unrounded grain (x :: y :: xs)) :
    Unrounded grain ((x + y) :: xs) ∧ (x + y).signedUnits = x.signedUnits + y.signedUnits := by
  have total := unrounded.total
  simp only [List.map_cons, List.sum_cons, ← natAbs_signedUnits x, ← natAbs_signedUnits y] at total
  have multiple : 2 ^ grain ∣ (x.signedUnits + y.signedUnits).natAbs := by
    have left := unrounded.multiple x (by simp)
    have right := unrounded.multiple y (by simp)
    rw [← natAbs_signedUnits, ← Int.natCast_dvd] at left right
    rw [← Int.natCast_dvd]
    exact Int.dvd_add left right
  have exact : (x + y).signedUnits = x.signedUnits + y.signedUnits := by
    apply signedUnits_add (unrounded.finite (by simp)) (unrounded.finite (by simp))
      unrounded.grain_le multiple
    omega
  refine ⟨⟨unrounded.grain_le, ?_, ?_⟩, exact⟩
  · intro z member
    rcases List.mem_cons.mp member with rfl | member
    · rwa [← natAbs_signedUnits, exact]
    · exact unrounded.multiple z (by simp [member])
  · rw [List.map_cons, List.sum_cons, ← natAbs_signedUnits, exact]
    omega

theorem foldl (unrounded : Unrounded grain (x :: xs)) :
    Unrounded grain [xs.foldl (· + ·) x] ∧
      (xs.foldl (· + ·) x).signedUnits = x.signedUnits + (xs.map signedUnits).sum := by
  induction xs generalizing x with
  | nil => exact ⟨unrounded, by simp⟩
  | cons y xs ih =>
      obtain ⟨rest, exact⟩ := unrounded.step
      obtain ⟨result, value⟩ := ih rest
      refine ⟨result, ?_⟩
      rw [List.foldl_cons, value, exact, List.map_cons, List.sum_cons, Int.add_assoc]

theorem sum (unrounded : Unrounded grain xs) : Unrounded grain [sum xs] ∧
    (Completeness.sum xs).signedUnits = (xs.map signedUnits).sum := by
  have nothing : units (zero true).position = 0 := rfl
  have start : Unrounded grain (zero true :: xs) := by
    refine ⟨unrounded.grain_le, ?_, ?_⟩
    · intro z member
      rcases List.mem_cons.mp member with rfl | member
      · exact Nat.dvd_zero _
      · exact unrounded.multiple z member
    · rw [List.map_cons, List.sum_cons, nothing, Nat.zero_add]
      exact unrounded.total
  obtain ⟨result, value⟩ := start.foldl
  rw [signedUnits_zero, Int.zero_add] at value
  exact ⟨result, value⟩

end Unrounded

section Exact
variable (unrounded : Unrounded grain xs) (some : xs ≠ []) (few : xs.length ≤ 2 ^ 53)
include unrounded some few

theorem level_mean_of_unrounded :
    (mean xs).level = roundedPlace ((xs.map signedUnits).sum * one) (xs.length * one) := by
  obtain ⟨result, value⟩ := unrounded.sum
  have length := exact_of_le few
  have positive := position_ofNat_pos (List.length_pos_iff.mpr some)
  rw [mean, if_neg (by simpa using some), level_div_finite length.finite positive rfl
    (result.finite (by simp)), value, length.units_ofNat]

theorem level_mean_le (finite : y.position < infinityPosition)
    (bound : ∀ x ∈ xs, x.level ≤ y.level) : (mean xs).level ≤ y.level := by
  have positive := List.length_pos_iff.mpr some
  have least : (xs.map signedUnits).sum ≤ xs.length * y.signedUnits := by
    have terms := List.sum_le_card_nsmul (xs.map signedUnits) y.signedUnits
    rw [List.length_map, nsmul_eq_mul] at terms
    apply terms
    intro u member
    obtain ⟨x, listed, rfl⟩ := List.mem_map.mp member
    exact signedUnits_le (unrounded.finite listed) finite (bound x listed)
  have divisor := Nat.mul_pos positive Binary64.one_pos
  rw [level_mean_of_unrounded unrounded some few, ← roundedPlace_mul divisor finite]
  apply roundedPlace_mono divisor
  calc (xs.map signedUnits).sum * one ≤ xs.length * y.signedUnits * one :=
        Int.mul_le_mul_of_nonneg_right least (Int.natCast_nonneg one)
    _ = y.signedUnits * (xs.length * one : Nat) := by push_cast; ring

theorem le_level_mean (finite : y.position < infinityPosition)
    (bound : ∀ x ∈ xs, y.level ≤ x.level) : y.level ≤ (mean xs).level := by
  have positive := List.length_pos_iff.mpr some
  have most : xs.length * y.signedUnits ≤ (xs.map signedUnits).sum := by
    have terms := List.card_nsmul_le_sum (xs.map signedUnits) y.signedUnits
    rw [List.length_map, nsmul_eq_mul] at terms
    apply terms
    intro u member
    obtain ⟨x, listed, rfl⟩ := List.mem_map.mp member
    exact signedUnits_le finite (unrounded.finite listed) (bound x listed)
  have divisor := Nat.mul_pos positive Binary64.one_pos
  rw [level_mean_of_unrounded unrounded some few, ← roundedPlace_mul divisor finite]
  apply roundedPlace_mono divisor
  calc y.signedUnits * (xs.length * one : Nat) = xs.length * y.signedUnits * one := by
        push_cast; ring
    _ ≤ (xs.map signedUnits).sum * one :=
        Int.mul_le_mul_of_nonneg_right most (Int.natCast_nonneg one)

end Exact

/-! ## Means of numbers with few digits -/

/-- A number of at most three binary digits: its multiples are exact for many channels. -/
def Short (x : Binary64) : Prop :=
  ∃ grain digits, 2 ^ grain ≤ one ∧ digits ≤ 7 ∧ units x.position = digits * 2 ^ grain

theorem Short.unrounded (short : Short x) (few : n ≤ 2 ^ 50) :
    ∃ grain, Unrounded grain (List.replicate n x) := by
  obtain ⟨grain, digits, unit, small, value⟩ := short
  refine ⟨grain, unit, ?_, ?_⟩
  · intro y member
    rw [List.eq_of_mem_replicate member, value]
    exact Nat.dvd_mul_left _ _
  · rw [List.map_replicate, List.sum_replicate, Nat.nsmul_eq_mul, value, ← Nat.mul_assoc]
    apply Nat.mul_le_mul_right
    calc n * digits ≤ 2 ^ 50 * 7 := Nat.mul_le_mul few small
      _ ≤ 2 ^ 53 := by decide

section Landmark
variable (short : Short y) (finite : y.position < infinityPosition) (some : xs ≠ [])
  (few : xs.length ≤ 2 ^ 50)
include short finite some few

theorem level_mean_replicate : (mean (List.replicate xs.length y)).level = y.level := by
  obtain ⟨grain, unrounded⟩ := short.unrounded few
  have same : ∀ x ∈ List.replicate xs.length y, x.level = y.level :=
    fun x member => congrArg level (List.eq_of_mem_replicate member)
  have nonempty : List.replicate xs.length y ≠ [] := by simpa using some
  have length : (List.replicate xs.length y).length ≤ 2 ^ 53 := by
    rw [List.length_replicate]
    omega
  apply Int.le_antisymm
  · exact level_mean_le unrounded nonempty length finite fun x member => Int.le_of_eq (same x member)
  · exact le_level_mean unrounded nonempty length finite
      fun x member => Int.le_of_eq (same x member).symm

theorem level_mean_le_short (bound : ∀ x ∈ xs, x.level ≤ y.level) : (mean xs).level ≤ y.level := by
  rw [← level_mean_replicate short finite some few, ← List.map_const']
  apply level_mean_mono
  · rw [List.forall₂_map_right_iff, List.forall₂_same]
    exact bound
  · rw [List.length_map]
    omega

theorem short_le_level_mean (bound : ∀ x ∈ xs, y.level ≤ x.level) : y.level ≤ (mean xs).level := by
  rw [← level_mean_replicate short finite some few, ← List.map_const']
  apply level_mean_mono
  · rw [List.forall₂_map_left_iff, List.forall₂_same]
    exact bound
  · omega

end Landmark

/-! ## The state of the mean -/

theorem short_one_unit (negative : Bool) : Short (ofPosition negative 1) :=
  ⟨0, 1, Binary64.one_pos, by decide, by cases negative <;> rfl⟩

theorem short_zero : Short (zero false) := ⟨0, 0, Binary64.one_pos, by decide, rfl⟩

/-- The number `k / 8`, for `k` from four to eight. -/
def eighths (k : Nat) : Binary64 := ofPosition false (1021 * 2 ^ 52 + k * 2 ^ 50)

theorem units_eighths {k : Nat} (half : 4 ≤ k) (few : k ≤ 8) (shift : Nat) :
    units (shift * 2 ^ 52 + k * 2 ^ 50) = k * 2 ^ (50 + shift) := by
  have scaled : units (shift * 2 ^ 52 + k * 2 ^ 50) = k * 2 ^ 50 * 2 ^ shift :=
    units_scaled (.inr (by omega)) (by omega)
  rw [scaled, Nat.mul_assoc, ← Nat.pow_add]

theorem short_eighths {k : Nat} (half : 4 ≤ k) (few : k ≤ 7) : Short (eighths k) := by
  have finite : 1021 * 2 ^ 52 + k * 2 ^ 50 ≤ infinityPosition := by
    have top : infinityPosition = 2047 * 2 ^ 52 := rfl
    omega
  have position : (eighths k).position = 1021 * 2 ^ 52 + k * 2 ^ 50 := Nat.min_eq_left finite
  refine ⟨50 + 1021, k, two_pow_le_one (by decide), few, ?_⟩
  rw [position]
  exact units_eighths half (by omega) 1021

/-- Six eighths lie below the threshold of one state, seven above it and below the next. -/
theorem level_eighths : (eighths 6).level ≤ HealthState.okAbove.level ∧
    HealthState.okAbove.level < (eighths 7).level ∧
    (eighths 7).level ≤ HealthState.fineAbove.level := by
  rw [HealthState.okAbove_eq, HealthState.fineAbove_eq]
  decide

section State
variable {s t : HealthState} (some : xs ≠ []) (few : xs.length ≤ 2 ^ 50)
include some few

theorem grade_mean_le_landmark (short : Short y) (finite : y.position < infinityPosition)
    (low : s.most.level ≤ y.level) (high : y.level ≤ t.most.level)
    (bound : ∀ x ∈ xs, (HealthState.classify x).grade ≤ s.grade) :
    (HealthState.classify (mean xs)).grade ≤ t.grade := by
  rw [HealthState.grade_classify_le]
  refine Int.le_trans (level_mean_le_short short finite some few ?_) high
  intro x member
  exact Int.le_trans (HealthState.grade_classify_le.mp (bound x member)) low

theorem landmark_le_grade_mean (short : Short y) (finite : y.position < infinityPosition)
    (low : t.least.level ≤ y.level) (high : y.level ≤ s.least.level)
    (bound : ∀ x ∈ xs, s.grade ≤ (HealthState.classify x).grade) :
    t.grade ≤ (HealthState.classify (mean xs)).grade := by
  rw [HealthState.le_grade_classify]
  refine Int.le_trans low (short_le_level_mean short finite some few ?_)
  intro x member
  exact Int.le_trans high (HealthState.le_grade_classify.mp (bound x member))

/-- Rounding carries a mean past no number with few digits, so not past a whole state. -/
theorem grade_mean_le_raised (bound : ∀ x ∈ xs, (HealthState.classify x).grade ≤ s.grade) :
    (HealthState.classify (mean xs)).grade ≤ s.raised.grade := by
  obtain ⟨-, above, below⟩ := level_eighths
  cases s with
  | unknown =>
      exact grade_mean_le_landmark some few (short_one_unit true) (by decide) (by decide) (by decide)
        bound
  | disconnected =>
      exact grade_mean_le_landmark some few short_zero (by decide) (by decide) (by decide) bound
  | warning =>
      have short : Short (eighths 7) := short_eighths (by decide) (by decide)
      have most : HealthState.warning.most.level = HealthState.okAbove.level :=
        HealthState.level_most .warning
      have most' : HealthState.ok.most.level = HealthState.fineAbove.level :=
        HealthState.level_most .ok
      have target : HealthState.warning.raised = .ok := rfl
      rw [target]
      exact grade_mean_le_landmark some few short (by decide) (by omega) (by omega) bound
  | ok | fine =>
      cases HealthState.classify (mean xs) <;> decide

theorem lowered_le_grade_mean (bound : ∀ x ∈ xs, s.grade ≤ (HealthState.classify x).grade) :
    s.lowered.grade ≤ (HealthState.classify (mean xs)).grade := by
  obtain ⟨below, above, above'⟩ := level_eighths
  cases s with
  | unknown => exact Nat.zero_le _
  | disconnected =>
      exact landmark_le_grade_mean some few short_zero (by decide) (by decide) (by decide) bound
  | warning =>
      exact landmark_le_grade_mean some few (short_one_unit false) (by decide) (by decide) (by decide)
        bound
  | ok =>
      have short : Short (eighths 6) := short_eighths (by decide) (by decide)
      have least : HealthState.ok.least.level = HealthState.okAbove.level + 1 :=
        HealthState.level_least .ok
      exact landmark_le_grade_mean some few short (by decide) (by decide) (by omega) bound
  | fine =>
      have short : Short (eighths 7) := short_eighths (by decide) (by decide)
      have least : HealthState.ok.least.level = HealthState.okAbove.level + 1 :=
        HealthState.level_least .ok
      have least' : HealthState.fine.least.level = HealthState.fineAbove.level + 1 :=
        HealthState.level_least .fine
      have target : HealthState.fine.lowered = .ok := rfl
      rw [target]
      exact landmark_le_grade_mean some few short (by decide) (by omega) (by omega) bound

omit few in
theorem grade_mean_le_of_unrounded (unrounded : Unrounded grain xs) (few : xs.length ≤ 2 ^ 53)
    (bound : ∀ x ∈ xs, (HealthState.classify x).grade ≤ s.grade) :
    (HealthState.classify (mean xs)).grade ≤ s.grade := by
  by_cases best : s = .fine
  · subst best
    cases HealthState.classify (mean xs) <;> decide
  · have finite : s.most.position < infinityPosition := by
      cases s with
      | fine => exact absurd rfl best
      | unknown | disconnected => decide
      | warning => rw [HealthState.most, HealthState.okAbove_eq]; decide
      | ok => rw [HealthState.most, HealthState.fineAbove_eq]; decide
    rw [HealthState.grade_classify_le]
    exact level_mean_le unrounded some few finite
      fun x member => HealthState.grade_classify_le.mp (bound x member)

omit few in
theorem le_grade_mean_of_unrounded (unrounded : Unrounded grain xs) (few : xs.length ≤ 2 ^ 53)
    (bound : ∀ x ∈ xs, s.grade ≤ (HealthState.classify x).grade) :
    s.grade ≤ (HealthState.classify (mean xs)).grade := by
  by_cases worst : s = .unknown
  · subst worst
    exact Nat.zero_le _
  · have finite : s.least.position < infinityPosition := by
      cases s with
      | unknown => exact absurd rfl worst
      | disconnected | warning => decide
      | ok => rw [HealthState.least, HealthState.okAbove_eq]; decide
      | fine => rw [HealthState.least, HealthState.fineAbove_eq]; decide
    rw [HealthState.le_grade_classify]
    exact le_level_mean unrounded some few finite
      fun x member => HealthState.le_grade_classify.mp (bound x member)

end State

end Completeness
end Telemetry
