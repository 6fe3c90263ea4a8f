import Mathlib.Algebra.BigOperators.Group.List.Basic
import Mathlib.Tactic.Positivity
import Telemetry.Proofs.Binary64.Value
import Telemetry.Proofs.Health.Mean

/-!
# The error of a mean

A sum of completeness is off by at most as many errors as it has terms, each a part
of `2 ^ 51` of the magnitudes, and its mean by a part of `2 ^ 50` (`mean_near`).  So
the state of a mean lies outside the states of its terms only if the exact mean is
that close to a threshold.
-/
set_option autoImplicit false
namespace Telemetry
open Binary64

namespace HealthState
variable {x y : Binary64}

/-- Completeness at which the state changes. -/
def thresholds : List Binary64 := [disconnectedAt, okAbove, fineAbove]

theorem finite_of_mem_thresholds : ∀ t ∈ thresholds, t.position < infinityPosition := by
  rw [thresholds, okAbove_eq, fineAbove_eq]
  decide

/-- Between the numbers of at most a grade and those of a greater one there is a threshold. -/
theorem exists_threshold {grade : Nat} (proper : grade < 4) : ∃ t ∈ thresholds, ∀ x,
    ((classify x).grade ≤ grade → x.level ≤ t.level) ∧
      (grade < (classify x).grade → t.level ≤ x.level) := by
  have zero : disconnectedAt.level = 0 := level_zero false
  obtain ⟨t, member, value⟩ : ∃ t ∈ thresholds, t.level =
      if grade ≤ 1 then 0 else if grade = 2 then okAbove.level else fineAbove.level := by
    split_ifs
    · exact ⟨disconnectedAt, by simp [thresholds], zero⟩
    · exact ⟨okAbove, by simp [thresholds], rfl⟩
    · exact ⟨fineAbove, by simp [thresholds], rfl⟩
  have thresholds := level_thresholds
  refine ⟨t, member, fun x => ?_⟩
  rw [grade_classify, value]
  constructor <;> split_ifs <;> omega

theorem grade_le (s : HealthState) : s.grade ≤ 4 := by
  cases s <;> decide

/-- Between numbers of different states there is a threshold. -/
theorem threshold_between (finite : x.position < infinityPosition)
    (finite' : y.position < infinityPosition) (differ : classify x ≠ classify y) :
    ∃ t ∈ thresholds, value x ≤ value t ∧ value t ≤ value y ∨
      value y ≤ value t ∧ value t ≤ value x := by
  have order {a b : Binary64} (finite : a.position < infinityPosition)
      (finite' : b.position < infinityPosition) (better : (classify a).grade < (classify b).grade) :
      ∃ t ∈ thresholds, value a ≤ value t ∧ value t ≤ value b := by
    obtain ⟨t, member, apart⟩ := exists_threshold (Nat.lt_of_lt_of_le better (grade_le _))
    have within := finite_of_mem_thresholds t member
    exact ⟨t, member, (value_le_iff_level finite within).mpr ((apart a).1 (Nat.le_refl _)),
      (value_le_iff_level within finite').mpr ((apart b).2 better)⟩
  rcases Nat.lt_trichotomy (classify x).grade (classify y).grade with better | same | worse
  · obtain ⟨t, member, between⟩ := order finite finite' better
    exact ⟨t, member, .inl between⟩
  · exact absurd (grade_injective same) differ
  · obtain ⟨t, member, between⟩ := order finite' finite worse
    exact ⟨t, member, .inr between⟩

end HealthState

namespace Completeness
variable {a x y : Binary64} {xs ys : List Binary64} {exact most : ℝ} {grain n : Nat}

/-- The sum of the values, not rounded. -/
noncomputable def total (xs : List Binary64) : ℝ := (xs.map value).sum

/-- The sum of the magnitudes. -/
noncomputable def magnitude (xs : List Binary64) : ℝ := (xs.map fun x => |value x|).sum

/-- A sum after some additions, off by the error of each, where the magnitudes come to at most the
first number. -/
structure Near (most : ℝ) (n : Nat) (a : Binary64) (exact : ℝ) : Prop where
  finite : a.position < infinityPosition
  off : |value a - exact| ≤ n * (most / 2 ^ 51 + 2 * unit)

section Sum
variable (large : most ≤ 2 ^ 63)
include large

theorem Near.add (near : Near most n a exact) (finite : x.position < infinityPosition)
    (few : n ≤ 2 ^ 50) (bound : |exact + value x| ≤ most) :
    Near most (n + 1) (a + x) (exact + value x) := by
  have tiny := unit_le
  have positive := unit_pos
  have nonneg : 0 ≤ most := le_trans (abs_nonneg _) bound
  have few' : (n : ℝ) ≤ 2 ^ 50 := by exact_mod_cast few
  have off := near.off
  obtain ⟨error, small⟩ : ∃ error, error = most / 2 ^ 51 + 2 * unit := ⟨_, rfl⟩
  rw [← small] at off
  -- the errors so far add little to what is rounded next: less than a quarter of one error
  have errors : n * error ≤ 2 ^ 50 * error :=
    mul_le_mul_of_nonneg_right few' (by rw [small]; positivity)
  have sum : |value a + value x| ≤ most + n * error := by
    calc |value a + value x| = |(exact + value x) + (value a - exact)| := by ring_nf
      _ ≤ |exact + value x| + |value a - exact| := abs_add_le _ _
      _ ≤ most + n * error := add_le_add bound off
  have within : |value a + value x| ≤ 2 ^ 64 := by linarith
  have close := close_add near.finite finite within
  rw [Close] at close
  refine ⟨finite_add near.finite finite within, ?_⟩
  rw [← small]
  calc |value (a + x) - (exact + value x)|
      = |(value (a + x) - (value a + value x)) + (value a - exact)| := by ring_nf
    _ ≤ |value (a + x) - (value a + value x)| + |value a - exact| := abs_add_le _ _
    _ ≤ ((most + n * error) / 2 ^ 52 + unit) + n * error := by
        gcongr
        exact le_trans close (by gcongr)
    _ ≤ error + n * error := by
        gcongr
        linarith
    _ = (n + 1 : Nat) * error := by push_cast; ring

theorem Near.foldl (finite : ∀ x ∈ xs, x.position < infinityPosition) :
    ∀ {a : Binary64} {exact : ℝ} {n : Nat}, Near most n a exact → n + xs.length ≤ 2 ^ 50 →
      |exact| + magnitude xs ≤ most →
      Near most (n + xs.length) (xs.foldl (· + ·) a) (exact + total xs) := by
  induction xs with
  | nil =>
      intro a exact n near _ _
      simpa [total] using near
  | cons x xs ih =>
      intro a exact n near few bound
      rw [List.length_cons] at few ⊢
      simp only [magnitude, List.map_cons, List.sum_cons] at bound
      have rest : 0 ≤ magnitude xs := List.sum_nonneg (by simp)
      have triangle : |exact + value x| ≤ |exact| + |value x| := abs_add_le _ _
      rw [magnitude] at rest
      have next : Near most (n + 1) (a + x) (exact + value x) :=
        near.add large (finite x (by simp)) (by omega) (by linarith)
      have last := ih (fun y member => finite y (by simp [member])) next (by omega)
        (by rw [magnitude]; linarith)
      have totals : exact + total (x :: xs) = exact + value x + total xs := by
        rw [total, List.map_cons, List.sum_cons, add_assoc, total]
      rwa [List.foldl_cons, totals, ← Nat.add_assoc, Nat.add_right_comm]

end Sum

/-- What bounds the error of a mean: not too many terms, and not too large. -/
structure Moderate (xs : List Binary64) : Prop where
  few : xs.length ≤ 2 ^ 50
  bound : (xs.map fun x => units x.position).sum ≤ 2 ^ 63 * one

theorem abs_total_le (xs : List Binary64) : |total xs| ≤ magnitude xs := by
  have bound := List.le_sum_of_subadditive (fun r : ℝ => |r|) (le_of_eq abs_zero) abs_add_le
    (xs.map value)
  rwa [List.map_map] at bound

section Average
variable {r : ℝ} (some : xs ≠ [])
include some

theorem average_le (bound : ∀ x ∈ xs, value x ≤ r) : total xs / xs.length ≤ r := by
  have length : (0 : ℝ) < xs.length := by exact_mod_cast List.length_pos_iff.mpr some
  have terms := List.sum_le_card_nsmul (xs.map value) r (List.forall_mem_map.mpr bound)
  rw [List.length_map, nsmul_eq_mul] at terms
  rwa [div_le_iff₀' length]

theorem le_average (bound : ∀ x ∈ xs, r ≤ value x) : r ≤ total xs / xs.length := by
  have length : (0 : ℝ) < xs.length := by exact_mod_cast List.length_pos_iff.mpr some
  have terms := List.card_nsmul_le_sum (xs.map value) r (List.forall_mem_map.mpr bound)
  rw [List.length_map, nsmul_eq_mul] at terms
  rwa [le_div_iff₀' length]

theorem abs_average_le : |total xs / xs.length| ≤ magnitude xs := by
  have length : (1 : ℝ) ≤ xs.length := by exact_mod_cast List.length_pos_iff.mpr some
  rw [abs_div, Nat.abs_cast]
  exact le_trans (div_le_self (abs_nonneg _) length) (abs_total_le xs)

end Average

namespace Moderate
variable (moderate : Moderate xs)
include moderate

theorem perm (order : ys.Perm xs) : Moderate ys where
  few := by rw [order.length_eq]; exact moderate.few
  bound := by rw [(order.map fun x => units x.position).sum_eq]; exact moderate.bound

theorem finite : ∀ x ∈ xs, x.position < infinityPosition :=
  finite_of_sum (by decide) moderate.bound

theorem magnitude_le : magnitude xs ≤ 2 ^ 63 := by
  have scaled : magnitude xs = ((xs.map fun x => units x.position).sum : Nat) * unit := by
    clear moderate
    induction xs with
    | nil => simp [magnitude]
    | cons x xs ih =>
        have head : |value x| = units x.position * unit := by
          rw [value, abs_mul, abs_of_pos unit_pos, ← natAbs_signedUnits, Nat.cast_natAbs, Int.cast_abs]
        rw [magnitude, List.map_cons, List.sum_cons, ← magnitude, ih, head, List.map_cons,
          List.sum_cons]
        push_cast
        ring
  have real : (((xs.map fun x => units x.position).sum : Nat) : ℝ) ≤ (2 ^ 63 * one : Nat) :=
    Nat.cast_le.mpr moderate.bound
  rw [scaled]
  calc _ ≤ ((2 ^ 63 * one : Nat) : ℝ) * unit := mul_le_mul_of_nonneg_right real (le_of_lt unit_pos)
    _ = 2 ^ 63 := by rw [Nat.cast_mul, mul_assoc, one_mul_unit, mul_one, Nat.cast_pow, Nat.cast_ofNat]

theorem sum_near : Near (magnitude xs) xs.length (sum xs) (total xs) := by
  have start : Near (magnitude xs) 0 (zero true) 0 := by
    refine ⟨by decide, ?_⟩
    rw [value, signedUnits_zero]
    simp
  have last := start.foldl moderate.magnitude_le moderate.finite
    (by rw [Nat.zero_add]; exact moderate.few) (by rw [abs_zero, zero_add])
  rwa [Nat.zero_add, zero_add] at last

theorem mean_near (some : xs ≠ []) : (mean xs).position < infinityPosition ∧
    |value (mean xs) - total xs / xs.length| ≤ (magnitude xs + 1) / 2 ^ 50 := by
  have tiny := unit_le
  have near := moderate.sum_near
  have length := List.length_pos_iff.mpr some
  have exact : Exact xs.length := exact_of_le (Nat.le_trans moderate.few (by decide))
  have close := close_div_ofNat near.finite length exact
  have real : (1 : ℝ) ≤ xs.length := by exact_mod_cast length
  have nonneg : 0 ≤ magnitude xs := le_trans (abs_nonneg _) (abs_total_le xs)
  have average : |value (sum xs) / xs.length - total xs / xs.length| ≤
      magnitude xs / 2 ^ 51 + 2 * unit := by
    rw [← sub_div, abs_div, Nat.abs_cast, div_le_iff₀ (by linarith), mul_comm]
    exact near.off
  have size : |value (sum xs) / xs.length| ≤ 2 * (magnitude xs + unit) := by
    have whole := abs_average_le some
    rw [abs_le] at average whole ⊢
    constructor <;> linarith
  rw [mean, if_neg (by simpa using some)]
  refine ⟨Nat.lt_of_le_of_lt (position_div_le near.finite length exact) near.finite, ?_⟩
  rw [Close] at close
  rw [abs_le] at average ⊢
  have off := abs_le.mp (le_trans close (by gcongr : _ ≤ 2 * (magnitude xs + unit) / 2 ^ 52 + unit))
  constructor <;> linarith

section State
variable {grade : Nat} (some : xs ≠ [])
include some

/-- Where the mean has a better state than every term, its error carried it past a threshold. -/
theorem threshold_of_grade_mean_gt (bound : ∀ x ∈ xs, (HealthState.classify x).grade ≤ grade)
    (better : grade < (HealthState.classify (mean xs)).grade) : ∃ t ∈ HealthState.thresholds,
      |total xs / xs.length - value t| ≤ (magnitude xs + 1) / 2 ^ 50 := by
  obtain ⟨t, member, apart⟩ :=
    HealthState.exists_threshold (Nat.lt_of_lt_of_le better (HealthState.grade_le _))
  have within := HealthState.finite_of_mem_thresholds t member
  obtain ⟨finite, off⟩ := moderate.mean_near some
  have above := (value_le_iff_level within finite).mpr ((apart _).2 better)
  have below : total xs / xs.length ≤ value t := average_le some fun x listed =>
    (value_le_iff_level (moderate.finite x listed) within).mpr ((apart x).1 (bound x listed))
  rw [abs_le] at off
  exact ⟨t, member, abs_le.mpr ⟨by linarith, by linarith⟩⟩

theorem threshold_of_grade_mean_lt (bound : ∀ x ∈ xs, grade ≤ (HealthState.classify x).grade)
    (worse : (HealthState.classify (mean xs)).grade < grade) : ∃ t ∈ HealthState.thresholds,
      |total xs / xs.length - value t| ≤ (magnitude xs + 1) / 2 ^ 50 := by
  obtain ⟨y, first⟩ := List.exists_mem_of_ne_nil xs some
  have better {x : Binary64} (listed : x ∈ xs) :
      (HealthState.classify (mean xs)).grade < (HealthState.classify x).grade :=
    Nat.lt_of_lt_of_le worse (bound x listed)
  obtain ⟨t, member, apart⟩ :=
    HealthState.exists_threshold (Nat.lt_of_lt_of_le (better first) (HealthState.grade_le _))
  have within := HealthState.finite_of_mem_thresholds t member
  obtain ⟨finite, off⟩ := moderate.mean_near some
  have below := (value_le_iff_level finite within).mpr ((apart _).1 (Nat.le_refl _))
  have above : value t ≤ total xs / xs.length := le_average some fun x listed =>
    (value_le_iff_level within (moderate.finite x listed)).mpr ((apart x).2 (better listed))
  rw [abs_le] at off
  exact ⟨t, member, abs_le.mpr ⟨by linarith, by linarith⟩⟩

end State
end Moderate
end Completeness
end Telemetry
