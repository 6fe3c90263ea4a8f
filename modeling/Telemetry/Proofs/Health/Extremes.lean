import Telemetry.Proofs.Health.Monotone

/-!
# Reports on any numbers

What is expected of a channel may be negative, infinite or no number, a quotient may
overflow, and the mean of opposite infinities is no number.  Completeness is a number all
the same, and a loss is one from zero to one, which is all of it where nothing arrived or
what arrived makes no sense.
-/
set_option autoImplicit false
namespace Telemetry.Completeness
open Binary64
variable {x expected : Binary64} {n : Int}

/-! ## Losses -/

/-- A loss fits a state: it is a number from zero to one, and one where nothing arrived or what
arrived makes no sense. -/
structure LossFits (state : HealthState) (loss : Binary64) : Prop where
  number : loss.isNaN = false
  nonneg : zero false ≤ loss
  le_one : loss ≤ Binary64.ofNat 1
  total : state = .unknown ∨ state = .disconnected → loss = Binary64.ofNat 1

theorem classify_eq_unknown : HealthState.classify x = .unknown ↔ x.level < 0 := by
  have worst : (HealthState.classify x).grade ≤ HealthState.unknown.grade ↔ x.level ≤ -1 :=
    HealthState.grade_classify_le
  constructor
  · intro unknown
    rw [unknown] at worst
    exact Int.lt_of_le_sub_one (worst.mp (Nat.le_refl _))
  · intro negative
    apply HealthState.grade_injective
    exact Nat.le_zero.mp (worst.mpr (Int.le_sub_one_of_lt negative))

theorem level_of_classify
    (bad : HealthState.classify x = .unknown ∨ HealthState.classify x = .disconnected) :
    x.level ≤ 0 := by
  have low : (HealthState.classify x).grade ≤ HealthState.disconnected.grade := by
    rcases bad with unknown | disconnected
    · rw [unknown]
      decide
    · rw [disconnected]
  rw [← level_zero false]
  exact HealthState.grade_classify_le.mp low

theorem lossFits_classify (x : Binary64) : LossFits (HealthState.classify x) (lossOf x) where
  number := isNaN_lossOf x
  nonneg := by
    rw [le_iff_level rfl (isNaN_lossOf x), level_zero]
    exact level_lossOf_nonneg x
  le_one := by
    rw [le_iff_level (isNaN_lossOf x) isNaN_one]
    exact level_lossOf_le x
  total := fun bad => lossOf_eq_one (level_of_classify bad)

/-! ## Parts of what was expected -/

theorem ratio_of_usable (usable : Usable expected) : ratio n expected = ofInt n / expected :=
  if_pos usable

theorem ratio_of_unusable (unusable : ¬ Usable expected) : ratio n expected = zero false :=
  if_neg unusable

theorem isNaN_ratio (n : Int) (expected : Binary64) : (ratio n expected).isNaN = false := by
  by_cases usable : Usable expected
  · obtain ⟨finite, positive, sign⟩ := usable.divisor
    rw [ratio_of_usable usable]
    exact isNaN_div finite positive sign isNaN_round
  · rw [ratio_of_unusable usable]
    rfl

theorem level_ratio_zero (expected : Binary64) : (ratio 0 expected).level = 0 := by
  have none : ofInt 0 = zero false := by decide +kernel
  by_cases usable : Usable expected
  · obtain ⟨finite, positive, sign⟩ := usable.divisor
    rw [ratio_of_usable usable, none, level_div_finite finite positive sign (by decide),
      signedUnits_zero, Int.zero_mul, roundedPlace_zero (units_strictMono positive)]
  · rw [ratio_of_unusable usable, level_zero]

/-- The least negative count is not so small a part of any usable number that it is rounded to zero. -/
theorem level_ratio_neg_one (usable : Usable expected) : (ratio (-1) expected).level < 0 := by
  obtain ⟨finite, positive, sign⟩ := usable.divisor
  have small : (ofInt (-1)).position < infinityPosition := by decide +kernel
  have value : (ofInt (-1)).signedUnits = -(one : Int) := by decide +kernel
  have num : -(one : Int) * one = -((one * one : Nat) : Int) := by
    rw [Int.neg_mul, Int.natCast_mul]
  have below : units expected.position < units infinityPosition := units_strictMono finite
  have large : units infinityPosition ≤ one * one := by decide +kernel
  rw [ratio_of_usable usable, level_div_finite finite positive sign small, value, num]
  exact roundedPlace_neg (units_strictMono positive) (Nat.le_of_lt (Nat.lt_of_lt_of_le below large))

theorem level_ratio_neg_iff : (ratio n expected).level < 0 ↔ n < 0 ∧ Usable expected := by
  constructor
  · intro negative
    constructor
    · by_contra none
      have order := level_ratio_mono (Int.not_lt.mp none) expected
      rw [level_ratio_zero] at order
      omega
    · by_contra unusable
      rw [ratio_of_unusable unusable, level_zero] at negative
      exact Int.lt_irrefl _ negative
  · rintro ⟨less, usable⟩
    have order := level_ratio_mono (Int.le_sub_one_of_lt less) expected
    exact Int.lt_of_le_of_lt order (level_ratio_neg_one usable)

/-- A report from any frequencies, window and counts. -/
theorem report_on_any_numbers (sourceId : String) (spec : SourceSpec) (window : Span)
    (counts : Counts) :
    let report := evaluate sourceId spec window counts
    LossFits report.state report.averageLoss ∧
      List.Forall₂ (fun c part =>
        part.completeness.isNaN = false ∧
        (¬ Usable (c.expected window) → part.completeness = zero false) ∧
        (part.state = .unknown ↔ counts.get c.id < 0 ∧ Usable (c.expected window)) ∧
        LossFits part.state part.loss) spec.channels report.channels := by
  intro report
  refine ⟨lossFits_classify _, ?_⟩
  simp only [report, evaluate, List.forall₂_map_right_iff, List.forall₂_same]
  intro c member
  exact ⟨isNaN_ratio _ _, ratio_of_unusable, classify_eq_unknown.trans level_ratio_neg_iff,
    lossFits_classify _⟩

/-- The window runs backwards and so do two frequencies.  Each channel has a number for its
completeness, their mean has none, and all counts as lost. -/
theorem opposite_infinities_lose_all :
    let rare := ofPosition true 1
    let spec : SourceSpec :=
      ⟨"gauge", [⟨"a", rare, "m"⟩, ⟨"b", rare, "m"⟩, ⟨"c", Binary64.nan, "V"⟩]⟩
    let window : Span :=
      ⟨Instant.latest, (Span.endingAt Instant.latest (Elapsed.ofSeconds 10)).start⟩
    let report := evaluate "g-1" spec window ⟨[("a", -1048576), ("b", 1048576), ("c", 9)]⟩
    report.channels.map ChannelReport.state = [.unknown, .fine, .disconnected] ∧
      (mean (report.channels.map ChannelReport.completeness)).isNaN = true ∧
      report.averageLoss = Binary64.ofNat 1 := by
  intro rare spec window report
  obtain ⟨fits, -⟩ := report_on_any_numbers "g-1" spec window
    ⟨[("a", -1048576), ("b", 1048576), ("c", 9)]⟩
  have state : report.state = .unknown := by decide +kernel
  exact ⟨by decide +kernel, by decide +kernel, fits.total (.inl state)⟩

end Telemetry.Completeness
