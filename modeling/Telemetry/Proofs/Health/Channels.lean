import Mathlib.Algebra.Order.Group.MinMax
import Telemetry.Proofs.Health.Loss
import Telemetry.Proofs.Health.MeanError

/-!
# A source and its channels

The state of a source is that of the mean completeness of its channels, and does
not quite lie between theirs: it may be a step off where the exact mean is next to
a threshold, though not where no addition is rounded.  Nor is it quite the same in
every order of the channels.  Two orders agree where no addition is rounded; where
some are, they agree on the average loss to within a part of `2 ^ 49` of the
magnitudes, and on the state unless the exact mean is next to a threshold.
-/
set_option autoImplicit false
namespace Telemetry
open Binary64

namespace Completeness
variable {x y : Binary64} {xs ys : List Binary64} {grain : Nat}

/-! ## Means in two orders -/

theorem level_mean_congr (same : (sum xs).level = (sum ys).level) (length : xs.length = ys.length)
    (few : ys.length ≤ 2 ^ 64) : (mean xs).level = (mean ys).level := by
  cases ys with
  | nil => rw [List.length_eq_zero_iff.mp length]
  | cons y ys =>
      have nonempty : ¬ xs.isEmpty := by
        rw [List.isEmpty_iff, ← List.length_eq_zero_iff, length]
        exact Nat.succ_ne_zero _
      have finite := finite_ofNat few
      have positive := position_ofNat_pos (Nat.succ_pos ys.length)
      rw [mean, mean, if_neg nonempty, if_neg (by simp), length]
      exact Int.le_antisymm (level_div_mono finite positive rfl (Int.le_of_eq same))
        (level_div_mono finite positive rfl (Int.le_of_eq same.symm))

theorem lossOf_congr (same : x.level = y.level) : lossOf x = lossOf y := by
  by_cases above : 0 < x.level
  · rw [eq_of_level same above]
  · have nothing := Int.not_lt.mp above
    rw [lossOf_eq_one nothing, lossOf_eq_one (same ▸ nothing)]

theorem level_sum_perm (unrounded : Unrounded grain xs) (order : xs.Perm ys) :
    (sum xs).level = (sum ys).level := by
  obtain ⟨result, value⟩ := unrounded.sum
  obtain ⟨result', value'⟩ := (unrounded.perm order).sum
  have sums : (sum xs).signedUnits = (sum ys).signedUnits := by
    rw [value, value']
    exact (order.map signedUnits).sum_eq
  rw [(level_of_finite (result.finite (by simp))).1, (level_of_finite (result'.finite (by simp))).1]
  exact Int.le_antisymm (place_le_iff.mpr (Int.le_of_eq sums))
    (place_le_iff.mpr (Int.le_of_eq sums.symm))

theorem clamp_sub_le (r q : ℝ) : |max 0 (min 1 r) - max 0 (min 1 q)| ≤ |r - q| := by
  calc |max 0 (min 1 r) - max 0 (min 1 q)| ≤ |min 1 r - min 1 q| := by
        simpa using abs_max_sub_max_le_max 0 (min 1 r) 0 (min 1 q)
    _ ≤ |r - q| := by simpa using abs_min_sub_min_le_max 1 r 1 q

theorem clamp_near {r q : ℝ} (close : Close r q) :
    |max 0 (min 1 r) - max 0 (min 1 q)| ≤ 1 / 2 ^ 50 := by
  have tiny := unit_le
  rw [Close, abs_le] at close
  -- the error is relative: beyond two it may be large, but there both sides are cut off
  rcases lt_or_ge q (-2) with below | low
  · rw [abs_of_neg (by linarith)] at close
    have negative : r ≤ 0 := by linarith
    rw [min_eq_right (by linarith), min_eq_right (by linarith), max_eq_left negative,
      max_eq_left (by linarith), sub_self, abs_zero]
    positivity
  rcases lt_or_ge 2 q with above | high
  · rw [abs_of_pos (by linarith)] at close
    have large : 1 ≤ r := by linarith
    rw [min_eq_left large, min_eq_left (by linarith), sub_self, abs_zero]
    positivity
  · have size : |q| ≤ 2 := abs_le.mpr ⟨low, high⟩
    have off : |r - q| ≤ 1 / 2 ^ 50 := abs_le.mpr ⟨by linarith, by linarith⟩
    exact le_trans (clamp_sub_le r q) off

/-- The loss is off by its one rounding, whatever the completeness. -/
theorem value_lossOf (finite : x.position < infinityPosition) (bound : |value x| ≤ 2 ^ 64 - 1) :
    |value (lossOf x) - max 0 (min 1 (1 - value x))| ≤ 1 / 2 ^ 50 := by
  have one : value (Binary64.ofNat 1) = 1 := by
    have exact := (exact_of_le (n := 1) (by decide)).value_ofNat
    rwa [Nat.cast_one] at exact
  have nothing : value (zero false) = 0 := by rw [value, signedUnits_zero, Int.cast_zero, zero_mul]
  have within : |value (Binary64.ofNat 1) - value x| ≤ 2 ^ 64 := by
    rw [abs_le] at bound ⊢
    rw [one]
    constructor <;> linarith
  have finite' := finite_sub finite_one finite within
  have close := close_sub finite_one finite within
  have number : ¬ x.isNaN = true := by
    rw [isNaN_eq_false.mpr (Nat.le_of_lt finite)]
    exact Bool.false_ne_true
  have clamped : value (lossOf x) = max 0 (min 1 (value (Binary64.ofNat 1 - x))) := by
    have low := lt_iff_value finite' (y := zero false) (by decide)
    have high := lt_iff_value finite_one finite'
    rw [nothing] at low
    rw [one] at high
    rw [lossOf, if_neg number]
    simp only [low, high]
    split_ifs with negative large
    · rw [nothing, max_eq_left]
      exact le_trans (min_le_right _ _) (le_of_lt negative)
    · rw [one, min_eq_left (le_of_lt large), max_eq_right zero_le_one]
    · rw [min_eq_right (not_lt.mp large), max_eq_right (not_lt.mp negative)]
  rw [one] at close
  rw [clamped]
  exact clamp_near close

theorem mean_of_perm (moderate : Moderate xs) (order : ys.Perm xs) :
    (HealthState.classify (mean ys) ≠ HealthState.classify (mean xs) →
      ∃ t ∈ HealthState.thresholds,
        |total xs / xs.length - value t| ≤ (magnitude xs + 1) / 2 ^ 50) ∧
      |value (lossOf (mean ys)) - value (lossOf (mean xs))| ≤ (magnitude xs + 2) / 2 ^ 49 := by
  have nonneg : 0 ≤ magnitude xs := le_trans (abs_nonneg _) (abs_total_le xs)
  by_cases some : xs = []
  · subst some
    obtain rfl := order.eq_nil
    refine ⟨fun differ => absurd rfl differ, ?_⟩
    rw [sub_self, abs_zero]
    positivity
  have some' : ys ≠ [] := fun none => some (by rw [none] at order; exact order.symm.eq_nil)
  have sameTotal : total ys = total xs := (order.map value).sum_eq
  have sameMagnitude : magnitude ys = magnitude xs := (order.map fun x => |value x|).sum_eq
  obtain ⟨finite, off⟩ := moderate.mean_near some
  obtain ⟨finite', off'⟩ := (moderate.perm order).mean_near some'
  rw [sameTotal, sameMagnitude, order.length_eq] at off'
  have bounded := moderate.magnitude_le
  have average := abs_average_le some
  rw [abs_le] at off off' average
  constructor
  · intro differ
    obtain ⟨t, member, between⟩ := HealthState.threshold_between finite' finite differ
    refine ⟨t, member, abs_le.mpr ?_⟩
    rcases between with ⟨low, high⟩ | ⟨low, high⟩ <;> constructor <;> linarith
  · have loss := value_lossOf finite (abs_le.mpr ⟨by linarith, by linarith⟩)
    have loss' := value_lossOf finite' (abs_le.mpr ⟨by linarith, by linarith⟩)
    have apart := clamp_sub_le (1 - value (mean ys)) (1 - value (mean xs))
    have means : |1 - value (mean ys) - (1 - value (mean xs))| ≤ 2 * ((magnitude xs + 1) / 2 ^ 50) :=
      abs_le.mpr ⟨by linarith, by linarith⟩
    have losses := le_trans apart means
    rw [abs_le] at loss loss' losses ⊢
    constructor <;> linarith

section Source
variable {sourceId : String} {spec spec' : SourceSpec} {window : Span} {counts : Counts}

/-! ## Between the channels -/

theorem state_of_mem_channels {c : ChannelReport}
    (member : c ∈ (evaluate sourceId spec window counts).channels) :
    c.state = HealthState.classify c.completeness := by
  obtain ⟨channel, -, rfl⟩ := List.mem_map.mp member
  rfl

theorem source_state_near_channels (some : spec.channels ≠ []) (few : spec.channels.length ≤ 2 ^ 50)
    {worst best : HealthState}
    (bounds : ∀ c ∈ (evaluate sourceId spec window counts).channels,
      worst.grade ≤ c.state.grade ∧ c.state.grade ≤ best.grade) :
    let report := evaluate sourceId spec window counts
    let parts := report.channels.map ChannelReport.completeness
    worst.lowered.grade ≤ report.state.grade ∧ report.state.grade ≤ best.raised.grade ∧
      (∀ grain, Unrounded grain parts →
        worst.grade ≤ report.state.grade ∧ report.state.grade ≤ best.grade) ∧
      (Moderate parts → report.state.grade < worst.grade ∨ best.grade < report.state.grade →
        ∃ t ∈ HealthState.thresholds,
          |total parts / parts.length - value t| ≤ (magnitude parts + 1) / 2 ^ 50) := by
  intro report parts
  have state : report.state = HealthState.classify (mean parts) := rfl
  have length : parts.length = spec.channels.length := by
    rw [List.length_map]
    exact List.length_map _
  have nonempty : parts ≠ [] := by
    rwa [← List.length_pos_iff, length, List.length_pos_iff]
  have part {x : Binary64} (member : x ∈ parts) :
      worst.grade ≤ (HealthState.classify x).grade ∧ (HealthState.classify x).grade ≤ best.grade := by
    obtain ⟨c, listed, rfl⟩ := List.mem_map.mp member
    rw [← state_of_mem_channels listed]
    exact bounds c listed
  rw [← length] at few
  rw [state]
  refine ⟨?_, ?_, fun grain unrounded => ⟨?_, ?_⟩, fun moderate outside => ?_⟩
  · exact lowered_le_grade_mean nonempty few fun x member => (part member).1
  · exact grade_mean_le_raised nonempty few fun x member => (part member).2
  · exact le_grade_mean_of_unrounded nonempty unrounded (by omega) fun x member => (part member).1
  · exact grade_mean_le_of_unrounded nonempty unrounded (by omega) fun x member => (part member).2
  · rcases outside with worse | better
    · exact moderate.threshold_of_grade_mean_lt nonempty (fun x member => (part member).1) worse
    · exact moderate.threshold_of_grade_mean_gt nonempty (fun x member => (part member).2) better

/-- A source that delivers one sample a second on each channel. -/
def everySecond (ids : List String) : SourceSpec :=
  ⟨"weather_station", ids.map fun id => ⟨id, Binary64.ofNat 1, "u"⟩⟩

/-- The last ten seconds of the calendar. -/
def tenSeconds : Span := Span.endingAt Instant.latest (Elapsed.ofSeconds 10)

/-- Eight of ten samples on each of three channels: each calls for a warning, the mean does not. -/
theorem three_warnings_ok :
    let report := evaluate "ws-1" (everySecond ["a", "b", "c"]) tenSeconds
      ⟨[("a", 8), ("b", 8), ("c", 8)]⟩
    (∀ c ∈ report.channels, c.state = .warning) ∧ report.state = .ok := by
  decide +kernel

theorem three_warnings_within_a_step :
    let report := evaluate "ws-1" (everySecond ["a", "b", "c"]) tenSeconds
      ⟨[("a", 8), ("b", 8), ("c", 8)]⟩
    let parts := report.channels.map ChannelReport.completeness
    (∀ c ∈ report.channels, c.state = .warning) ∧
      HealthState.warning.grade ≤ report.state.grade ∧ report.state.grade ≤ HealthState.ok.grade ∧
      ∃ t ∈ HealthState.thresholds,
        |total parts / parts.length - value t| ≤ (magnitude parts + 1) / 2 ^ 50 := by
  intro report parts
  have warnings : ∀ c ∈ report.channels, c.state = .warning := by decide +kernel
  have bounds : ∀ c ∈ report.channels, HealthState.warning.grade ≤ c.state.grade ∧
      c.state.grade ≤ HealthState.warning.grade := by
    intro c member
    rw [warnings c member]
    exact ⟨Nat.le_refl _, Nat.le_refl _⟩
  have outside : HealthState.warning.grade < report.state.grade := by decide +kernel
  obtain ⟨low, high, -, near⟩ := source_state_near_channels (by decide) (by decide) bounds
  exact ⟨warnings, low, high, near ⟨by decide, by decide +kernel⟩ (.inr outside)⟩

/-! ## In another order -/

/-- Reports on the same channels in two orders. -/
theorem report_of_perm (order : spec'.channels.Perm spec.channels)
    (few : spec.channels.length ≤ 2 ^ 64) :
    let report := evaluate sourceId spec window counts
    let report' := evaluate sourceId spec' window counts
    let parts := report.channels.map ChannelReport.completeness
    report'.channels.Perm report.channels ∧ report'.totalReceived = report.totalReceived ∧
      (∀ grain, Unrounded grain parts →
        report'.state = report.state ∧ report'.averageLoss = report.averageLoss) ∧
      (Moderate parts →
        (report'.state ≠ report.state → ∃ t ∈ HealthState.thresholds,
          |total parts / parts.length - value t| ≤ (magnitude parts + 1) / 2 ^ 50) ∧
        |value report'.averageLoss - value report.averageLoss| ≤ (magnitude parts + 2) / 2 ^ 49) := by
  intro report report' parts
  have channels : report'.channels.Perm report.channels := order.map _
  have order' := channels.map ChannelReport.completeness
  refine ⟨channels, (channels.map ChannelReport.received).sum_eq, ?_,
    fun moderate => mean_of_perm moderate order'⟩
  intro grain unrounded
  have few' : parts.length ≤ 2 ^ 64 := by
    rw [List.length_map]
    exact Nat.le_trans (Nat.le_of_eq (List.length_map _)) few
  have same : (mean (report'.channels.map ChannelReport.completeness)).level = (mean parts).level :=
    level_mean_congr (level_sum_perm unrounded order'.symm).symm order'.length_eq few'
  exact ⟨HealthState.classify_congr same, lossOf_congr same⟩

/-- Nine, eight and seven of ten samples are enough in one order, and not in the other. -/
theorem two_orders_differ :
    let counts : Counts := ⟨[("a", 9), ("b", 8), ("c", 7)]⟩
    let report := evaluate "ws-1" (everySecond ["a", "b", "c"]) tenSeconds counts
    let report' := evaluate "ws-1" (everySecond ["c", "b", "a"]) tenSeconds counts
    (everySecond ["c", "b", "a"]).channels.Perm (everySecond ["a", "b", "c"]).channels ∧
      report.state = .ok ∧ report'.state = .warning ∧ report'.averageLoss ≠ report.averageLoss := by
  decide +kernel

/-- With ten and five of ten samples both orders agree; with nine, eight and seven they do not, and
the mean is next to a threshold. -/
theorem halves_and_tenths_in_two_orders :
    let halves : Counts := ⟨[("a", 10), ("b", 5)]⟩
    let tenths : Counts := ⟨[("a", 9), ("b", 8), ("c", 7)]⟩
    let parts := (evaluate "ws-1" (everySecond ["a", "b", "c"]) tenSeconds tenths).channels.map
      ChannelReport.completeness
    (evaluate "ws-1" (everySecond ["b", "a"]) tenSeconds halves).state =
        (evaluate "ws-1" (everySecond ["a", "b"]) tenSeconds halves).state ∧
      ∃ t ∈ HealthState.thresholds,
        |total parts / parts.length - value t| ≤ (magnitude parts + 1) / 2 ^ 50 := by
  intro halves tenths parts
  have order : (everySecond ["b", "a"]).channels.Perm (everySecond ["a", "b"]).channels := by
    decide +kernel
  have order' : (everySecond ["c", "b", "a"]).channels.Perm (everySecond ["a", "b", "c"]).channels := by
    decide +kernel
  obtain ⟨-, -, unrounded, -⟩ := @report_of_perm "ws-1" (everySecond ["a", "b"])
    (everySecond ["b", "a"]) tenSeconds halves order (by decide)
  obtain ⟨-, -, -, moderate⟩ := @report_of_perm "ws-1" (everySecond ["a", "b", "c"])
    (everySecond ["c", "b", "a"]) tenSeconds tenths order' (by decide)
  have exact := unrounded 1073 ⟨by decide +kernel, by decide +kernel, by decide +kernel⟩
  have near := moderate ⟨by decide +kernel, by decide +kernel⟩
  exact ⟨exact.1, near.1 (by decide +kernel)⟩

end Source

end Completeness
end Telemetry
