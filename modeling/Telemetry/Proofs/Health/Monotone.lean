import Telemetry.Proofs.Health.Loss
import Telemetry.Proofs.Health.Mean

/-!
# More samples

Completeness rises with the samples received, whatever was expected, and so does the
mean of a source's channels.  Hence no channel and no source looks worse for more
samples, not where percentages overflow or their sum is no number either.
-/
set_option autoImplicit false
namespace Telemetry.Completeness
open Binary64
variable {m n : Int}

/-- A number of samples that completeness can be measured against. -/
def Usable (expected : Binary64) : Prop := zero false < expected ∧ expected.isFinite = true

theorem Usable.divisor {d : Binary64} (usable : Usable d) :
    d.position < infinityPosition ∧ 0 < d.position ∧ d.negative = false := by
  obtain ⟨above, finite⟩ := usable
  rw [isFinite, decide_eq_true_eq] at finite
  have place := (lt_iff_level (x := zero false) rfl).mp above
  rw [level_zero, (level_of_finite finite).1, Binary64.place] at place
  cases sign : d.negative with
  | true =>
      rw [sign, if_pos rfl] at place
      omega
  | false =>
      rw [sign, if_neg Bool.false_ne_true] at place
      exact ⟨finite, by omega, rfl⟩

/-- A part of an unusable expectation stays zero; any other is a quotient by a positive number. -/
theorem level_ratio_mono (more : m ≤ n) (expected : Binary64) :
    (ratio m expected).level ≤ (ratio n expected).level := by
  rw [ratio, ratio]
  split_ifs with usable
  · obtain ⟨finite, positive, sign⟩ := Usable.divisor usable
    exact level_div_mono finite positive sign (level_ofInt_mono more)
  · exact Int.le_refl _

theorem channelReport_mono (more : m ≤ n) (window : Span) (c : Channel) :
    let report := channelReport window m c
    let report' := channelReport window n c
    report.completeness.level ≤ report'.completeness.level ∧
      report.state.grade ≤ report'.state.grade ∧ report'.loss ≤ report.loss := by
  have order := level_ratio_mono more (c.expected window)
  exact ⟨order, HealthState.grade_classify_mono order, lossOf_anti order⟩

/-- Reports on the same channels by two counts, of which one has at least as many samples of each.
The length of a list of channels is a 64-bit word. -/
theorem report_of_more_samples {sourceId : String} {spec : SourceSpec} {window : Span}
    {fewer more : Counts} (few : spec.channels.length ≤ 2 ^ 64)
    (order : ∀ c ∈ spec.channels, fewer.get c.id ≤ more.get c.id) :
    let report := evaluate sourceId spec window fewer
    let report' := evaluate sourceId spec window more
    List.Forall₂ (fun c c' => c.channelId = c'.channelId ∧ c.received ≤ c'.received ∧
        c.state.grade ≤ c'.state.grade ∧ c'.loss ≤ c.loss) report.channels report'.channels ∧
      report.state.grade ≤ report'.state.grade ∧ report'.averageLoss ≤ report.averageLoss ∧
      report.totalReceived ≤ report'.totalReceived := by
  intro report report'
  have parts : List.Forall₂ (fun x y : Binary64 => x.level ≤ y.level)
      (report.channels.map ChannelReport.completeness)
      (report'.channels.map ChannelReport.completeness) := by
    simp only [report, report', evaluate, List.map_map, List.forall₂_map_left_iff,
      List.forall₂_map_right_iff, List.forall₂_same]
    exact fun c member => (channelReport_mono (order c member) window c).1
  have average : (mean (report.channels.map ChannelReport.completeness)).level ≤
      (mean (report'.channels.map ChannelReport.completeness)).level := by
    apply level_mean_mono parts
    rw [List.length_map]
    exact Nat.le_trans (Nat.le_of_eq (List.length_map _)) few
  refine ⟨?_, HealthState.grade_classify_mono average, lossOf_anti average, ?_⟩
  · simp only [report, report', evaluate, List.forall₂_map_left_iff, List.forall₂_map_right_iff,
      List.forall₂_same]
    intro c member
    obtain ⟨-, state, loss⟩ := channelReport_mono (order c member) window c
    exact ⟨rfl, order c member, state, loss⟩
  · change (report.channels.map ChannelReport.received).sum ≤
      (report'.channels.map ChannelReport.received).sum
    simp only [report, report', evaluate, List.map_map]
    exact List.sum_le_sum fun c member => order c member

/-- Samples are so rarely expected on two channels that their completeness overflows: more of them
make the sum of opposite infinities no number, and the source stays as bad as it was. -/
theorem opposite_infinities_no_worse :
    let rare := Binary64.ofPosition false 1
    let spec : SourceSpec :=
      ⟨"gauge", [⟨"a", rare, "m"⟩, ⟨"b", rare, "m"⟩, ⟨"c", Binary64.ofNat 1, "V"⟩]⟩
    let window := Span.endingAt Instant.latest (Elapsed.ofSeconds 10)
    let fewer : Counts := ⟨[("a", -1048576), ("c", 8)]⟩
    let more : Counts := ⟨[("a", -1048576), ("b", 1048576), ("c", 9)]⟩
    let report := evaluate "g-1" spec window fewer
    let report' := evaluate "g-1" spec window more
    (∀ c ∈ spec.channels, fewer.get c.id ≤ more.get c.id) ∧
      report'.channels.map ChannelReport.state = [.unknown, .fine, .ok] ∧
      (mean (report'.channels.map ChannelReport.completeness)).isNaN = true ∧
      report.state.grade ≤ report'.state.grade ∧ report'.averageLoss ≤ report.averageLoss ∧
      report.totalReceived ≤ report'.totalReceived := by
  intro rare spec window fewer more report report'
  have order : ∀ c ∈ spec.channels, fewer.get c.id ≤ more.get c.id := by decide +kernel
  obtain ⟨-, state, loss, total⟩ :=
    @report_of_more_samples "g-1" spec window fewer more (by decide) order
  exact ⟨order, by decide +kernel, by decide +kernel, state, loss, total⟩

end Telemetry.Completeness
