import Mathlib.Algebra.BigOperators.Group.Finset.Basic
import Telemetry.Health.Report
import Telemetry.Proofs.Catalog.Validity

/-!
# Every sample counted once

The channels of a valid source type have distinct ids.  So the first report on an id is
the only one, it rests on that channel and its count alone, and the total received is the
sum over the ids that are declared.
-/
set_option autoImplicit false
namespace Telemetry.Completeness
variable {r : SourceType} {window : Span} {counts : Counts}

theorem channel?_evaluate {sourceId : String} {spec : SourceSpec} {c : Channel}
    (distinct : (spec.channels.map Channel.id).Nodup) (member : c ∈ spec.channels) :
    (evaluate sourceId spec window counts).channel? c.id =
      some (channelReport window (counts.get c.id) c) := by
  have found : spec.channels.find? (fun d => d.id == c.id) = some c := find?_key distinct member
  simp only [SourceReport.channel?, evaluate, List.find?_map, Function.comp_def]
  change (spec.channels.find? fun d => d.id == c.id).map _ = _
  rw [found, Option.map_some]

theorem totalReceived_evaluate {sourceId : String} {spec : SourceSpec}
    (distinct : (spec.channels.map Channel.id).Nodup) :
    (evaluate sourceId spec window counts).totalReceived =
      ∑ id ∈ (spec.channels.map Channel.id).toFinset, counts.get id := by
  rw [List.sum_toFinset _ distinct, List.map_map]
  change (List.map _ (spec.channels.map _)).sum = _
  rw [List.map_map]
  rfl

/-- Counts that agree on the declared ids give the same report. -/
theorem evaluate_congr {sourceId : String} {spec : SourceSpec} {counts' : Counts}
    (same : ∀ c ∈ spec.channels, counts'.get c.id = counts.get c.id) :
    evaluate sourceId spec window counts' = evaluate sourceId spec window counts := by
  have channels : (spec.channels.map fun c => channelReport window (counts'.get c.id) c) =
      spec.channels.map fun c => channelReport window (counts.get c.id) c := by
    apply List.map_congr_left
    intro c member
    rw [same c member]
  simp only [evaluate, channels]

/-- The report on a source of a type that passes the check, from any counts. -/
theorem report_of_valid (valid : r.validate = .ok ()) (sourceId : String) :
    let report := evaluate sourceId r.spec window counts
    report.channels.map ChannelReport.channelId = r.channels.map Channel.id ∧
      (∀ c ∈ r.channels, report.channel? c.id = some (channelReport window (counts.get c.id) c)) ∧
      report.totalReceived = ∑ id ∈ (r.channels.map Channel.id).toFinset, counts.get id ∧
      ∀ counts' : Counts, (∀ c ∈ r.channels, counts'.get c.id = counts.get c.id) →
        evaluate sourceId r.spec window counts' = report := by
  intro report
  have distinct := (SourceType.validate_eq_ok.mp valid).distinct
  refine ⟨?_, fun c member => channel?_evaluate distinct member, totalReceived_evaluate distinct,
    fun counts' same => evaluate_congr same⟩
  exact List.map_map

/-- Ids may be blank, a count may be put twice or be negative, and counts of other ids add nothing. -/
theorem blank_ids_counted_once :
    let rain : Channel := ⟨"", Binary64.ofNat 1, "mm"⟩
    let wind : Channel := ⟨" ", Binary64.ofNat 4, "m/s"⟩
    let r : SourceType := ⟨"station", "Station", none, [rain, wind]⟩
    let window := Span.endingAt Instant.latest (Elapsed.ofSeconds 10)
    let counts := (((Counts.empty.put " " 9).put "snow" 100).put "" (-3)).put " " 40
    let report := evaluate "s-1" r.spec window counts
    r.validate = .ok () ∧ report.channel? " " = some (channelReport window 40 wind) ∧
      report.totalReceived = 37 := by
  intro rain wind r window counts report
  have valid : r.validate = .ok () := by decide +kernel
  obtain ⟨-, channels, total, -⟩ := @report_of_valid r window counts valid "s-1"
  exact ⟨valid, channels wind (by decide +kernel), total.trans (by decide +kernel)⟩

end Telemetry.Completeness
