import Telemetry.Proofs.Time.Lookback
import Telemetry.Proofs.Window.Budget

/-!
# Queries with a bucket and no start

Such a query looks back by as many buckets as are wanted by default.  These are
no more than the budget, so it is always answered, and only the first instant of
the calendar or a leap second at its end makes its span shorter.
-/
set_option autoImplicit false
namespace Telemetry

theorem Resolution.bucketCount_le {p : Resolution} {n : Nat}
    (within : p.span.millis ≤ n * p.bucket.millis) : p.bucketCount ≤ n := by
  rw [bucketCount]
  apply Nat.div_le_of_le_mul
  rw [Int.toNat_le, Nat.mul_comm]
  exact_mod_cast within

theorem Resolution.bucketCount_eq {p : Resolution} {n : Nat}
    (exact : p.span.millis = n * p.bucket.millis) : p.bucketCount = n := by
  have whole : p.span.millis.toNat = n * p.bucket.millis := by
    rw [exact]
    exact_mod_cast Int.toNat_natCast _
  rw [bucketCount, whole, Nat.mul_div_cancel n p.bucket.millis_pos]

namespace Resolver
variable {r : Resolver} {settings : WindowSettings}

theorem seconds_buckets_le (bucket : Bucket) (count : UInt32) :
    bucket.seconds * count.toNat ≤ 604800 * 4294967296 :=
  Nat.mul_le_mul bucket.seconds_bounds.2 (Nat.le_of_lt count.toNat_lt)

/-- The wanted buckets, fewer than `2 ^ 32` weeks, are not too long for a signed length. -/
theorem ofSeconds_buckets (bucket : Bucket) (count : UInt32) :
    Elapsed.ofSeconds (bucket.seconds * count.toNat) = .ofMillis (count.toNat * bucket.millis) := by
  have bound : (bucket.seconds * count.toNat : Int) ≤ 604800 * 4294967296 := by
    exact_mod_cast seconds_buckets_le bucket count
  rw [Elapsed.ofSeconds_eq (by omega), Bucket.millis_eq]
  push_cast
  apply congrArg
  ring

/-- A query with a bucket and no start is answered, with the wanted number of these buckets before
its end.  Neither their length in seconds, in 64 bits, nor the length of the span is cut. -/
theorem bucket_lookback (accepted : ofSettings settings = .ok r) (stop : Option Instant)
    (bucket : Bucket) (now : Instant) :
    ∃ p, r.resolve none stop (some bucket) now = .ok p ∧
      p.bucket = bucket ∧ p.span.stop = stop.getD now ∧ p.span.start ≤ p.span.stop ∧
      p.bucketCount ≤ settings.windowCount.toNat ∧
      bucket.seconds * settings.windowCount.toNat < 2 ^ 63 ∧
      Elapsed.ofSeconds (bucket.seconds * settings.windowCount.toNat) =
        .ofMillis (settings.windowCount.toNat * bucket.millis) ∧
      (∀ start : Instant, start.inLeapSecond = false →
        start.epochNanos + settings.windowCount.toNat * bucket.millis * 1000000 =
          (stop.getD now).epochNanos →
        p.span.start = start ∧ ((stop.getD now).inLeapSecond = false →
          p.bucketCount = settings.windowCount.toNat)) ∧
      ((∀ start : Instant, start.inLeapSecond = false →
        start.epochNanos + settings.windowCount.toNat * bucket.millis * 1000000 ≠
          (stop.getD now).epochNanos) →
        p.span.start = Instant.earliest) := by
  obtain ⟨valid, rfl⟩ := ofSettings_eq_ok.mp accepted
  let length := Elapsed.ofMillis (settings.windowCount.toNat * bucket.millis)
  let p : Resolution := ⟨Span.endingAt (stop.getD now) length, bucket⟩
  have proposed : propose ⟨settings, Bucket.table settings.bucketSizes⟩ none stop (some bucket) now =
      .ok p := by
    rw [propose, spanFor, ofSeconds_buckets]
    rfl
  have long : 1000000000 ≤ length.nanos := by
    have least : 1 * 1000 ≤ settings.windowCount.toNat * bucket.millis :=
      Nat.mul_le_mul valid.count_pos (Nat.le_mul_of_pos_left 1000 bucket.seconds_bounds.1)
    change (1000000000 : Int) ≤ settings.windowCount.toNat * bucket.millis * 1000000
    omega
  have within : p.span.millis ≤ settings.windowCount.toNat * bucket.millis := by
    have cut : p.span.millis ≤ length.millis := Span.millis_endingAt_le long
    rwa [Elapsed.millis_ofMillis] at cut
  have fine : ¬ tooFine ⟨settings, Bucket.table settings.bucketSizes⟩ p := by
    apply not_tooFine
    exact Int.le_trans within (by exact_mod_cast Nat.mul_le_mul_right _ valid.count_le)
  refine ⟨p, ?answered, rfl, rfl, Span.start_le_stop long, Resolution.bucketCount_le within,
    Nat.lt_of_le_of_lt (seconds_buckets_le bucket settings.windowCount) (by decide),
    ofSeconds_buckets bucket settings.windowCount, ?whole, ?cut⟩
  case answered => rw [resolve_of_propose proposed, if_neg fine]
  case whole =>
    intro start outside reach
    refine ⟨Span.start_eq long outside reach, fun still => Resolution.bucketCount_eq ?_⟩
    have exact := Span.millis_endingAt long still outside reach
    rwa [Elapsed.millis_ofMillis] at exact
  case cut => exact Span.start_eq_earliest long

/-- A hundred minutes before noon, from settings that have weeks only. -/
theorem minutes_before_noon :
    let settings : WindowSettings := ⟨100, 1000, 365, [.oneWeek]⟩
    let noon : Instant := ⟨0, 43200, 0, by decide, by decide, by decide, by decide⟩
    let start : Instant := ⟨0, 37200, 0, by decide, by decide, by decide, by decide⟩
    ofSettings settings = .ok ⟨settings, [.oneWeek]⟩ ∧
      ∃ p, resolve ⟨settings, [.oneWeek]⟩ none none (some .oneMinute) noon = .ok p ∧
        p.span.start = start ∧ p.bucketCount = 100 := by
  intro settings noon start
  have accepted : ofSettings settings = .ok ⟨settings, [.oneWeek]⟩ := by decide +kernel
  obtain ⟨p, answered, _, _, _, _, _, _, whole, _⟩ := bucket_lookback accepted none .oneMinute noon
  obtain ⟨startEq, count⟩ := whole start rfl (by decide)
  exact ⟨accepted, p, answered, startEq, count rfl⟩

end Resolver
end Telemetry
