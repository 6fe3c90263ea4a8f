import Mathlib.Tactic.SplitIfs
import Telemetry.Time.Span

/-!
# Looking back from an instant

Outside leap seconds the instants are the nanoseconds from the earliest to the
last.  A span of a second or more, or with its end outside leap seconds, starts
that many nanoseconds before its end, or at the earliest instant where none is
that early.  Of a second or more it is never longer than asked, and shorter only
if it was cut there or ends inside a leap second.
-/
set_option autoImplicit false
namespace Telemetry
open Calendar

namespace Elapsed

theorem millis_ofMillis (ms : Int) : (ofMillis ms).millis = ms :=
  Int.mul_tdiv_cancel ms (by decide)

/-- Seconds that are not too many to be counted in milliseconds are not cut. -/
theorem ofSeconds_eq {s : Int} (short : s ≤ 9223372036854775) : ofSeconds s = ofMillis (s * 1000) := by
  have within : s * 1000000000 ≤ longest.nanos := by
    change _ ≤ (9223372036854775807 * 1000000 : Int)
    omega
  rw [ofSeconds, ofMillis, Int.min_eq_left within, mk.injEq]
  omega

end Elapsed

namespace Instant
variable {t a b : Instant} {n : Int}

/-- Nanoseconds since 1970-01-01; a leap second runs into the second that follows. -/
def epochNanos (t : Instant) : Int := t.epochSeconds * 1000000000 + t.nano

/-- The instant outside leap seconds that many nanoseconds after 1970-01-01. -/
def ofEpochNanos? (n : Int) : Option Instant :=
  ofEpoch? (n / 1000000000) (n % 1000000000).toNat

theorem inLeapSecond_eq_false : t.inLeapSecond = false ↔ t.nano < 1000000000 := by
  rw [inLeapSecond, decide_eq_false_iff_not, Nat.not_le]

/-- A fraction of less than a second is never refused. -/
theorem ofEpochNanos?_eq_ofParts? (n : Int) : ofEpochNanos? n =
    ofParts? (n / 1000000000 / 86400) (n / 1000000000 % 86400).toNat (n % 1000000000).toNat := by
  rw [ofEpochNanos?, ofEpoch?, if_neg]
  omega

theorem ofParts?_eq_some {day : Int} {second nano : Nat} :
    ofParts? day second nano = some t ↔ t.day = day ∧ t.second = second ∧ t.nano = nano := by
  obtain ⟨d, s, f, first, last, sLt, fLt⟩ := t
  rw [ofParts?]
  split_ifs with valid
  · simp only [Option.some.injEq, mk.injEq]
    exact and_congr eq_comm (and_congr eq_comm eq_comm)
  · simp only [false_iff]
    rintro ⟨rfl, rfl, rfl⟩
    exact valid ⟨⟨first, last⟩, sLt, fLt⟩

theorem ofEpochNanos?_eq_some :
    ofEpochNanos? n = some t ↔ t.inLeapSecond = false ∧ t.epochNanos = n := by
  have seconds := t.second_lt
  rw [ofEpochNanos?_eq_ofParts?, ofParts?_eq_some, inLeapSecond_eq_false, epochNanos, epochSeconds]
  omega

/-- Only nanoseconds before the earliest or after the last instant are none. -/
theorem ofEpochNanos?_eq_none : ofEpochNanos? n = none ↔
    n < earliest.epochNanos ∨ latest.epochNanos < n := by
  have first : earliest.epochNanos = firstDay * 86400000000000 := by decide
  have last : latest.epochNanos = (lastDay + 1) * 86400000000000 - 1 := by decide
  rw [ofEpochNanos?_eq_ofParts?, ofParts?, first, last]
  split_ifs with valid
  · simp only [false_iff]
    omega
  · simp only [true_iff]
    omega

theorem carry?_eq (day second nano : Int) :
    carry? day second nano = ofEpochNanos? ((day * 86400 + second) * 1000000000 + nano) := by
  have seconds : ((day * 86400 + second) * 1000000000 + nano) / 1000000000 =
      day * 86400 + (second + nano / 1000000000) := by omega
  have rest : ((day * 86400 + second) * 1000000000 + nano) % 1000000000 = nano % 1000000000 := by
    omega
  have days : (day * 86400 + (second + nano / 1000000000)) / 86400 =
      day + (second + nano / 1000000000) / 86400 := by omega
  have secondOfDay : (day * 86400 + (second + nano / 1000000000)) % 86400 =
      (second + nano / 1000000000) % 86400 := by omega
  rw [carry?, ofEpochNanos?_eq_ofParts?, seconds, rest, days, secondOfDay]

/-- A length that is not negative, and that leads out of a leap second which holds its end. -/
structure Leaves (t : Instant) (length : Elapsed) : Prop where
  backward : 0 ≤ length.nanos
  far : t.inLeapSecond = true → 1000000000 ≤ length.nanos

theorem Leaves.of_long {length : Elapsed} (long : 1000000000 ≤ length.nanos) : Leaves t length :=
  ⟨by omega, fun _ => long⟩

theorem Leaves.of_still {length : Elapsed} (still : t.inLeapSecond = false)
    (backward : 0 ≤ length.nanos) : Leaves t length :=
  ⟨backward, by simp [still]⟩

theorem Leaves.minus?_eq {length : Elapsed} (leaves : Leaves t length) :
    t.minus? length = ofEpochNanos? (t.epochNanos - length.nanos) := by
  obtain ⟨l⟩ := length
  obtain ⟨backward, far⟩ := leaves
  change 0 ≤ l at backward
  change _ → 1000000000 ≤ l at far
  rw [inLeapSecond, decide_eq_true_eq] at far
  change _ = ofEpochNanos? (t.epochNanos - l)
  unfold minus? plus?
  extract_lets seconds nanos second nano
  have secondsEq : seconds = -(l / 1000000000) := by
    change Int.tdiv (-l) 1000000000 = _
    rw [Int.neg_tdiv, Int.tdiv_eq_ediv_of_nonneg backward]
  have nanosEq : nanos = -(l % 1000000000) := by
    change Int.tmod (-l) 1000000000 = _
    rw [Int.neg_tmod, Int.tmod_eq_emod_of_nonneg backward]
  split_ifs with inside forward
  · rw [carry?_eq]
    apply congrArg ofEpochNanos?
    rw [epochNanos, epochSeconds]
    omega
  · omega
  · rw [carry?_eq]
    apply congrArg ofEpochNanos?
    rw [epochNanos, epochSeconds]
    omega
  · omega

theorem nanos_since_le (outside : b.inLeapSecond = false) :
    (a.since b).nanos ≤ a.epochNanos - b.epochNanos := by
  rw [inLeapSecond_eq_false] at outside
  rw [since, epochNanos, epochNanos, epochSeconds, epochSeconds]
  split_ifs <;> dsimp only <;> omega

theorem nanos_since (still : a.inLeapSecond = false) (outside : b.inLeapSecond = false) :
    (a.since b).nanos = a.epochNanos - b.epochNanos := by
  rw [inLeapSecond_eq_false] at still outside
  rw [since, epochNanos, epochNanos, epochSeconds, epochSeconds]
  split_ifs <;> dsimp only <;> omega

theorem earliest_le (t : Instant) : earliest ≤ t := by
  have start : earliest.rank = firstDay * 172800000000000 := by decide
  have day := t.firstDay_le
  change earliest.rank ≤ t.rank
  rw [start, rank, epochSeconds]
  omega

end Instant

namespace Span
variable {stop t : Instant} {length : Elapsed}

theorem endingAt_eq (backward : 0 ≤ length.nanos) :
    endingAt stop length = ⟨(stop.minus? length).getD Instant.earliest, stop⟩ := by
  rw [endingAt, Int.max_eq_left backward]

section Leaves
variable (leaves : stop.Leaves length)
include leaves

theorem start_endingAt : (endingAt stop length).start =
    (Instant.ofEpochNanos? (stop.epochNanos - length.nanos)).getD Instant.earliest := by
  rw [endingAt_eq leaves.backward, leaves.minus?_eq]

/-- Either the whole length lies before the end, or it is cut at the earliest instant. -/
theorem start_cases : (endingAt stop length).start.inLeapSecond = false ∧
    ((endingAt stop length).start.epochNanos + length.nanos = stop.epochNanos ∨
      (endingAt stop length).start = Instant.earliest ∧
        stop.epochNanos < Instant.earliest.epochNanos + length.nanos) := by
  have upper : stop.epochNanos - length.nanos ≤ Instant.latest.epochNanos := by
    obtain ⟨backward, far⟩ := leaves
    have last : Instant.latest.epochNanos = (lastDay + 1) * 86400000000000 - 1 := by decide
    have day := stop.le_lastDay
    have second := stop.second_lt
    have nano := stop.nano_lt
    rw [Instant.inLeapSecond, decide_eq_true_eq] at far
    rw [last, Instant.epochNanos, Instant.epochSeconds]
    omega
  rw [start_endingAt leaves]
  cases found : Instant.ofEpochNanos? (stop.epochNanos - length.nanos) with
  | none =>
      have cut := Instant.ofEpochNanos?_eq_none.mp found
      exact ⟨rfl, .inr ⟨rfl, by omega⟩⟩
  | some t =>
      obtain ⟨outside, reach⟩ := Instant.ofEpochNanos?_eq_some.mp found
      exact ⟨outside, .inl (by rw [Option.getD_some]; omega)⟩

theorem start_le : (endingAt stop length).start ≤ stop := by
  obtain ⟨outside, reach | ⟨cut, -⟩⟩ := start_cases leaves
  · obtain ⟨backward, far⟩ := leaves
    rw [Instant.inLeapSecond_eq_false] at outside
    rw [Instant.inLeapSecond, decide_eq_true_eq] at far
    rw [Instant.epochNanos, Instant.epochNanos] at reach
    have nano := stop.nano_lt
    change (endingAt stop length).start.rank ≤ stop.rank
    rw [Instant.rank, Instant.rank]
    omega
  · rw [cut]
    exact Instant.earliest_le stop

end Leaves

section Long
variable (long : 1000000000 ≤ length.nanos)
include long

theorem start_eq (outside : t.inLeapSecond = false)
    (reach : t.epochNanos + length.nanos = stop.epochNanos) :
    (endingAt stop length).start = t := by
  have found : Instant.ofEpochNanos? (stop.epochNanos - length.nanos) = some t :=
    Instant.ofEpochNanos?_eq_some.mpr ⟨outside, by omega⟩
  rw [start_endingAt (.of_long long), found, Option.getD_some]

theorem start_eq_earliest
    (beyond : ∀ t : Instant, t.inLeapSecond = false → t.epochNanos + length.nanos ≠ stop.epochNanos) :
    (endingAt stop length).start = Instant.earliest := by
  obtain ⟨outside, reach | ⟨cut, -⟩⟩ := @start_cases stop length (.of_long long)
  · exact absurd reach (beyond _ outside)
  · exact cut

theorem start_le_stop : (endingAt stop length).start ≤ stop := start_le (.of_long long)

theorem nanos_endingAt_le : (endingAt stop length).length.nanos ≤ length.nanos := by
  obtain ⟨outside, reach⟩ := @start_cases stop length (.of_long long)
  have distance : (endingAt stop length).length.nanos ≤
      stop.epochNanos - (endingAt stop length).start.epochNanos := Instant.nanos_since_le outside
  rcases reach with reach | ⟨cut, short⟩
  · omega
  · rw [cut] at distance
    omega

theorem millis_endingAt_le : (endingAt stop length).millis ≤ length.millis :=
  Int.tdiv_le_tdiv (by decide) (nanos_endingAt_le long)

theorem millis_endingAt (still : stop.inLeapSecond = false) (outside : t.inLeapSecond = false)
    (reach : t.epochNanos + length.nanos = stop.epochNanos) :
    (endingAt stop length).millis = length.millis := by
  have start := start_eq long outside reach
  have distance : (endingAt stop length).length.nanos =
      stop.epochNanos - (endingAt stop length).start.epochNanos :=
    Instant.nanos_since still (start ▸ outside)
  have whole : (endingAt stop length).length.nanos = length.nanos := by
    rw [distance, start]
    omega
  rw [Span.millis, Elapsed.millis, whole, Elapsed.millis]

end Long

end Span
end Telemetry
