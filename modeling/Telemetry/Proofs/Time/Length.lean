import Mathlib.Tactic.MkIffOfInductiveProp
import Mathlib.Tactic.SplitIfs
import Telemetry.Proofs.Binary64.Rounding
import Telemetry.Proofs.Time.Lookback
import Telemetry.Time.Timestamp

/-!
# The length of a span

A span's length is bounded by the calendar, and its seconds are a finite number.  The
length is not negative, with one exception: a leap second at the end of a day is not
counted towards the day that follows, whose seconds of day are all earlier, so that a span
from within it into the first second of that day is a second short.  A span that looks back
from its end never starts in a leap second of another day.
-/
set_option autoImplicit false
namespace Telemetry
open Binary64

namespace Span
variable {s : Span}

/-- All spans are shorter than 600,000 years. -/
theorem natAbs_millis_lt (s : Span) : s.millis.natAbs < 2 ^ 54 := by
  obtain ⟨⟨d, t, n, first, last, tLt, nLt⟩, ⟨d', t', n', first', last', tLt', nLt'⟩⟩ := s
  have micros (n : Int) : (n.tdiv 1000000).natAbs = n.natAbs / 1000000 := Int.natAbs_tdiv n 1000000
  simp only [Calendar.firstDay, Calendar.lastDay] at first last first' last'
  simp only [Span.millis, Span.length, Instant.since, Elapsed.millis, micros]
  split_ifs <;> omega

theorem lt_of_millis {a : Nat} (length : s.millis = a) : a < 2 ^ 54 := by
  have bound := s.natAbs_millis_lt
  rw [length] at bound
  exact bound

theorem finite_millis (s : Span) : (ofInt s.millis).position < infinityPosition := by
  have finite : (ofNat s.millis.natAbs).position < infinityPosition :=
    finite_ofNat (Nat.le_trans (Nat.le_of_lt s.natAbs_millis_lt) (by decide))
  exact finite

theorem finite_seconds (s : Span) : s.seconds.position < infinityPosition :=
  Nat.lt_of_le_of_lt (position_div_le s.finite_millis (by omega) (exact_of_le (by omega)))
    s.finite_millis

theorem seconds_eq_round (s : Span) : s.seconds =
    round (s.millis < 0) (units (ofNat s.millis.natAbs).position * one) (1000 * one) :=
  div_ofNat s.finite_millis (by omega) (exact_of_le (by omega))

theorem position_seconds_pos (nonzero : s.millis ≠ 0) : 0 < s.seconds.position := by
  have least : 1 * one ≤ units (ofNat s.millis.natAbs).position := by
    rw [← (exact_of_le (n := 1) (by decide)).units_ofNat]
    exact units_strictMono.monotone (position_ofNat_mono (by omega))
  have thousand : 2 ^ 10 ≤ one := two_pow_le_one (by decide)
  have positive : 0 < 1000 * one := Nat.mul_pos (by decide) Binary64.one_pos
  have above : units 1 * (1000 * one) ≤ units (ofNat s.millis.natAbs).position * one := by
    rw [units_of_lt (by decide), Nat.one_mul]
    exact Nat.mul_le_mul_right one (by omega)
  have nearest := le_nearestPosition positive above
  rw [seconds_eq_round, position_round]
  exact Nat.lt_min.mpr ⟨nearest, by decide⟩

/-- The seconds are negative where the milliseconds are. -/
theorem zero_le_seconds_iff : zero false ≤ s.seconds ↔ 0 ≤ s.millis := by
  have number : s.seconds.isNaN = false := by
    rw [seconds_eq_round]
    exact isNaN_round
  have sign : s.seconds.negative = decide (s.millis < 0) := by
    rw [seconds_eq_round]
    rfl
  have origin : (zero false).isNaN = false ∧ (zero false).place = 0 := ⟨rfl, rfl⟩
  change (zero false).le s.seconds = true ↔ _
  rw [le, number, origin.1, origin.2, place, sign]
  simp only [Bool.not_false, Bool.true_and, decide_eq_true_eq]
  split_ifs with below
  · have positive := position_seconds_pos (s := s) (by omega)
    omega
  · omega

end Span

/-! ## The sign -/

namespace Instant
variable {a b t : Instant} {length : Elapsed}

/-- From within a leap second at the end of a day into the first second of the next day, or into a
leap second that follows it, of which less is over than of the leap second at the end of the day. -/
@[mk_iff]
structure AcrossLeap (start stop : Instant) : Prop where
  lastSecond : start.second = 86399
  nextDay : stop.day = start.day + 1
  firstSecond : stop.second = 0
  sooner : stop.nano % 1000000000 + 1000000000 < start.nano

theorem nanos_since_neg_iff (ordered : b ≤ a) : (a.since b).nanos < 0 ↔ AcrossLeap b a := by
  obtain ⟨d, s, n, _, _, sLt, nLt⟩ := a
  obtain ⟨d', s', n', _, _, sLt', nLt'⟩ := b
  change (d' * 86400 + s') * 2000000000 + n' ≤ (d * 86400 + s) * 2000000000 + (n : Int) at ordered
  rw [acrossLeap_iff, since]
  dsimp only
  split_ifs <;> omega

theorem AcrossLeap.nanos_since (across : AcrossLeap b a) :
    (a.since b).nanos = 1000000000 + a.nano % 1000000000 - b.nano := by
  obtain ⟨lastSecond, nextDay, firstSecond, sooner⟩ := across
  have withinSecond := a.nano_lt
  rw [since, lastSecond, nextDay, firstSecond]
  dsimp only
  split_ifs <;> omega

theorem AcrossLeap.inLeapSecond (across : AcrossLeap b a) : b.inLeapSecond = true := by
  have sooner := across.sooner
  rw [Instant.inLeapSecond, decide_eq_true_eq]
  omega

/-- Less than a second back from within a leap second lies in the same second. -/
theorem minus?_eq_of_short (inside : t.inLeapSecond = true) (backward : 0 ≤ length.nanos)
    (short : length.nanos < 1000000000) :
    t.minus? length = ofParts? t.day t.second (t.nano - length.nanos).toNat := by
  obtain ⟨l⟩ := length
  change 0 ≤ l at backward
  change l < 1000000000 at short
  change _ = ofParts? t.day t.second (t.nano - l).toNat
  rw [Instant.inLeapSecond, decide_eq_true_eq] at inside
  unfold minus? plus?
  extract_lets seconds nanos second nano
  have secondsEq : seconds = 0 := by
    change Int.tdiv (-l) 1000000000 = _
    rw [Int.neg_tdiv, Int.tdiv_eq_zero_of_lt backward short, Int.neg_zero]
  have nanosEq : nanos = -l := by
    change Int.tmod (-l) 1000000000 = _
    rw [Int.neg_tmod, Int.tmod_eq_of_lt backward short]
  split_ifs with outside forward
  · omega
  · omega
  · omega
  · rw [nanosEq, Int.sub_eq_add_neg]

end Instant

namespace Span
variable {s : Span} {start stop : Instant} {length : Elapsed}

theorem between?_eq_some : between? start stop = some s ↔ start ≤ stop ∧ ⟨start, stop⟩ = s := by
  have order : stop < start ↔ ¬ start ≤ stop := Int.not_le.symm
  rw [between?]
  split_ifs with reversed
  · simp [order.mp reversed]
  · simp [not_not.mp (order.not.mp reversed)]

theorem millis_nonneg_iff : 0 ≤ s.millis ↔ -1000000 < s.length.nanos := by
  rw [millis, Elapsed.millis]
  rcases Int.le_total 0 s.length.nanos with forward | back
  · rw [Int.tdiv_eq_ediv_of_nonneg forward]
    omega
  · rw [← Int.neg_neg s.length.nanos, Int.neg_tdiv, Int.tdiv_eq_ediv_of_nonneg (by omega)]
    omega

theorem endingAt_max : endingAt stop ⟨max length.nanos 0⟩ = endingAt stop length := by
  rw [endingAt, endingAt, Int.max_eq_left (Int.le_max_right length.nanos 0)]

/-- Looking back leads to an instant outside leap seconds, or stays in a leap second's own second. -/
theorem start_still_or_same_day (stop : Instant) (length : Elapsed)
    (backward : 0 ≤ length.nanos) :
    (endingAt stop length).start ≤ stop ∧
      ((endingAt stop length).start.inLeapSecond = false ∨
        (endingAt stop length).start.day = stop.day) := by
  by_cases inside : stop.inLeapSecond = true ∧ length.nanos < 1000000000
  · rw [endingAt_eq backward, Instant.minus?_eq_of_short inside.1 backward inside.2]
    cases found : Instant.ofParts? stop.day stop.second (stop.nano - length.nanos).toNat with
    | none => exact ⟨Instant.earliest_le stop, .inl rfl⟩
    | some t =>
        obtain ⟨day, second, nano⟩ := Instant.ofParts?_eq_some.mp found
        refine ⟨?_, .inr day⟩
        change t.rank ≤ stop.rank
        rw [Instant.rank, Instant.rank, Instant.epochSeconds, Instant.epochSeconds, day, second]
        omega
  · have leaves : stop.Leaves length :=
      ⟨backward, fun leap => Int.not_lt.mp fun short => inside ⟨leap, short⟩⟩
    exact ⟨start_le leaves, .inl (start_cases leaves).1⟩

theorem nanos_endingAt_nonneg (stop : Instant) (length : Elapsed) :
    0 ≤ (endingAt stop length).length.nanos := by
  rw [← endingAt_max]
  obtain ⟨ordered, still | sameDay⟩ :=
    start_still_or_same_day stop ⟨max length.nanos 0⟩ (Int.le_max_right _ _)
  all_goals
    by_contra negative
    have across := (Instant.nanos_since_neg_iff ordered).mp (Int.not_le.mp negative)
  · rw [across.inLeapSecond] at still
    cases still
  · have next := across.nextDay
    omega

/-- A span between two instants in order has no negative length, unless it leads across a leap second
at the end of a day; a span that looks back from its end never has. -/
theorem length_sign (start stop now : Instant) (length grid : Elapsed) :
    (∀ s, between? start stop = some s →
      (0 ≤ s.length.nanos ↔ ¬ Instant.AcrossLeap start stop) ∧
      (zero false ≤ s.seconds ↔
        ¬ (Instant.AcrossLeap start stop ∧ stop.nano % 1000000000 + 1001000000 ≤ start.nano)) ∧
      (Instant.AcrossLeap start stop →
        s.length.nanos = 1000000000 + stop.nano % 1000000000 - start.nano)) ∧
    (0 ≤ (endingAt stop length).length.nanos ∧ zero false ≤ (endingAt stop length).seconds) ∧
    0 ≤ (trailing now length grid).length.nanos ∧ zero false ≤ (trailing now length grid).seconds := by
  have lookback (stop : Instant) : 0 ≤ (endingAt stop length).length.nanos ∧
      zero false ≤ (endingAt stop length).seconds := by
    have forward := nanos_endingAt_nonneg stop length
    exact ⟨forward, zero_le_seconds_iff.mpr (millis_nonneg_iff.mpr (by omega))⟩
  refine ⟨?_, lookback stop, lookback (gridBoundary now grid.millis)⟩
  intro s between
  obtain ⟨ordered, rfl⟩ := between?_eq_some.mp between
  have sign : (Span.length ⟨start, stop⟩).nanos < 0 ↔ Instant.AcrossLeap start stop :=
    Instant.nanos_since_neg_iff ordered
  have exact (across : Instant.AcrossLeap start stop) :
      (Span.length ⟨start, stop⟩).nanos = 1000000000 + stop.nano % 1000000000 - start.nano :=
    across.nanos_since
  refine ⟨by rw [← sign, Int.not_lt], ?_, exact⟩
  rw [zero_le_seconds_iff, millis_nonneg_iff]
  by_cases across : Instant.AcrossLeap start stop
  · have short := exact across
    simp only [across, true_and]
    omega
  · have forward := Int.not_lt.mp (sign.not.mpr across)
    simp only [across, false_and, not_false_eq_true, iff_true]
    omega

/-- Half a second into the leap second at the end of 2016, with the next day ahead. -/
theorem half_second_before_midnight_negative :
    let leap : Instant := ⟨17166, 86399, 1500000000, by decide, by decide, by decide, by decide⟩
    let midnight : Instant := ⟨17167, 0, 0, by decide, by decide, by decide, by decide⟩
    Timestamp.parse? "2016-12-31T23:59:60.5Z" = some leap ∧
      Timestamp.parse? "2017-01-01T00:00:00Z" = some midnight ∧
      between? leap midnight = some ⟨leap, midnight⟩ ∧
      (Span.length ⟨leap, midnight⟩).nanos = -500000000 ∧ ¬ zero false ≤ seconds ⟨leap, midnight⟩ := by
  decide +kernel

/-- Half a millisecond is lost there, which is no whole one. -/
theorem half_millisecond_before_midnight :
    let leap : Instant := ⟨17166, 86399, 1000500000, by decide, by decide, by decide, by decide⟩
    let midnight : Instant := ⟨17167, 0, 0, by decide, by decide, by decide, by decide⟩
    between? leap midnight = some ⟨leap, midnight⟩ ∧ (Span.length ⟨leap, midnight⟩).nanos = -500000 ∧
      zero false ≤ seconds ⟨leap, midnight⟩ := by
  intro leap midnight
  have between : between? leap midnight = some ⟨leap, midnight⟩ := by decide
  obtain ⟨sign, -⟩ := length_sign leap midnight midnight Elapsed.zero Elapsed.zero
  obtain ⟨-, seconds, short⟩ := sign ⟨leap, midnight⟩ between
  refine ⟨between, short ⟨rfl, rfl, rfl, by decide⟩, seconds.mpr ?_⟩
  rintro ⟨-, whole⟩
  exact absurd whole (by decide)

end Span
end Telemetry
