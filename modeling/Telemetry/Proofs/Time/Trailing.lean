import Mathlib.Algebra.Ring.Int.Defs
import Mathlib.Algebra.Ring.Nat
import Telemetry.Proofs.Time.Lookback
import Telemetry.Settings.Basic

/-!
# The trailing window

Outside leap seconds the window of a monitor ends at the last boundary of its grid, the
boundaries being counted from 1970-01-01 in both directions, or at the time of the query
where the calendar does not reach that boundary.  It starts one window length earlier, or at
the earliest instant.  A later query never has an earlier end.
-/
set_option autoImplicit false
namespace Telemetry
open Calendar

namespace Elapsed

theorem millis_ofDuration (d : Duration) :
    (ofDuration d).millis = min (d.millis : Int) 9223372036854775807 := by
  have forward : 0 ≤ (ofDuration d).nanos := Int.le_min.mpr ⟨Int.natCast_nonneg _, by decide⟩
  rw [millis, Int.tdiv_eq_ediv_of_nonneg forward, ofDuration, Duration.millis, nanosPerMilli, longest]
  dsimp only
  omega

end Elapsed

namespace Instant
variable {a b t now later : Instant} {grid : Int}

theorem epochMillis_eq (t : Instant) : t.epochMillis = t.epochNanos / 1000000 := by
  rw [epochMillis, epochNanos]
  omega

theorem ofEpochMillis?_eq (ms : Int) : ofEpochMillis? ms = ofEpochNanos? (ms * 1000000) := by
  have seconds : ms * 1000000 / 1000000000 = ms / 1000 := by omega
  have rest : (ms * 1000000 % 1000000000).toNat = (ms % 1000).toNat * 1000000 := by omega
  rw [ofEpochMillis?, ofEpochNanos?, seconds, rest]

theorem le_iff_epochNanos (still : a.inLeapSecond = false) (still' : b.inLeapSecond = false) :
    a ≤ b ↔ a.epochNanos ≤ b.epochNanos := by
  rw [inLeapSecond_eq_false] at still still'
  change a.rank ≤ b.rank ↔ _
  rw [rank, rank, epochNanos, epochNanos]
  omega

/-! ## Boundaries of a grid -/

/-- A whole number of grid cells of so many milliseconds from 1970-01-01, and the time is in the cell
that begins with it.  A leap second has no milliseconds of its own: it shares those of the second
that follows. -/
structure IsBoundary (grid : Int) (now t : Instant) : Prop where
  still : t.inLeapSecond = false
  whole : t.nano % 1000000 = 0
  divides : grid ∣ t.epochMillis
  le_now : t ≤ now
  now_lt : now.epochNanos < t.epochNanos + grid * 1000000

theorem epochNanos_of_whole (whole : t.nano % 1000000 = 0) :
    t.epochNanos = t.epochMillis * 1000000 := by
  rw [epochMillis, epochNanos]
  omega

section Grid
variable (positive : 0 < grid) (still : now.inLeapSecond = false)
include positive still

theorem isBoundary_iff : IsBoundary grid now t ↔
    ofEpochMillis? (now.epochMillis / grid * grid) = some t := by
  rw [ofEpochMillis?_eq, ofEpochNanos?_eq_some]
  have cell (k : Int) : now.epochMillis / grid = k ↔
      k * grid * 1000000 ≤ now.epochNanos ∧ now.epochNanos < k * grid * 1000000 + grid * 1000000 := by
    rw [Int.ediv_eq_iff_of_pos positive, epochMillis_eq]
    omega
  constructor
  · rintro ⟨outside, whole, ⟨k, multiple⟩, le_now, now_lt⟩
    refine ⟨outside, ?_⟩
    rw [le_iff_epochNanos outside still] at le_now
    rw [epochNanos_of_whole whole, multiple, Int.mul_comm grid k] at le_now now_lt ⊢
    rw [(cell k).mpr ⟨le_now, now_lt⟩]
  · rintro ⟨outside, reach⟩
    obtain ⟨le_now, now_lt⟩ := (cell (now.epochMillis / grid)).mp rfl
    have whole : t.nano % 1000000 = 0 := by
      rw [epochNanos] at reach
      omega
    refine ⟨outside, whole, ?_, (le_iff_epochNanos outside still).mpr (by omega), by omega⟩
    rw [epochNanos_of_whole whole] at reach
    exact ⟨now.epochMillis / grid, by rw [Int.mul_comm]; omega⟩

end Grid

/-- A boundary for a later time is one for every time from it on. -/
theorem IsBoundary.earlier (boundary : IsBoundary grid later t) (still : now.inLeapSecond = false)
    (still' : later.inLeapSecond = false) (order : now ≤ later) (reached : t ≤ now) :
    IsBoundary grid now t where
  still := boundary.still
  whole := boundary.whole
  divides := boundary.divides
  le_now := reached
  now_lt := Int.lt_of_le_of_lt ((le_iff_epochNanos still still').mp order) boundary.now_lt

/-! ## No overflow in 64 bits -/

theorem epochMillis_bounds (t : Instant) : t.epochMillis.natAbs < 2 ^ 54 := by
  have first := t.firstDay_le
  have last := t.le_lastDay
  have second := t.second_lt
  have nano := t.nano_lt
  simp only [firstDay, lastDay] at first last
  rw [epochMillis, epochSeconds]
  omega

/-- Neither the quotient nor the boundary itself leaves 64 bits, even one cell before 1970. -/
theorem natAbs_cell_lt (now : Instant) (positive : 0 < grid) (fits : grid < 2 ^ 63) :
    (now.epochMillis / grid).natAbs < 2 ^ 63 ∧ (now.epochMillis / grid * grid).natAbs < 2 ^ 63 := by
  have bound := now.epochMillis_bounds
  have quotient := Int.natAbs_ediv_le_natAbs now.epochMillis grid
  refine ⟨by omega, ?_⟩
  have below := Int.ediv_mul_le now.epochMillis (Int.ne_of_gt positive)
  have lower : -(2 ^ 63) < now.epochMillis / grid * grid := by
    rcases Int.lt_or_le grid (2 ^ 62) with small | large
    · have above := Int.lt_ediv_add_one_mul_self now.epochMillis positive
      rw [Int.add_mul, Int.one_mul] at above
      omega
    · have one : -1 ≤ now.epochMillis / grid := (Int.le_ediv_iff_mul_le positive).mpr (by omega)
      have cell := Int.mul_le_mul_of_nonneg_right one (Int.le_of_lt positive)
      omega
  omega

end Instant

namespace Span
variable {now later t : Instant} {grid : Int}

theorem gridBoundary_cases (still : now.inLeapSecond = false) :
    (0 < grid ∧ Instant.IsBoundary grid now (gridBoundary now grid)) ∨
      gridBoundary now grid = now ∧ ∀ t, 0 < grid → ¬ Instant.IsBoundary grid now t := by
  rw [gridBoundary]
  by_cases positive : 0 < grid
  · rw [if_pos positive]
    cases found : Instant.ofEpochMillis? (now.epochMillis / grid * grid) with
    | none =>
        refine .inr ⟨rfl, fun t _ boundary => ?_⟩
        rw [Instant.isBoundary_iff positive still, found] at boundary
        cases boundary
    | some t => exact .inl ⟨positive, (Instant.isBoundary_iff positive still).mpr found⟩
  · rw [if_neg positive]
    exact .inr ⟨rfl, fun t some => absurd some positive⟩

theorem gridBoundary_eq (still : now.inLeapSecond = false) (positive : 0 < grid)
    (boundary : Instant.IsBoundary grid now t) : gridBoundary now grid = t := by
  rw [Instant.isBoundary_iff positive still] at boundary
  rw [gridBoundary, if_pos positive, boundary, Option.getD_some]

theorem gridBoundary_eq_now (still : now.inLeapSecond = false)
    (none : ∀ t, 0 < grid → ¬ Instant.IsBoundary grid now t) : gridBoundary now grid = now := by
  rcases gridBoundary_cases still with ⟨positive, boundary⟩ | ⟨same, -⟩
  · exact absurd boundary (none _ positive)
  · exact same

theorem still_gridBoundary (still : now.inLeapSecond = false) :
    (gridBoundary now grid).inLeapSecond = false := by
  rcases gridBoundary_cases still with ⟨-, boundary⟩ | ⟨same, -⟩
  · exact boundary.still
  · rwa [same]

theorem gridBoundary_le (still : now.inLeapSecond = false) : gridBoundary now grid ≤ now := by
  rcases gridBoundary_cases still with ⟨-, boundary⟩ | ⟨same, -⟩
  · exact boundary.le_now
  · rw [same]
    exact Int.le_refl _

theorem gridBoundary_mono (still : now.inLeapSecond = false) (still' : later.inLeapSecond = false)
    (order : now ≤ later) : gridBoundary now grid ≤ gridBoundary later grid := by
  have reached : gridBoundary now grid ≤ now := gridBoundary_le still
  rcases gridBoundary_cases still' with ⟨positive, boundary⟩ | ⟨same, -⟩
  · rcases Int.le_total (gridBoundary later grid).rank now.rank with before | after
    · -- both times are in the same cell
      rw [gridBoundary_eq still positive (boundary.earlier still still' order before)]
      exact Int.le_refl _
    · exact Int.le_trans reached after
  · rw [same]
    exact Int.le_trans reached order

end Span

namespace MonitorSettings
variable {s : MonitorSettings} {now : Instant}

theorem windowAt_eq : s.windowAt now = Span.endingAt
    (Span.gridBoundary now (min s.grid.millis 9223372036854775807))
    (Elapsed.ofDuration s.windowLength) := by
  rw [windowAt, Span.trailing, Elapsed.millis_ofDuration]

/-- A length that is cut to the longest signed one leads to the earliest instant, as it would if it
were not cut. -/
theorem start_endingAt_ofDuration {stop : Instant} (still : stop.inLeapSecond = false)
    (length : Duration) :
    let start := (Span.endingAt stop (Elapsed.ofDuration length)).start
    start.inLeapSecond = false ∧ (start.epochNanos + length.nanos = stop.epochNanos ∨
      start = Instant.earliest ∧ stop.epochNanos < Instant.earliest.epochNanos + length.nanos) := by
  intro start
  have nanos : (Elapsed.ofDuration length).nanos = min (length.nanos : Int) (9223372036854775807 * 1000000) :=
    rfl
  have backward : 0 ≤ (Elapsed.ofDuration length).nanos := by omega
  obtain ⟨outside, reach⟩ := Span.start_cases (.of_still still backward)
  have first := start.epochMillis_bounds
  have last := stop.epochMillis_bounds
  rw [Instant.epochMillis_eq] at first last
  refine ⟨outside, ?_⟩
  rcases reach with reach | ⟨cut, short⟩
  · change start.epochNanos + _ = _ at reach
    left
    omega
  · right
    exact ⟨cut, by omega⟩

/-- The window at a time outside leap seconds, on a grid in whole milliseconds of up to 63 bits. -/
theorem trailing_window (s : MonitorSettings) (now : Instant) (still : now.inLeapSecond = false) :
    let grid : Int := min s.grid.millis (2 ^ 63 - 1)
    let window := s.windowAt now
    (0 < grid → (now.epochMillis / grid).natAbs < 2 ^ 63 ∧
      (now.epochMillis / grid * grid).natAbs < 2 ^ 63) ∧
    (∀ t, 0 < grid → Instant.IsBoundary grid now t → window.stop = t) ∧
    ((∀ t, 0 < grid → ¬ Instant.IsBoundary grid now t) → window.stop = now) ∧
    (window.start.inLeapSecond = false ∧
      (window.start.epochNanos + s.windowLength.nanos = window.stop.epochNanos ∨
        window.start = Instant.earliest ∧
          window.stop.epochNanos < Instant.earliest.epochNanos + s.windowLength.nanos)) ∧
    window.start ≤ window.stop ∧ window.stop ≤ now ∧
    ∀ later, later.inLeapSecond = false → now ≤ later → window.stop ≤ (s.windowAt later).stop := by
  intro grid window
  have fits : grid < 2 ^ 63 := by omega
  have stop (t : Instant) : (s.windowAt t).stop = Span.gridBoundary t grid := by
    rw [windowAt_eq]
    rfl
  have start : window.start =
      (Span.endingAt window.stop (Elapsed.ofDuration s.windowLength)).start := by
    rw [stop now]
    exact congrArg Span.start windowAt_eq
  have outside : window.stop.inLeapSecond = false := by
    rw [stop now]
    exact Span.still_gridBoundary still
  have backward : 0 ≤ (Elapsed.ofDuration s.windowLength).nanos :=
    Int.le_min.mpr ⟨Int.natCast_nonneg _, by decide⟩
  refine ⟨fun positive => now.natAbs_cell_lt positive fits, ?_, ?_, ?_, ?_, ?_, ?_⟩
  · intro t positive boundary
    rw [stop now, Span.gridBoundary_eq still positive boundary]
  · intro none
    rw [stop now, Span.gridBoundary_eq_now still none]
  · rw [start]
    exact start_endingAt_ofDuration outside s.windowLength
  · rw [start]
    exact Span.start_le (.of_still outside backward)
  · rw [stop now]
    exact Span.gridBoundary_le still
  · intro later still' order
    rw [stop now, stop later]
    exact Span.gridBoundary_mono still still' order

/-- Half a second before 1970, on a grid of seven seconds. -/
theorem window_before_1970 :
    let s : MonitorSettings := ⟨Duration.ofSeconds 60, Duration.ofSeconds 7⟩
    let now : Instant := ⟨-1, 86399, 500000000, by decide, by decide, by decide, by decide⟩
    let stop : Instant := ⟨-1, 86393, 0, by decide, by decide, by decide, by decide⟩
    now.inLeapSecond = false ∧ (s.windowAt now).stop = stop ∧
      (s.windowAt now).start ≤ (s.windowAt now).stop := by
  intro s now stop
  obtain ⟨-, boundary, -, -, ordered, -⟩ := trailing_window s now rfl
  refine ⟨rfl, boundary stop (by decide) ⟨rfl, rfl, ?_, by decide, by decide⟩, ordered⟩
  exact ⟨-1, by decide⟩

end MonitorSettings
end Telemetry
