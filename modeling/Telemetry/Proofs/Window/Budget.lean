import Mathlib.Algebra.Order.Floor.Div
import Telemetry.Proofs.Time.Length
import Telemetry.Proofs.Window.Settings

/-!
# The bucket budget

The number of buckets of a resolution is computed in binary64, from milliseconds
over seconds, in two divisions.  As long as the milliseconds are a binary64
number, comparing it with a whole number is comparing the milliseconds with that
many buckets, so that a query is refused exactly when it has more buckets than
the budget.  Beyond that the milliseconds are rounded, but never past a whole
number of buckets: no resolution exceeds its budget, and none within it is
refused.
-/
set_option autoImplicit false
namespace Telemetry
open Binary64

namespace Binary64
variable {m : Nat} {x : Binary64}

theorem ofInt_natCast (m : Nat) : ofInt m = ofNat m := by
  have sign : decide ((m : Int) < 0) = false := decide_eq_false (by omega)
  rw [ofInt, ofNat, sign, Int.natAbs_natCast]

/-- A thousand is even, so the thousands have one binary digit to spare. -/
theorem exact_thousands (bound : m * 1000 < 2 ^ 54) : Exact (m * 1000) := by
  have even : m * 1000 = m * 500 * 2 := by omega
  rw [even]
  exact exact_double (by omega)

theorem ofNat_lt_iff (number : x.isNaN = false) :
    ofNat m < x ↔ x.negative = false ∧ (ofNat m).position < x.position := by
  have number' : (ofNat m).isNaN = false := isNaN_round
  have place : (ofNat m).place = (ofNat m).position := rfl
  change (ofNat m).lt x = true ↔ _
  rw [lt, number, number', place]
  generalize (ofNat m).position = a
  obtain ⟨_ | _, p, bound⟩ := x
  · simp [Binary64.place]
  · simp [Binary64.place]

end Binary64

theorem Bucket.seconds_bounds (b : Bucket) : 0 < b.seconds ∧ b.seconds ≤ 604800 := by
  cases b <;> decide

theorem Bucket.millis_eq (b : Bucket) : b.millis = b.seconds * 1000 := rfl

theorem Bucket.millis_pos (b : Bucket) : 0 < b.millis := Nat.mul_pos b.seconds_bounds.1 (by decide)

theorem Bucket.exact_seconds (b : Bucket) : Exact b.seconds :=
  exact_of_le (Nat.le_trans b.seconds_bounds.2 (by omega))

/-! ## Comparing the demand with a whole number -/

namespace Resolution
variable {r : Resolution} {a n : Nat}

theorem demand_eq (r : Resolution) : r.demand = round (r.span.millis < 0)
    (units r.span.seconds.position * one) (r.bucket.seconds * one) := by
  have sign : r.span.seconds.negative = decide (r.span.millis < 0) := by
    rw [Span.seconds, div_ofNat r.span.finite_millis (by omega) (exact_of_le (by omega))]
    rfl
  rw [demand, div_ofNat r.span.finite_seconds r.bucket.seconds_bounds.1 r.bucket.exact_seconds, sign]

theorem isNaN_demand (r : Resolution) : r.demand.isNaN = false := by
  rw [demand_eq]
  exact isNaN_round

theorem negative_demand (r : Resolution) : r.demand.negative = decide (r.span.millis < 0) := by
  rw [demand_eq]
  rfl

theorem finite_demand (r : Resolution) : r.demand.position < infinityPosition :=
  Nat.lt_of_le_of_lt (position_div_le r.span.finite_seconds r.bucket.seconds_bounds.1
    r.bucket.exact_seconds) r.span.finite_seconds

theorem seconds_eq (span : r.span.millis = a) : r.span.seconds = ofNat a / ofNat 1000 := by
  rw [Span.seconds, span, ofInt_natCast]

/-- A whole number of seconds is not passed by rounding fewer milliseconds. -/
theorem units_millis_le (bound : a < 2 ^ 54) (within : a ≤ n * 1000) :
    units (ofNat a).position ≤ n * 1000 * one := by
  rcases Nat.lt_or_ge (n * 1000) (2 ^ 54) with small | large
  · rw [← (exact_thousands small).units_ofNat]
    exact units_strictMono.monotone (position_ofNat_mono within)
  · have exact : Exact (2 ^ 53 * 2) := exact_double (Nat.le_refl _)
    calc units (ofNat a).position ≤ units (ofNat (2 ^ 53 * 2)).position :=
          units_strictMono.monotone (position_ofNat_mono (Nat.le_of_lt bound))
      _ = 2 ^ 53 * 2 * one := exact.units_ofNat
      _ ≤ n * 1000 * one := Nat.mul_le_mul_right one large

theorem units_demand_le (seconds : r.span.seconds = ofNat a / ofNat 1000) (bound : a < 2 ^ 54)
    (exact : n ≤ 2 ^ 53) (within : a ≤ n * r.bucket.millis) :
    units r.demand.position ≤ n * one := by
  -- as many seconds as the buckets have, unless these are more than are needed
  have covered : a ≤ min (n * r.bucket.seconds) (2 ^ 53) * 1000 := by
    rw [Bucket.millis_eq, ← Nat.mul_assoc] at within
    rcases Nat.le_total (n * r.bucket.seconds) (2 ^ 53) with few | many
    · rwa [Nat.min_eq_left few]
    · rw [Nat.min_eq_right many]
      exact Nat.le_trans (Nat.le_of_lt bound) (by decide)
  have least : units r.span.seconds.position ≤ min (n * r.bucket.seconds) (2 ^ 53) * one := by
    rw [seconds]
    apply units_div_le (finite_ofNat (by omega)) (by omega) (exact_of_le (by omega))
      (exact_of_le (Nat.min_le_right _ _))
    exact units_millis_le bound covered
  apply units_div_le r.span.finite_seconds r.bucket.seconds_bounds.1 r.bucket.exact_seconds
    (exact_of_le exact)
  exact Nat.le_trans least (Nat.mul_le_mul_right one (Nat.min_le_left _ _))

theorem lt_units_demand (seconds : r.span.seconds = ofNat a / ofNat 1000) (exactMillis : a ≤ 2 ^ 53)
    (positive : 0 < n) (beyond : n * r.bucket.millis < a) : n * one < units r.demand.position := by
  have whole := exact_of_le exactMillis
  have bucket := r.bucket.seconds_bounds.1
  rw [Bucket.millis_eq, ← Nat.mul_assoc] at beyond
  have product : n * r.bucket.seconds ≤ 2 ^ 53 := by omega
  have count : n ≤ n * r.bucket.seconds := Nat.le_mul_of_pos_right n bucket
  have exact : Exact n := exact_of_le (by omega)
  have more : n * r.bucket.seconds * one < units r.span.seconds.position := by
    rw [seconds]
    apply lt_units_div whole.finite (by omega) (exact_of_le (by omega)) (exact_of_le product)
      (Nat.mul_pos positive bucket) (exact_of_le (by omega))
    rw [whole.units_ofNat]
    exact Nat.mul_lt_mul_of_pos_right beyond Binary64.one_pos
  exact lt_units_div r.span.finite_seconds bucket r.bucket.exact_seconds exact positive
    (exact_of_le product) more

theorem le_units_demand (seconds : r.span.seconds = ofNat a / ofNat 1000) (bound : a < 2 ^ 54)
    (within : n * r.bucket.millis ≤ a) : n * one ≤ units r.demand.position := by
  have bucket := r.bucket.seconds_bounds.1
  rw [Bucket.millis_eq, ← Nat.mul_assoc] at within
  have count : n ≤ n * r.bucket.seconds := Nat.le_mul_of_pos_right n bucket
  have exact : Exact n := exact_of_le (by omega)
  have least : n * r.bucket.seconds * one ≤ units r.span.seconds.position := by
    rw [seconds]
    apply le_units_div (finite_ofNat (by omega)) (by omega) (exact_of_le (by omega))
      (exact_of_le (by omega))
    have exactMillis := exact_thousands (Nat.lt_of_le_of_lt within bound)
    rw [← exactMillis.units_ofNat]
    exact units_strictMono.monotone (position_ofNat_mono within)
  exact le_units_div r.span.finite_seconds bucket r.bucket.exact_seconds exact least

/-- The buckets that cover the span. -/
def needed (p : Resolution) : Nat := p.span.millis.toNat ⌈/⌉ p.bucket.millis

theorem needed_le_iff (span : r.span.millis = a) : r.needed ≤ n ↔ a ≤ n * r.bucket.millis := by
  rw [needed, span, Int.toNat_natCast, ceilDiv_le_iff_le_mul r.bucket.millis_pos, Nat.mul_comm]

theorem needed_le (span : r.span.millis = a) : r.needed ≤ a := by
  rw [needed_le_iff span]
  exact Nat.le_mul_of_pos_right a r.bucket.millis_pos

theorem ceil_units (u : Nat) : (u + (one - 1)) / one = u ⌈/⌉ one := by
  rw [Nat.ceilDiv_eq_add_pred_div, Nat.add_sub_assoc Binary64.one_pos]

theorem ceil_units_demand (span : r.span.millis = a) (exactMillis : a ≤ 2 ^ 53)
    (several : r.bucket.millis < a) : units r.demand.position ⌈/⌉ one = r.needed := by
  have seconds := seconds_eq span
  have ceil_le (n : Nat) : units r.demand.position ⌈/⌉ one ≤ n ↔ units r.demand.position ≤ n * one := by
    rw [ceilDiv_le_iff_le_mul Binary64.one_pos, Nat.mul_comm]
  have covered : a ≤ r.needed * r.bucket.millis := (needed_le_iff span).mp (Nat.le_refl _)
  apply Nat.le_antisymm
  · rw [ceil_le]
    exact units_demand_le seconds (by omega) (Nat.le_trans (needed_le span) exactMillis) covered
  · rw [needed_le_iff span]
    by_contra more
    rw [Nat.not_le] at more
    have positive : 0 < units r.demand.position ⌈/⌉ one := by
      by_contra none
      have one_lt : 1 * one < units r.demand.position :=
        lt_units_demand seconds exactMillis Nat.one_pos (by omega)
      have := (ceil_le 0).mp (by omega)
      omega
    have beyond := lt_units_demand seconds exactMillis positive more
    exact Nat.not_le_of_lt beyond ((ceil_le _).mp (Nat.le_refl _))

theorem ceilNat_demand {limit : Nat} (span : r.span.millis = a) (exactMillis : a ≤ 2 ^ 53)
    (several : r.bucket.millis < a) (room : r.needed ≤ limit) :
    r.demand.ceilNat limit = r.needed := by
  have sign : r.demand.negative = false := by
    rw [negative_demand, span]
    exact decide_eq_false (by omega)
  have finite : r.demand.isInfinite = false := beq_eq_false_iff_ne.mpr (Nat.ne_of_lt r.finite_demand)
  simp [Binary64.ceilNat, isNaN_demand, sign, finite, ceil_units,
    ceil_units_demand span exactMillis several, Nat.min_eq_left room]

end Resolution

namespace Resolver
variable {r : Resolver} {p : Resolution} {a : Nat}

theorem tooFine_iff : r.tooFine p ↔ 0 ≤ p.span.millis ∧
    (Binary64.ofNat r.settings.maxBuckets.toNat).position < p.demand.position := by
  rw [tooFine, decide_eq_true_eq, ofNat_lt_iff p.isNaN_demand, p.negative_demand,
    decide_eq_false_iff_not, Int.not_lt]

theorem not_tooFine (within : p.span.millis ≤ r.settings.maxBuckets.toNat * p.bucket.millis) :
    ¬ r.tooFine p := by
  rw [tooFine_iff]
  rintro ⟨sign, beyond⟩
  obtain ⟨a, span⟩ := Int.eq_ofNat_of_zero_le sign
  have bound := Span.lt_of_millis span
  -- a budget of more buckets than there are milliseconds might not be a binary64 number
  let enough := min r.settings.maxBuckets.toNat (2 ^ 53)
  have exact : Exact enough := exact_of_le (Nat.min_le_right _ _)
  have covered : a ≤ enough * p.bucket.millis := by
    rw [span] at within
    rcases Nat.le_total r.settings.maxBuckets.toNat (2 ^ 53) with few | many
    · rw [show enough = _ from Nat.min_eq_left few]
      exact_mod_cast within
    · rw [show enough = _ from Nat.min_eq_right many, Bucket.millis_eq]
      have seconds := p.bucket.seconds_bounds.1
      omega
  have least : units p.demand.position ≤ enough * one :=
    Resolution.units_demand_le (Resolution.seconds_eq span) bound (Nat.min_le_right _ _) covered
  rw [← exact.units_ofNat, units_strictMono.le_iff_le] at least
  have budget : (Binary64.ofNat enough).position ≤
      (Binary64.ofNat r.settings.maxBuckets.toNat).position :=
    position_ofNat_mono (Nat.min_le_left _ _)
  omega

theorem tooFine_of_lt (span : p.span.millis = a) (exactMillis : a ≤ 2 ^ 53)
    (positive : 0 < r.settings.maxBuckets.toNat)
    (beyond : r.settings.maxBuckets.toNat * p.bucket.millis < a) : r.tooFine p := by
  have count : r.settings.maxBuckets.toNat ≤ r.settings.maxBuckets.toNat * p.bucket.millis :=
    Nat.le_mul_of_pos_right _ p.bucket.millis_pos
  have exact : Exact r.settings.maxBuckets.toNat := exact_of_le (by omega)
  have more := Resolution.lt_units_demand (Resolution.seconds_eq span) exactMillis positive beyond
  rw [← exact.units_ofNat, units_strictMono.lt_iff_lt] at more
  rw [tooFine_iff, span]
  exact ⟨Int.natCast_nonneg a, more⟩

theorem tooFine_of_covered (span : p.span.millis = a)
    (covered : (r.settings.maxBuckets.toNat + 1) * p.bucket.millis ≤ a) : r.tooFine p := by
  have bound := Span.lt_of_millis span
  have count : r.settings.maxBuckets.toNat + 1 ≤ (r.settings.maxBuckets.toNat + 1) * p.bucket.millis :=
    Nat.le_mul_of_pos_right _ p.bucket.millis_pos
  have thousands : (r.settings.maxBuckets.toNat + 1) * 1000 ≤
      (r.settings.maxBuckets.toNat + 1) * p.bucket.millis :=
    Nat.mul_le_mul_left _ (Nat.le_mul_of_pos_left 1000 p.bucket.seconds_bounds.1)
  have exact : Exact r.settings.maxBuckets.toNat := exact_of_le (by omega)
  have least := Resolution.le_units_demand (Resolution.seconds_eq span) bound covered
  have more : units (Binary64.ofNat r.settings.maxBuckets.toNat).position <
      units p.demand.position := by
    rw [exact.units_ofNat]
    exact Nat.lt_of_lt_of_le (Nat.mul_lt_mul_of_pos_right (Nat.lt_succ_self _) Binary64.one_pos) least
  rw [tooFine_iff, span]
  exact ⟨Int.natCast_nonneg a, units_strictMono.lt_iff_lt.mp more⟩

theorem bucketCount_le (accepted : ¬ r.tooFine p) :
    p.bucketCount ≤ r.settings.maxBuckets.toNat := by
  by_contra more
  rw [Nat.not_le, Resolution.bucketCount, ← Nat.succ_le_iff,
    Nat.le_div_iff_mul_le p.bucket.millis_pos] at more
  have product := Nat.mul_pos (Nat.succ_pos r.settings.maxBuckets.toNat) p.bucket.millis_pos
  obtain ⟨a, span⟩ := Int.eq_ofNat_of_zero_le (by omega : 0 ≤ p.span.millis)
  rw [span, Int.toNat_natCast] at more
  exact accepted (tooFine_of_covered span more)

theorem ofSettings_ok {settings : WindowSettings} (accepted : ofSettings settings = .ok r) :
    r.settings = settings ∧ 0 < settings.maxBuckets.toNat := by
  obtain ⟨valid, rfl⟩ := ofSettings_eq_ok.mp accepted
  exact ⟨rfl, Nat.lt_of_lt_of_le valid.count_pos valid.count_le⟩

theorem exists_millis {n b : Nat} {m : Int} (beyond : n * b < m) : ∃ a : Nat, m = a ∧ n * b < a := by
  have product : (0 : Int) ≤ n * b := Int.mul_nonneg (Int.natCast_nonneg n) (Int.natCast_nonneg b)
  obtain ⟨a, rfl⟩ := Int.eq_ofNat_of_zero_le (Int.le_of_lt (Int.lt_of_le_of_lt product beyond))
  exact ⟨a, rfl, by exact_mod_cast beyond⟩

theorem exists_propose {start stop : Option Instant} {bucket : Option Bucket} {now : Instant}
    (ordered : ∀ s, start = some s → s ≤ stop.getD now) :
    ∃ p, r.propose start stop bucket now = .ok p := by
  cases start with
  | none => cases bucket <;> exact ⟨_, rfl⟩
  | some s =>
      have order : ¬ stop.getD now < s := Int.not_lt.mpr (ordered s rfl)
      simp [propose, spanFor, Span.between?, order, Except.map]

theorem resolve_of_propose {start stop : Option Instant} {bucket : Option Bucket} {now : Instant}
    (proposed : r.propose start stop bucket now = .ok p) : r.resolve start stop bucket now =
      if r.tooFine p then .error (.resolutionTooFine (p.demand.ceilNat 18446744073709551615)
        r.settings.maxBuckets.toNat)
      else .ok p := by
  rw [resolve, proposed]

theorem resolve_exact {settings : WindowSettings} (accepted : ofSettings settings = .ok r)
    (start stop : Option Instant) (bucket : Option Bucket) (now : Instant)
    (ordered : ∀ s, start = some s → s ≤ stop.getD now) :
    ∃ p, r.propose start stop bucket now = .ok p ∧
      (p.span.millis ≤ 2 ^ 53 → r.resolve start stop bucket now =
        if p.span.millis ≤ settings.maxBuckets.toNat * p.bucket.millis then .ok p
        else .error (.resolutionTooFine p.needed settings.maxBuckets.toNat)) ∧
      (settings.maxBuckets.toNat * p.bucket.millis < p.span.millis →
        settings.maxBuckets.toNat < p.needed) ∧
      ∀ q, r.resolve start stop bucket now = .ok q → q.bucketCount ≤ settings.maxBuckets.toNat := by
  obtain ⟨same, positive⟩ := ofSettings_ok accepted
  subst same
  obtain ⟨p, proposed⟩ := exists_propose ordered
  refine ⟨p, proposed, ?decision, ?beyond, ?within⟩
  case decision =>
    intro exactMillis
    rw [resolve_of_propose proposed]
    split_ifs with fine fits fits
    · exact absurd fine (not_tooFine fits)
    · obtain ⟨a, span, beyond⟩ := exists_millis (Int.not_le.mp fits)
      have several : p.bucket.millis < a :=
        Nat.lt_of_le_of_lt (Nat.le_mul_of_pos_left _ positive) beyond
      rw [span] at exactMillis
      have room : p.needed ≤ a := Resolution.needed_le span
      rw [Resolution.ceilNat_demand span (by omega) several (by omega)]
    · rfl
    · obtain ⟨a, span, beyond⟩ := exists_millis (Int.not_le.mp fits)
      exact absurd (tooFine_of_lt span (by omega) positive beyond) fine
  case beyond =>
    intro beyond
    obtain ⟨a, span, beyond⟩ := exists_millis beyond
    rw [← Nat.not_le, Resolution.needed_le_iff span, Nat.not_le]
    exact beyond
  case within =>
    intro q resolved
    rw [resolve_of_propose proposed] at resolved
    split_ifs at resolved with fine
    cases resolved
    exact bucketCount_le fine

/-- A day of hours, and a millisecond more, at a budget of 24 buckets. -/
theorem day_and_milli_refused :
    let settings : WindowSettings := ⟨12, 24, 365, Bucket.all⟩
    let start : Instant := ⟨0, 0, 0, by decide, by decide, by decide, by decide⟩
    let stop : Instant := ⟨1, 0, 1000000, by decide, by decide, by decide, by decide⟩
    ofSettings settings = .ok ⟨settings, Bucket.all⟩ ∧ start ≤ stop ∧
      resolve ⟨settings, Bucket.all⟩ (some start) none (some .oneHour) stop =
        .error (.resolutionTooFine 25 24) := by
  intro settings start stop
  have accepted : ofSettings settings = .ok ⟨settings, Bucket.all⟩ := by decide +kernel
  have ordered : start ≤ stop := by decide
  refine ⟨accepted, ordered, ?_⟩
  obtain ⟨p, proposed, decision, _⟩ := resolve_exact accepted (some start) none (some .oneHour) stop
    (fun s given => Option.some.inj given ▸ ordered)
  have asked : propose ⟨settings, Bucket.all⟩ (some start) none (some .oneHour) stop =
      .ok ⟨⟨start, stop⟩, .oneHour⟩ := by decide +kernel
  obtain rfl : p = ⟨⟨start, stop⟩, .oneHour⟩ := Except.ok.inj (proposed.symm.trans asked)
  rw [decision (by decide +kernel)]
  decide +kernel

end Resolver

end Telemetry
