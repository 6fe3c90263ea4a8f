import Mathlib.Algebra.Order.Ring.Nat
import Telemetry.Http.Settings

/-!
# Delays before repetitions

Each delay is the first one doubled once for every repetition before it, cut at the longest
delay.  No doubling overflows, and no delay is shorter than an earlier one.  The factor stops
just short of `2 ^ 32`: from the thirty-third repetition on a delay falls behind the doubled
one, unless there is no first delay or the longest one has been reached.
-/
set_option autoImplicit false
namespace Telemetry

namespace Duration

theorem nanos_min (a b : Duration) : (min a b).nanos = min a.nanos b.nanos := by
  change (if a.nanos ≤ b.nanos then a else b).nanos = min a.nanos b.nanos
  split
  · next shorter => exact (Nat.min_eq_left shorter).symm
  · next longer => exact (Nat.min_eq_right (Nat.le_of_not_le longer)).symm

/-- A multiple that is no duration is longer than every duration. -/
theorem nanos_times_min (d longest : Duration) (k : Nat) :
    (min ((d.times? k).getD longest) longest).nanos = min (d.nanos * k) longest.nanos := by
  rw [nanos_min, times?]
  split
  · rfl
  · next beyond =>
    have short := longest.nanos_lt
    rw [Option.getD_none, Nat.min_self, Nat.min_eq_right (by omega)]

end Duration

namespace Http.Settings
variable {attempt later : Nat}

theorem pow_le_of_early (early : attempt - 1 < 32) : 2 ^ (attempt - 1) ≤ 4294967295 := by
  have small : 2 ^ (attempt - 1) ≤ 2 ^ 31 :=
    Nat.pow_le_pow_right (by decide) (Nat.le_of_lt_succ early)
  exact Nat.le_trans small (by decide)

theorem lt_pow_of_late (late : 32 ≤ attempt - 1) : 4294967295 < 2 ^ (attempt - 1) := by
  have large : 2 ^ 32 ≤ 2 ^ (attempt - 1) := Nat.pow_le_pow_right (by decide) late
  exact Nat.lt_of_lt_of_le (by decide) large

theorem backoffFactor_eq (attempt : Nat) :
    backoffFactor attempt = min (2 ^ (attempt - 1)) 4294967295 := by
  rw [backoffFactor]
  split
  · next early => exact (Nat.min_eq_left (pow_le_of_early early)).symm
  · next late =>
    have beyond := lt_pow_of_late (Nat.not_lt.mp late)
    exact (Nat.min_eq_right (Nat.le_of_lt beyond)).symm

theorem backoffFactor_mono (order : attempt ≤ later) :
    backoffFactor attempt ≤ backoffFactor later := by
  have powers : 2 ^ (attempt - 1) ≤ 2 ^ (later - 1) :=
    Nat.pow_le_pow_right (by decide) (Nat.sub_le_sub_right order 1)
  rw [backoffFactor_eq, backoffFactor_eq]
  omega

theorem nanos_backoffDelay (s : Settings) (attempt : Nat) : (s.backoffDelay attempt).nanos =
    min (s.retryBackoff.nanos * backoffFactor attempt) s.maxBackoff.nanos :=
  Duration.nanos_times_min s.retryBackoff s.maxBackoff (backoffFactor attempt)

/-- Cutting the factor does not show where there is nothing to multiply, or where the cut multiple
has reached the longest delay already. -/
theorem min_mul_eq_iff {first factor cut longest : Nat} (shorter : cut < factor) :
    min (first * cut) longest = min (first * factor) longest ↔
      first = 0 ∨ longest ≤ first * cut := by
  have order : first * cut ≤ first * factor := Nat.mul_le_mul_left first (Nat.le_of_lt shorter)
  constructor
  · intro same
    by_contra apart
    obtain ⟨some, below⟩ := not_or.mp apart
    have strict : first * cut < first * factor :=
      Nat.mul_lt_mul_of_pos_left shorter (Nat.pos_of_ne_zero some)
    omega
  · rintro (rfl | reached)
    · rw [Nat.zero_mul, Nat.zero_mul]
    · omega

/-- The delay before a repetition: the first delay times a power of two that is cut below `2 ^ 32`,
cut at the longest delay in its turn, and when that is the documented doubling. -/
theorem backoff_doubles (s : Settings) (first : 1 ≤ attempt) :
    (s.backoffDelay attempt).nanos =
        min (s.retryBackoff.nanos * min (2 ^ (attempt - 1)) 4294967295) s.maxBackoff.nanos ∧
      ((s.backoffDelay attempt).nanos =
          min (s.retryBackoff.nanos * 2 ^ (attempt - 1)) s.maxBackoff.nanos ↔
        attempt ≤ 32 ∨ s.retryBackoff.nanos = 0 ∨
          s.maxBackoff.nanos ≤ s.retryBackoff.nanos * 4294967295) ∧
      s.backoffDelay attempt ≤ s.maxBackoff ∧
      ∀ later, attempt ≤ later → s.backoffDelay attempt ≤ s.backoffDelay later := by
  have exact : (s.backoffDelay attempt).nanos =
      min (s.retryBackoff.nanos * min (2 ^ (attempt - 1)) 4294967295) s.maxBackoff.nanos := by
    rw [nanos_backoffDelay, backoffFactor_eq]
  refine ⟨exact, ?_, ?_, ?_⟩
  · rw [exact]
    rcases Nat.lt_or_ge 32 attempt with late | early
    · have beyond : 4294967295 < 2 ^ (attempt - 1) := lt_pow_of_late (by omega)
      rw [Nat.min_eq_right (Nat.le_of_lt beyond), min_mul_eq_iff beyond]
      exact ⟨.inr, fun reached => reached.resolve_left (Nat.not_le.mpr late)⟩
    · rw [Nat.min_eq_left (pow_le_of_early (by omega))]
      exact ⟨fun _ => .inl early, fun _ => rfl⟩
  · change (s.backoffDelay attempt).nanos ≤ s.maxBackoff.nanos
    rw [exact]
    exact Nat.min_le_right _ _
  · intro later order
    change (s.backoffDelay attempt).nanos ≤ (s.backoffDelay later).nanos
    have longer := Nat.mul_le_mul_left s.retryBackoff.nanos (backoffFactor_mono order)
    rw [nanos_backoffDelay, nanos_backoffDelay]
    omega

/-- A nanosecond doubled thirty-two times is missed by one. -/
theorem doubled_nanosecond_missed :
    let s := { standard "http://registry" with
      retryBackoff := Duration.ofNanos 1, maxBackoff := Duration.ofSeconds 10 }
    (s.backoffDelay 33).nanos = 4294967295 ∧
      min (s.retryBackoff.nanos * 2 ^ 32) s.maxBackoff.nanos = 4294967296 := by
  decide

/-- Two hundred milliseconds have passed five seconds long before the factor is cut. -/
theorem standard_delays_doubled :
    let s := standard "http://registry"
    (s.backoffDelay 5).nanos = 3200000000 ∧ (s.backoffDelay 40).nanos = 5000000000 ∧
      (s.backoffDelay 40).nanos = min (s.retryBackoff.nanos * 2 ^ 39) s.maxBackoff.nanos ∧
      s.backoffDelay 5 ≤ s.backoffDelay 40 := by
  intro s
  obtain ⟨fifth, -, -, longer⟩ := backoff_doubles s (by decide : 1 ≤ 5)
  obtain ⟨fortieth, doubled, -⟩ := backoff_doubles s (by decide : 1 ≤ 40)
  have capped : s.maxBackoff.nanos ≤ s.retryBackoff.nanos * 4294967295 := by decide
  exact ⟨fifth.trans (by decide), fortieth.trans (by decide), doubled.mpr (.inr (.inr capped)),
    longer 40 (by decide)⟩

end Http.Settings
end Telemetry
