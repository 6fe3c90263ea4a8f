import Telemetry.Proofs.Time.Lookback
import Telemetry.Proofs.Window.Derived

/-!
# Queries that name no bucket size

The size derived for a query is checked against the budget like one that was
asked for, and it is derived without regard to the budget.  It exceeds the budget
where every coarser size is far coarser, by the square of the budget over the
wanted number of buckets.  Where the configured sizes leave no such gap, a query
that names no size is refused only if the coarsest size exceeds the budget too.
-/
set_option autoImplicit false
namespace Telemetry

section Gap
variable {b c max count a : ℝ} (size : 0 < b) (size' : c ≤ 604800) (coarser : b + 1 ≤ c)
  (some : 0 < count) (enough : count ≤ max) (beyond : max * b < a)
  (near : |Real.log b - Real.log (a / count)| ≤ |Real.log c - Real.log (a / count)| + 1 / 10 ^ 7)
include size size' coarser some enough beyond near

theorem gap_of_near : 1000000 * (b * max ^ 2) < 1000001 * (c * count ^ 2) := by
  have positive : 0 < max := lt_of_lt_of_le some enough
  have positive' : 0 < c := by linarith
  have length : 0 < a := lt_trans (mul_pos positive size) beyond
  have sizes : 1 / 604800 ≤ Real.log c - Real.log b := by
    have quotient := Real.log_le_sub_one_of_pos (div_pos size positive')
    rw [Real.log_div (ne_of_gt size) (ne_of_gt positive')] at quotient
    have less : b / c ≤ 1 - 1 / 604800 := by
      rw [div_le_iff₀ positive']
      linarith
    linarith
  have above : Real.log max + Real.log b - Real.log count < Real.log (a / count) := by
    rw [← Real.log_mul (ne_of_gt positive) (ne_of_gt size),
      ← Real.log_div (ne_of_gt (mul_pos positive size)) (ne_of_gt some)]
    exact Real.log_lt_log (div_pos (mul_pos positive size) some) (div_lt_div_of_pos_right beyond some)
  have enough' : Real.log count ≤ Real.log max := Real.log_le_log some enough
  by_contra close
  rw [not_lt] at close
  have factor : Real.log c + 2 * Real.log count - (Real.log b + 2 * Real.log max) ≤ -(1 / 1000001) := by
    have square : 0 < b * max ^ 2 := by positivity
    have square' : 0 < c * count ^ 2 := by positivity
    have ratio : c * count ^ 2 / (b * max ^ 2) ≤ 1 - 1 / 1000001 := by
      rw [div_le_iff₀ square]
      linarith
    have quotient := Real.log_le_sub_one_of_pos (div_pos square' square)
    rw [Real.log_div (ne_of_gt square') (ne_of_gt square),
      Real.log_mul (ne_of_gt positive') (by positivity), Real.log_mul (ne_of_gt size) (by positivity),
      Real.log_pow, Real.log_pow] at quotient
    push_cast at quotient
    linarith
  have below : Real.log b < Real.log (a / count) := by linarith
  rw [abs_of_neg (sub_neg.mpr below)] at near
  rcases le_total (Real.log c) (Real.log (a / count)) with shorter | longer
  · -- both are too short, and the coarser one is the nearer
    rw [abs_of_nonpos (sub_nonpos.mpr shorter)] at near
    linarith
  · rw [abs_of_nonneg (sub_nonneg.mpr longer)] at near
    linarith

end Gap

namespace WindowSettings

/-- The second size is more than the square of the budget over the wanted number of buckets times as
long as the first, up to a part in a million. -/
def Gap (s : WindowSettings) (b c : Bucket) : Prop :=
  1000000 * (b.seconds * s.maxBuckets.toNat ^ 2) < 1000001 * (c.seconds * s.windowCount.toNat ^ 2)

/-- After each size but the coarsest there is one without a gap between them. -/
def Graded (s : WindowSettings) : Prop :=
  ∀ b ∈ s.bucketSizes, (∀ c ∈ s.bucketSizes, c.seconds ≤ b.seconds) ∨
    ∃ c ∈ s.bucketSizes, b.seconds < c.seconds ∧ ¬ s.Gap b c

instance (s : WindowSettings) (b c : Bucket) : Decidable (s.Gap b c) :=
  inferInstanceAs (Decidable (_ < _))

instance (s : WindowSettings) : Decidable s.Graded :=
  inferInstanceAs (Decidable (∀ b ∈ s.bucketSizes, _ ∨ _))

end WindowSettings

namespace Resolver
variable {r : Resolver} {settings : WindowSettings} {start stop : Option Instant} {now : Instant}
  {p : Resolution}

theorem spanFor_error {stop : Instant} {bucket : Option Bucket} {e : WindowError}
    (fault : r.spanFor start stop bucket = .error e) : ∃ s, e = .invalidRange s stop := by
  cases start with
  | none => cases bucket <;> cases fault
  | some s =>
      rw [spanFor] at fault
      cases ordered : Span.between? s stop with
      | none =>
          rw [ordered] at fault
          exact ⟨s, (Except.error.inj fault).symm⟩
      | some span =>
          rw [ordered] at fault
          cases fault

theorem resolve_tooFine {bucket : Option Bucket} {n m : Nat}
    (refused : r.resolve start stop bucket now = .error (.resolutionTooFine n m)) :
    ∃ p, r.propose start stop bucket now = .ok p ∧ r.tooFine p := by
  cases proposed : r.propose start stop bucket now with
  | error e =>
      rw [resolve, proposed] at refused
      cases spanned : r.spanFor start (stop.getD now) bucket with
      | error e' =>
          obtain ⟨s, rfl⟩ := spanFor_error spanned
          rw [propose, spanned] at proposed
          cases proposed
          cases refused
      | ok span =>
          rw [propose, spanned] at proposed
          cases proposed
  | ok p =>
      refine ⟨p, rfl, ?_⟩
      by_contra within
      rw [resolve_of_propose proposed, if_neg within] at refused
      cases refused

theorem map_eq_ok {ε α β : Type} {f : α → β} {x : Except ε α} {y : β} (done : x.map f = .ok y) :
    ∃ a, x = .ok a ∧ f a = y := by
  cases x with
  | error e => cases done
  | ok a => exact ⟨a, rfl, Except.ok.inj done⟩

theorem bucket_of_propose (proposed : r.propose start stop none now = .ok p) :
    p.bucket = r.deriveBucket p.span := by
  obtain ⟨span, -, made⟩ := map_eq_ok proposed
  rw [← made, Option.getD_none]

theorem span_of_propose (proposed : r.propose none stop none now = .ok p) : p.span =
    Span.endingAt (stop.getD now) (Elapsed.ofSeconds (r.settings.spanDays.toInt * 86400)) := by
  obtain ⟨span, spanned, made⟩ := map_eq_ok proposed
  rw [spanFor] at spanned
  rw [← made, ← Except.ok.inj spanned]

theorem lt_millis_of_tooFine (refused : r.tooFine p) :
    r.settings.maxBuckets.toNat * p.bucket.millis < p.span.millis :=
  Int.not_le.mp fun within => not_tooFine within refused

/-- Refused for the size derived, a query leaves a gap between it and every coarser size. -/
theorem gap_of_tooFine (accepted : ofSettings settings = .ok r) (refused : r.tooFine p)
    (derived : p.bucket = r.deriveBucket p.span) :
    ∀ c ∈ settings.bucketSizes, p.bucket.seconds < c.seconds → settings.Gap p.bucket c := by
  obtain ⟨valid, rfl⟩ := ofSettings_eq_ok.mp accepted
  intro c member coarser
  have listed := Bucket.mem_table.mpr member
  obtain ⟨a, length, beyond⟩ := exists_millis (lt_millis_of_tooFine refused)
  have positive : 0 < a := Nat.lt_of_le_of_lt (Nat.zero_le _) beyond
  have near := @deriveBucket_near ⟨settings, Bucket.table settings.bucketSizes⟩ p.span a
    (List.ne_nil_of_mem listed) positive length valid.count_pos c listed
  rw [← derived] at near
  have size : (0 : ℝ) < p.bucket.seconds := by exact_mod_cast p.bucket.seconds_bounds.1
  have size' : (c.seconds : ℝ) ≤ 604800 := by exact_mod_cast c.seconds_bounds.2
  have coarser' : (p.bucket.seconds : ℝ) + 1 ≤ c.seconds := by exact_mod_cast coarser
  have wanted : (0 : ℝ) < settings.windowCount.toNat := by exact_mod_cast valid.count_pos
  have enough : (settings.windowCount.toNat : ℝ) ≤ settings.maxBuckets.toNat := by
    exact_mod_cast valid.count_le
  have beyond' : (settings.maxBuckets.toNat : ℝ) * p.bucket.seconds < a / 1000 := by
    have real : (settings.maxBuckets.toNat : ℝ) * (p.bucket.seconds * 1000) < a := by
      exact_mod_cast beyond
    rw [lt_div_iff₀ (by norm_num)]
    linarith
  have gap := gap_of_near size size' coarser' wanted enough beyond' near
  exact_mod_cast gap

theorem exceeds_of_graded (accepted : ofSettings settings = .ok r) (graded : settings.Graded)
    (refused : r.tooFine p) (derived : p.bucket = r.deriveBucket p.span)
    (listed : p.bucket ∈ settings.bucketSizes) :
    ∀ c ∈ settings.bucketSizes, settings.maxBuckets.toNat * c.millis < p.span.millis := by
  have beyond := lt_millis_of_tooFine refused
  rw [(ofSettings_ok accepted).1] at beyond
  rcases graded p.bucket listed with coarsest | ⟨c, member, coarser, near⟩
  · intro c member
    refine lt_of_le_of_lt ?_ beyond
    have order : c.millis ≤ p.bucket.millis := Nat.mul_le_mul_right 1000 (coarsest c member)
    exact_mod_cast Nat.mul_le_mul_left settings.maxBuckets.toNat order
  · exact absurd (gap_of_tooFine accepted refused derived c member coarser) near

theorem millis_lookback_le {days : Int} (least : 1 ≤ days) (most : days ≤ 36500) (stop : Instant) :
    (Span.endingAt stop (Elapsed.ofSeconds (days * 86400))).millis ≤ days * 86400000 := by
  have exact : Elapsed.ofSeconds (days * 86400) = .ofMillis (days * 86400 * 1000) :=
    Elapsed.ofSeconds_eq (by omega)
  have long : 1000000000 ≤ (Elapsed.ofMillis (days * 86400 * 1000)).nanos := by
    change 1000000000 ≤ days * 86400 * 1000 * 1000000
    omega
  have cut := @Span.millis_endingAt_le stop _ long
  rw [Elapsed.millis_ofMillis] at cut
  rw [exact]
  omega

/-- A query that names no size is refused for too many buckets only if the size derived for it, a
configured one, exceeds the budget and leaves a gap to every coarser size. -/
theorem unasked_refused_only_at_gap (accepted : ofSettings settings = .ok r)
    (start stop : Option Instant) (now : Instant) :
    (∀ n m, r.resolve start stop none now = .error (.resolutionTooFine n m) →
      ∃ p, r.propose start stop none now = .ok p ∧ p.bucket ∈ settings.bucketSizes ∧
        settings.maxBuckets.toNat * p.bucket.millis < p.span.millis ∧
        (∀ c ∈ settings.bucketSizes, p.bucket.seconds < c.seconds → settings.Gap p.bucket c) ∧
        (settings.Graded →
          ∀ c ∈ settings.bucketSizes, settings.maxBuckets.toNat * c.millis < p.span.millis)) ∧
      (settings.Graded → (∃ c ∈ settings.bucketSizes,
          settings.spanDays.toInt * 86400000 ≤ settings.maxBuckets.toNat * c.millis) →
        ∃ p, r.resolve none stop none now = .ok p) := by
  obtain ⟨valid, made⟩ := ofSettings_eq_ok.mp accepted
  have derived (p : Resolution) : p.bucket = r.deriveBucket p.span → p.bucket ∈ settings.bucketSizes := by
    intro derived
    obtain ⟨c, member⟩ := List.exists_mem_of_ne_nil _ valid.sizes_ne
    have nonempty : r.table ≠ [] := by
      rw [made]
      exact List.ne_nil_of_mem (Bucket.mem_table.mpr member)
    have listed := @deriveBucket_mem r p.span nonempty
    rw [← derived, made] at listed
    exact Bucket.mem_table.mp listed
  constructor
  · intro n m refused
    obtain ⟨p, proposed, fine⟩ := resolve_tooFine refused
    have bucket := bucket_of_propose proposed
    have beyond := lt_millis_of_tooFine fine
    rw [(ofSettings_ok accepted).1] at beyond
    exact ⟨p, proposed, derived p bucket, beyond, gap_of_tooFine accepted fine bucket,
      fun graded => exceeds_of_graded accepted graded fine bucket (derived p bucket)⟩
  · rintro graded ⟨c, member, fits⟩
    obtain ⟨p, proposed⟩ := @exists_propose r none stop none now (by simp)
    have bucket := bucket_of_propose proposed
    refine ⟨p, ?_⟩
    rw [resolve_of_propose proposed, if_neg]
    intro fine
    have beyond := exceeds_of_graded accepted graded fine bucket (derived p bucket) c member
    have within := millis_lookback_le valid.days_pos valid.days_le (stop.getD now)
    rw [span_of_propose proposed, (ofSettings_ok accepted).1] at beyond
    omega

/-- A day at a hundred buckets is nearest to ten seconds, of which it has 8640, though a week would
do. -/
theorem unasked_refused_though_weeks_fit :
    let settings : WindowSettings := ⟨100, 1000, 1, [.tenSeconds, .oneWeek]⟩
    let noon : Instant := ⟨0, 43200, 0, by decide, by decide, by decide, by decide⟩
    ofSettings settings = .ok ⟨settings, [.tenSeconds, .oneWeek]⟩ ∧
      resolve ⟨settings, [.tenSeconds, .oneWeek]⟩ none none none noon =
        .error (.resolutionTooFine 8640 1000) ∧
      (Span.endingAt noon (Elapsed.ofSeconds 86400)).millis ≤ 1000 * Bucket.oneWeek.millis := by
  decide +kernel

theorem century_of_weeks_refused :
    let noon : Instant := ⟨0, 43200, 0, by decide, by decide, by decide, by decide⟩
    let start : Instant := ⟨-36500, 43200, 0, by decide, by decide, by decide, by decide⟩
    (∃ p, standard.resolve none none none noon = .ok p) ∧
      standard.resolve (some start) none none noon = .error (.resolutionTooFine 5215 1000) ∧
      ∃ p, standard.propose (some start) none none noon = .ok p ∧
        ∀ c ∈ Bucket.all, 1000 * c.millis < p.span.millis := by
  intro noon start
  have accepted : ofSettings WindowSettings.standard = .ok standard := by decide +kernel
  have graded : WindowSettings.standard.Graded := by decide +kernel
  have fits : ∃ c ∈ WindowSettings.standard.bucketSizes, WindowSettings.standard.spanDays.toInt *
      86400000 ≤ WindowSettings.standard.maxBuckets.toNat * c.millis := by decide +kernel
  have refused : standard.resolve (some start) none none noon = .error (.resolutionTooFine 5215 1000) := by
    decide +kernel
  obtain ⟨gaps, -⟩ := unasked_refused_only_at_gap accepted (some start) none noon
  obtain ⟨-, answered⟩ := unasked_refused_only_at_gap accepted none none noon
  obtain ⟨p, proposed, -, -, -, beyond⟩ := gaps 5215 1000 refused
  exact ⟨answered graded fits, refused, p, proposed, beyond graded⟩

end Resolver
end Telemetry
