import Telemetry.Proofs.Binary64.Logarithm
import Telemetry.Proofs.Window.Budget
import Telemetry.Proofs.Window.Nearest

/-!
# The derived bucket size

Of the sizes in the table, the one derived for a span is nearest, as computed, to
the length that would make the wanted number of buckets.  The computed distances
are within `1 / 10 ^ 8` of those between the real logarithms, so it is nearest in
truth as well, unless two sizes are equally near to seven digits.
-/
set_option autoImplicit false
namespace Telemetry
open Binary64

/-! ## Distances on the logarithmic scale -/

theorem Bucket.value_seconds (b : Bucket) : value (Binary64.ofNat b.seconds) = b.seconds :=
  b.exact_seconds.value_ofNat

theorem position_pos_of_value {x : Binary64} (positive : 0 < value x) : 0 < x.position := by
  by_contra none
  have zero : x.signedUnits = 0 := by
    rw [signedUnits, Nat.eq_zero_of_not_pos none]
    cases x.negative <;> rfl
  rw [value, zero, Int.cast_zero, zero_mul] at positive
  exact lt_irrefl _ positive

theorem not_le_zero {x : Binary64} (sign : x.negative = false) (positive : 0 < x.position) :
    ¬ x ≤ Binary64.zero false := by
  have place : x.place = x.position := by rw [Binary64.place, sign]; rfl
  have zero : (Binary64.zero false).place = 0 := rfl
  intro below
  change x.le (Binary64.zero false) = true at below
  simp only [le, place, zero, Bool.and_eq_true, decide_eq_true_eq] at below
  omega

namespace Resolver

theorem logDistance_bounds {target : Binary64} (finite : target.position < infinityPosition)
    (positive : 0 < target.position) (sign : target.negative = false) (b : Bucket) :
    |value (logDistance target.ln b) - (|Real.log b.seconds - Real.log (value target)|)| ≤
      1 / 10 ^ 8 := by
  have exact := b.exact_seconds
  obtain ⟨finite₁, size₁, off₁⟩ :=
    ln_bounds exact.finite (position_ofNat_pos b.seconds_bounds.1) rfl
  obtain ⟨finite₂, size₂, off₂⟩ := ln_bounds finite positive sign
  rw [b.value_seconds] at off₁
  have size : |value (Binary64.ofNat b.seconds).ln - value target.ln| ≤ 6000 := by
    rw [abs_le] at size₁ size₂ ⊢
    constructor <;> linarith
  have close := close_sub finite₁ finite₂ (le_trans size (by norm_num))
  have tiny : unit ≤ 1 / 10 ^ 14 := le_trans unit_le (by norm_num)
  have distance : value (logDistance target.ln b) =
      |value ((Binary64.ofNat b.seconds).ln - target.ln)| := value_abs _
  rw [distance]
  refine le_trans (abs_abs_sub_abs_le _ _) ?_
  rw [Close] at close
  rw [abs_le] at close off₁ off₂ ⊢
  constructor <;> linarith

/-- Dividing a number that is not tiny by a whole number. -/
theorem log_div_ofNat {x : Binary64} {d : Nat} (finite : x.position < infinityPosition)
    (sign : x.negative = false) (positive : 0 < d) (few : d ≤ 2 ^ 32) (least : 1 / 2 ^ 60 ≤ value x) :
    (x / Binary64.ofNat d).position < infinityPosition ∧ (x / Binary64.ofNat d).negative = false ∧
      value x / d / 2 ≤ value (x / Binary64.ofNat d) ∧
      |Real.log (value (x / Binary64.ofNat d)) - (Real.log (value x) - Real.log d)| ≤ 1 / 2 ^ 50 := by
  have exact : Exact d := exact_of_le (Nat.le_trans few (by decide))
  have divisor : (0 : ℝ) < d := by exact_mod_cast positive
  have few' : (d : ℝ) ≤ 2 ^ 32 := by exact_mod_cast few
  have above : 0 < value x := lt_of_lt_of_le (by positivity) least
  have quotient : 1 / 2 ^ 100 ≤ value x / d := by
    calc (1 : ℝ) / 2 ^ 100 ≤ 1 / 2 ^ 60 / 2 ^ 32 := by norm_num
      _ ≤ value x / d := by gcongr
  obtain ⟨half, off⟩ := (close_div_ofNat finite positive exact).log quotient
  rw [Real.log_div (ne_of_gt above) (ne_of_gt divisor)] at off
  have smaller := Nat.lt_of_le_of_lt (position_div_le finite positive exact) finite
  exact ⟨smaller, (negative_div_ofNat finite positive exact).trans sign, half, off⟩

/-- The length that would make a number of buckets of a number of milliseconds, in seconds. -/
def wantedLength (a count : Nat) : Binary64 :=
  Binary64.ofNat a / Binary64.ofNat 1000 / Binary64.ofNat count

section Target
variable {a : Nat} (positive : 0 < a) (bound : a < 2 ^ 54)
include positive bound

theorem seconds_bounds :
    let seconds := Binary64.ofNat a / Binary64.ofNat 1000
    seconds.position < infinityPosition ∧ seconds.negative = false ∧ 1 / 4000 ≤ value seconds ∧
      |Real.log (value seconds) - Real.log (a / 1000)| ≤ 1 / 2 ^ 49 := by
  have least : (1 : ℝ) ≤ a := by exact_mod_cast positive
  have finite : (Binary64.ofNat a).position < infinityPosition := finite_ofNat (by omega)
  obtain ⟨half, off⟩ := (close_ofNat (by omega : a ≤ 2 ^ 64)).log (by linarith)
  obtain ⟨finite', sign, half', off'⟩ :=
    log_div_ofNat finite rfl (by decide : 0 < 1000) (by decide) (by linarith)
  have thousand : ((1000 : Nat) : ℝ) = 1000 := Nat.cast_ofNat
  rw [thousand] at half' off'
  refine ⟨finite', sign, by linarith, ?_⟩
  rw [Real.log_div (by positivity) (by norm_num)]
  rw [abs_le] at off off' ⊢
  constructor <;> linarith

/-- The wanted length is rounded three times. -/
theorem wantedLength_bounds {count : Nat} (some : 0 < count) (few : count ≤ 2 ^ 32) :
    (wantedLength a count).position < infinityPosition ∧ 0 < (wantedLength a count).position ∧
      (wantedLength a count).negative = false ∧
      |Real.log (value (wantedLength a count)) - Real.log (a / 1000 / count)| ≤ 1 / 10 ^ 9 := by
  have least : (1 : ℝ) ≤ a := by exact_mod_cast positive
  have wanted : (1 : ℝ) ≤ count := by exact_mod_cast some
  obtain ⟨finite, sign, large, off⟩ := seconds_bounds positive bound
  obtain ⟨finite', sign', half, off'⟩ := log_div_ofNat finite sign some few (by linarith)
  have above : 0 < value (wantedLength a count) := by
    have quotient : 0 < value (Binary64.ofNat a / Binary64.ofNat 1000) / count :=
      div_pos (by linarith) (by linarith)
    exact lt_of_lt_of_le (half_pos quotient) half
  refine ⟨finite', position_pos_of_value above, sign', ?_⟩
  rw [Real.log_div (by positivity) (by positivity), wantedLength]
  rw [abs_le] at off off' ⊢
  constructor <;> linarith

end Target

/-! ## The size nearest to the wanted length -/

section Derived
variable {r : Resolver} {span : Span} {a : Nat} (nonempty : r.table ≠ [])
include nonempty

theorem smallest_mem : r.smallest ∈ r.table := by
  obtain ⟨b, rest, table⟩ := List.exists_cons_of_ne_nil nonempty
  rw [smallest, table]
  exact List.mem_cons_self

/-- Where the table is not empty, there is a nearest size. -/
theorem deriveBucket_of_lasting (lasting : ¬ span.seconds ≤ Binary64.zero false) :
    Nearest.IsFirstLeast
      (logDistance (span.seconds / Binary64.ofNat r.settings.windowCount.toNat).ln) r.table
      (r.deriveBucket span) := by
  obtain ⟨b, found⟩ := Nearest.exists_nearestBy
    (logDistance (span.seconds / Binary64.ofNat r.settings.windowCount.toNat).ln) nonempty
  have derived : r.deriveBucket span = b := by
    rw [deriveBucket, if_neg lasting]
    exact congrArg (fun found => found.getD r.smallest) found
  rw [derived]
  exact Nearest.nearestBy_spec found

theorem deriveBucket_mem : r.deriveBucket span ∈ r.table := by
  by_cases lasting : span.seconds ≤ Binary64.zero false
  · rw [deriveBucket, if_pos lasting]
    exact smallest_mem nonempty
  · exact (deriveBucket_of_lasting nonempty lasting).mem

variable (positive : 0 < a) (length : span.millis = a)
include positive length

theorem deriveBucket_spec :
    Nearest.IsFirstLeast (logDistance (wantedLength a r.settings.windowCount.toNat).ln) r.table
      (r.deriveBucket span) := by
  have bound := Span.lt_of_millis length
  have seconds : span.seconds = Binary64.ofNat a / Binary64.ofNat 1000 := by
    rw [Span.seconds, length, ofInt_natCast]
  have lasting : ¬ span.seconds ≤ Binary64.zero false := by
    obtain ⟨-, sign, least, -⟩ := seconds_bounds positive bound
    rw [seconds]
    exact not_le_zero sign (position_pos_of_value (lt_of_lt_of_le (by norm_num) least))
  rw [wantedLength, ← seconds]
  exact deriveBucket_of_lasting nonempty lasting

/-- No configured size is nearer by more than the rounding errors. -/
theorem deriveBucket_near (some : 0 < r.settings.windowCount.toNat) :
    let wanted := Real.log (a / 1000 / r.settings.windowCount.toNat)
    ∀ c ∈ r.table, |Real.log (r.deriveBucket span).seconds - wanted| ≤
      |Real.log c.seconds - wanted| + 1 / 10 ^ 7 := by
  intro wanted c member
  have bound := Span.lt_of_millis length
  have few : r.settings.windowCount.toNat ≤ 2 ^ 32 := Nat.le_of_lt r.settings.windowCount.toNat_lt
  have least := (deriveBucket_spec nonempty positive length).rank_le c member
  obtain ⟨finite, above, sign, off⟩ := wantedLength_bounds positive bound some few
  have near := logDistance_bounds finite above sign (r.deriveBucket span)
  have near' := logDistance_bounds finite above sign c
  have order := value_le_of_rank rfl rfl least
  generalize wantedLength a r.settings.windowCount.toNat = target at off near near' order
  have shift := abs_sub_le (Real.log (r.deriveBucket span).seconds) (Real.log (value target)) wanted
  have shift' := abs_sub_le (Real.log c.seconds) wanted (Real.log (value target))
  rw [abs_sub_comm wanted] at shift'
  rw [abs_le] at near near'
  linarith

end Derived
end Resolver
end Telemetry
