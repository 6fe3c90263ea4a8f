import Mathlib.Tactic.SplitIfs
import Telemetry.Proofs.Window.Table

/-!
# Accepted window settings

A resolver is made exactly of settings whose bounds hold together: at least one
wanted bucket and at most as many as the budget, a look back of a day to a
century, and some bucket size.  Its table has the sizes of the settings.
-/
set_option autoImplicit false
namespace Telemetry

namespace WindowSettings

/-- The bounds that validation checks. -/
structure Valid (s : WindowSettings) : Prop where
  count_pos : 0 < s.windowCount.toNat
  count_le : s.windowCount.toNat ≤ s.maxBuckets.toNat
  days_pos : 1 ≤ s.spanDays.toInt
  days_le : s.spanDays.toInt ≤ 36500
  sizes_ne : s.bucketSizes ≠ []

theorem validate_eq_ok {s : WindowSettings} : s.validate = .ok () ↔ s.Valid := by
  have budget : s.maxBuckets = 0 ↔ s.maxBuckets.toNat = 0 := by rw [← UInt64.toNat_inj]; rfl
  have count : s.windowCount = 0 ↔ s.windowCount.toNat = 0 := by rw [← UInt32.toNat_inj]; rfl
  have few : s.spanDays < 1 ↔ s.spanDays.toInt < 1 := Int64.lt_iff_toInt_lt
  have many : maxSpanDays < s.spanDays ↔ 36500 < s.spanDays.toInt := Int64.lt_iff_toInt_lt
  constructor
  · intro valid
    rw [validate] at valid
    split_ifs at valid with none count' days sizes
    rw [budget] at none
    rw [count] at count'
    rw [few, many] at days
    exact ⟨by omega, by omega, by omega, by omega, by simpa using sizes⟩
  · intro valid
    have positive := valid.count_pos
    have within := valid.count_le
    have least := valid.days_pos
    have most := valid.days_le
    rw [validate, if_neg (by rw [budget]; omega), if_neg (by rw [count]; omega),
      if_neg (by rw [few, many]; omega), if_neg (by simpa using valid.sizes_ne)]

end WindowSettings

namespace Resolver
variable {r : Resolver} {settings : WindowSettings}

theorem ofSettings_eq_ok : ofSettings settings = .ok r ↔
    settings.Valid ∧ r = ⟨settings, Bucket.table settings.bucketSizes⟩ := by
  rw [← WindowSettings.validate_eq_ok, ofSettings]
  constructor
  · intro accepted
    split_ifs at accepted with bare
    cases valid : settings.validate with
    | error e => simp [valid] at accepted
    | ok u =>
        simp only [valid, Except.ok.injEq] at accepted
        exact ⟨rfl, accepted.symm⟩
  · rintro ⟨valid, rfl⟩
    have bare : ¬ (Bucket.table settings.bucketSizes).isEmpty := by
      obtain ⟨b, member⟩ := List.exists_mem_of_ne_nil _
        (WindowSettings.validate_eq_ok.mp valid).sizes_ne
      rw [List.isEmpty_iff]
      exact List.ne_nil_of_mem (Bucket.mem_table.mpr member)
    simp only [if_neg bare, valid]

end Resolver
end Telemetry
