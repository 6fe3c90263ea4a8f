import Telemetry.Proofs.Window.Derived

/-!
# Configured bucket sizes

A resolver chooses among the sizes of its settings: the shortest one for an empty span, and
otherwise the one nearest to the wanted length on the logarithmic scale, the shorter of two
that are equally near.  Of the list in which the sizes are configured only the set matters:
neither what settings are accepted nor any answer depends on order or repetitions.
-/
set_option autoImplicit false
namespace Telemetry.Resolver
open Binary64

variable {r : Resolver} {settings : WindowSettings}

theorem standard_eq : standard = ⟨.standard, Bucket.table WindowSettings.standard.bucketSizes⟩ := by
  rw [standard, Bucket.all_eq_table Bucket.mem_all]
  rfl

theorem ofSettings_standard : ofSettings .standard = .ok standard :=
  ofSettings_eq_ok.mpr ⟨WindowSettings.validate_eq_ok.mp rfl, standard_eq⟩

theorem smallest_le (order : r.table.Pairwise fun a b => a.seconds < b.seconds) :
    ∀ b ∈ r.table, r.smallest.seconds ≤ b.seconds := by
  intro b member
  cases table : r.table with
  | nil =>
      rw [table] at member
      cases member
  | cons first rest =>
      rw [table] at member order
      rw [smallest, table, List.headD_cons]
      rcases List.mem_cons.mp member with rfl | later
      · exact Nat.le_refl _
      · exact Nat.le_of_lt ((List.pairwise_cons.mp order).1 b later)

/-- The size derived for a span is a configured one.  It is the shortest for a span of no length, and
the first of the nearest ones in ascending order for any other. -/
theorem derived_size
    (configured : ofSettings settings = .ok r ∨ settings = .standard ∧ r = standard) (span : Span) :
    let distance (b : Bucket) : Binary64 := ((Binary64.ofNat b.seconds).ln
      - (span.seconds / Binary64.ofNat settings.windowCount.toNat).ln).abs
    r.deriveBucket span ∈ settings.bucketSizes ∧
      (span.seconds ≤ zero false →
        ∀ c ∈ settings.bucketSizes, (r.deriveBucket span).seconds ≤ c.seconds) ∧
      (¬ span.seconds ≤ zero false → ∀ c ∈ settings.bucketSizes,
        (distance (r.deriveBucket span)).rank ≤ (distance c).rank ∧
          (c.seconds < (r.deriveBucket span).seconds →
            (distance (r.deriveBucket span)).rank < (distance c).rank)) := by
  intro distance
  have accepted : ofSettings settings = .ok r := by
    rcases configured with accepted | ⟨rfl, rfl⟩
    · exact accepted
    · exact ofSettings_standard
  obtain ⟨valid, rfl⟩ := ofSettings_eq_ok.mp accepted
  have order := Bucket.ascending_table settings.bucketSizes
  have nonempty : Bucket.table settings.bucketSizes ≠ [] := by
    obtain ⟨b, member⟩ := List.exists_mem_of_ne_nil _ valid.sizes_ne
    exact List.ne_nil_of_mem (Bucket.mem_table.mpr member)
  refine ⟨Bucket.mem_table.mp (deriveBucket_mem nonempty), ?_, ?_⟩
  · intro none c member
    rw [deriveBucket, if_pos none]
    exact smallest_le order c (Bucket.mem_table.mpr member)
  · intro lasting c member
    have least := deriveBucket_of_lasting (r := ⟨settings, _⟩) nonempty lasting
    have listed := Bucket.mem_table.mpr member
    exact ⟨least.rank_le c listed,
      least.rank_lt order (fun _ _ shorter => Nat.lt_asymm shorter) c listed⟩

/-- Ten hours in ten buckets, among sizes that are neither in order nor distinct. -/
theorem ten_hours_by_the_hour :
    let settings : WindowSettings := ⟨10, 1000, 365, [.oneDay, .oneMinute, .oneHour, .oneMinute]⟩
    let r : Resolver := ⟨settings, [.oneMinute, .oneHour, .oneDay]⟩
    let span : Span := ⟨⟨0, 0, 0, by decide, by decide, by decide, by decide⟩,
      ⟨0, 36000, 0, by decide, by decide, by decide, by decide⟩⟩
    let distance (b : Bucket) : Binary64 :=
      ((Binary64.ofNat b.seconds).ln - (span.seconds / Binary64.ofNat 10).ln).abs
    ofSettings settings = .ok r ∧ r.deriveBucket span = .oneHour ∧
      (distance .oneHour).rank < (distance .oneMinute).rank := by
  intro settings r span distance
  have accepted : ofSettings settings = .ok r := by decide +kernel
  have derived : r.deriveBucket span = .oneHour := by decide +kernel
  obtain ⟨-, -, nearest⟩ := derived_size (.inl accepted) span
  obtain ⟨-, shorter⟩ := nearest (by decide +kernel) .oneMinute (by decide)
  rw [derived] at shorter
  exact ⟨accepted, derived, shorter (by decide)⟩

/-! ## Lists of the same sizes -/

theorem validate_congr {sizes sizes' : List Bucket} (same : ∀ b, b ∈ sizes ↔ b ∈ sizes') :
    ({ settings with bucketSizes := sizes } : WindowSettings).validate =
      ({ settings with bucketSizes := sizes' } : WindowSettings).validate := by
  have empty : sizes.isEmpty = sizes'.isEmpty := by
    rw [Bool.eq_iff_iff, List.isEmpty_iff, List.isEmpty_iff, List.eq_nil_iff_forall_not_mem,
      List.eq_nil_iff_forall_not_mem]
    exact forall_congr' fun b => not_congr (same b)
  rw [WindowSettings.validate, WindowSettings.validate, empty]

/-- The list of sizes is not looked at once the table is made. -/
theorem resolve_mk (settings : WindowSettings) (sizes sizes' table : List Bucket) :
    resolve ⟨{ settings with bucketSizes := sizes }, table⟩ =
      resolve ⟨{ settings with bucketSizes := sizes' }, table⟩ := rfl

theorem map_resolve_congr (settings : WindowSettings) {sizes sizes' : List Bucket}
    (same : ∀ b, b ∈ sizes ↔ b ∈ sizes') :
    (ofSettings { settings with bucketSizes := sizes }).map resolve =
      (ofSettings { settings with bucketSizes := sizes' }).map resolve := by
  rw [ofSettings, ofSettings, validate_congr same]
  simp only [Bucket.table_congr same]
  split_ifs
  · rfl
  · cases ({ settings with bucketSizes := sizes' } : WindowSettings).validate with
    | error e => rfl
    | ok checked =>
        exact congrArg Except.ok (resolve_mk settings sizes sizes' (Bucket.table sizes'))

/-- Settings that list the same sizes are refused for the same reason, or make resolvers that answer
every query alike.  With all sizes, listed in whatever way, they are the standard answers. -/
theorem resolve_same_sizes (settings : WindowSettings) {sizes sizes' : List Bucket}
    (same : ∀ b, b ∈ sizes ↔ b ∈ sizes') :
    (ofSettings { settings with bucketSizes := sizes }).map resolve =
        (ofSettings { settings with bucketSizes := sizes' }).map resolve ∧
      ∀ every : List Bucket, (∀ b, b ∈ every) →
        (ofSettings { WindowSettings.standard with bucketSizes := every }).map resolve =
          .ok standard.resolve := by
  refine ⟨map_resolve_congr settings same, ?_⟩
  intro every listed
  have all : ∀ b, b ∈ every ↔ b ∈ WindowSettings.standard.bucketSizes :=
    fun b => ⟨fun _ => Bucket.mem_all b, fun _ => listed b⟩
  calc (ofSettings { WindowSettings.standard with bucketSizes := every }).map resolve
      = (ofSettings .standard).map resolve := map_resolve_congr .standard all
    _ = .ok standard.resolve := congrArg (Except.map resolve) ofSettings_standard

theorem reversed_sizes_answer_alike :
    (ofSettings ⟨100, 1000, 365, [.oneDay, .tenSeconds, .oneDay]⟩).map resolve =
        (ofSettings ⟨100, 1000, 365, [.tenSeconds, .oneDay]⟩).map resolve ∧
      (ofSettings ⟨100, 1000, 365, Bucket.all.reverse⟩).map resolve = .ok standard.resolve := by
  have same : ∀ b : Bucket, b ∈ [Bucket.oneDay, .tenSeconds, .oneDay] ↔ b ∈ [Bucket.tenSeconds, .oneDay] := by
    intro b
    cases b <;> decide
  obtain ⟨alike, standard⟩ := resolve_same_sizes .standard same
  exact ⟨alike, standard Bucket.all.reverse fun b => List.mem_reverse.mpr (Bucket.mem_all b)⟩

end Telemetry.Resolver
