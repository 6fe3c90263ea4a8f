import Telemetry.Proofs.Catalog.Registry

/-!
# Loading the known kinds

The known kinds are registered one after the other, up to the first whose id is present.
Those before it stay, so that loading is all or nothing only where the id of the first kind
is present or none of the ids is.
-/
set_option autoImplicit false
namespace Telemetry.Registry
variable {r next : Registry} {k : SourceType} {records before after : List SourceType} {id : String}

def insertAll (r : Registry) (records : List SourceType) : Registry := records.foldl insert r

/-- The records are there, and everything else is as it was. -/
structure Added (r : Registry) (records : List SourceType) (next : Registry) : Prop where
  stored : ∀ k ∈ records, next.get k.id = .ok k
  others : ∀ id, id ∉ records.map SourceType.id → next.get id = r.get id

theorem Added.nil : Added r [] r := ⟨by simp, fun _ _ => rfl⟩

theorem Added.insert (added : Added (r.insert k) records next)
    (fresh : k.id ∉ records.map SourceType.id) : Added r (k :: records) next where
  stored := by
    intro j member
    rcases List.mem_cons.mp member with rfl | later
    · rw [added.others j.id fresh, get_eq_ok, find?_insert, if_pos rfl]
    · exact added.stored j later
  others := by
    intro id absent
    rw [List.map_cons, List.mem_cons, not_or] at absent
    obtain ⟨other, later⟩ := absent
    rw [added.others id later]
    apply get_congr
    rw [find?_insert, if_neg (Ne.symm other)]

/-- Records that can be registered one after the other. -/
structure Fresh (r : Registry) (records : List SourceType) : Prop where
  valid : ∀ k ∈ records, k.validate = .ok ()
  distinct : (records.map SourceType.id).Nodup
  absent : ∀ k ∈ records, k.id ∉ r.ids

theorem Fresh.tail (fresh : Fresh r (k :: records)) : Fresh (r.insert k) records where
  valid j later := fresh.valid j (List.mem_cons_of_mem k later)
  distinct := (List.nodup_cons.mp fresh.distinct).2
  absent := by
    intro j later
    have other : k.id ≠ j.id := fun same =>
      (List.nodup_cons.mp fresh.distinct).1 (same ▸ List.mem_map_of_mem later)
    rw [not_mem_ids, find?_insert, if_neg other, ← not_mem_ids]
    exact fresh.absent j (List.mem_cons_of_mem k later)

theorem Fresh.register (fresh : Fresh r (k :: records)) : r.register k = .ok (r.insert k) := by
  have absent := fresh.absent k List.mem_cons_self
  exact register_eq_ok.mpr ⟨fresh.valid k List.mem_cons_self, not_mem_ids.mp absent, rfl⟩

theorem Fresh.added (fresh : Fresh r records) : Added r records (r.insertAll records) := by
  induction records generalizing r with
  | nil => exact .nil
  | cons k rest ih => exact (ih fresh.tail).insert (List.nodup_cons.mp fresh.distinct).1

theorem Fresh.registerAll_append (fresh : Fresh r before) : r.registerAll (before ++ after) =
    let rest := (r.insertAll before).registerAll after
    { rest with lines := before.map registrationLine ++ rest.lines } := by
  induction before generalizing r with
  | nil => rfl
  | cons k rest ih =>
      rw [List.cons_append, registerAll, fresh.register]
      dsimp only
      rw [ih fresh.tail]
      rfl

theorem Fresh.registerAll_eq (fresh : Fresh r records) : r.registerAll records =
    ⟨r.insertAll records, none, none, records.map registrationLine⟩ := by
  have loaded : r.registerAll (records ++ []) = _ := fresh.registerAll_append
  rw [List.append_nil] at loaded
  simpa [registerAll] using loaded

theorem registerAll_present (valid : k.validate = .ok ()) (present : k.id ∈ r.ids) :
    r.registerAll (k :: after) = ⟨r, some (.alreadyRegistered k.id), none, []⟩ := by
  obtain ⟨other, got⟩ := mem_ids.mp present
  have found : r.find? k.id = some other := get_eq_ok.mp got
  rw [registerAll, register, valid]
  simp [found]

theorem Fresh.registerAll_stopped (fresh : Fresh r before) (valid : k.validate = .ok ())
    (present : k.id ∈ r.ids) : r.registerAll (before ++ k :: after) =
      ⟨r.insertAll before, some (.alreadyRegistered k.id), none, before.map registrationLine⟩ := by
  have other : k.id ∉ before.map SourceType.id := by
    intro member
    obtain ⟨j, earlier, same⟩ := List.mem_map.mp member
    exact fresh.absent j earlier (same ▸ present)
  have present' : k.id ∈ (r.insertAll before).ids := by
    rw [mem_ids] at present ⊢
    rwa [fresh.added.others k.id other]
  simp [fresh.registerAll_append, registerAll_present valid present']

theorem exists_first_present (r : Registry) (records : List SourceType) :
    (∀ k ∈ records, k.id ∉ r.ids) ∨ ∃ before k after, records = before ++ k :: after ∧
      (∀ j ∈ before, j.id ∉ r.ids) ∧ k.id ∈ r.ids := by
  cases found : records.find? fun k => decide (k.id ∈ r.ids) with
  | none => exact .inl (by simpa using found)
  | some k =>
      obtain ⟨present, before, after, split, absent⟩ := List.find?_eq_some_iff_append.mp found
      exact .inr ⟨before, k, after, split, by simpa using absent, by simpa using present⟩

/-! ## The known kinds -/

theorem defaults_valid : ∀ k ∈ Kind.defaults, k.validate = .ok () := by
  have checked : ∀ k ∈ Kind.defaults, Text.blank k.id = false ∧ (k.channels.map Channel.id).Nodup ∧
      ∀ c ∈ k.channels, c.frequency.isFinite = true ∧ Binary64.zero false < c.frequency := by
    decide +kernel
  intro k member
  obtain ⟨named, distinct, sampled⟩ := checked k member
  exact SourceType.validate_eq_ok.mpr ⟨named, distinct, sampled⟩

theorem fresh_defaults (split : Kind.defaults = before ++ after) (absent : ∀ j ∈ before, j.id ∉ r.ids) :
    Fresh r before where
  valid j member := defaults_valid j (split ▸ List.mem_append_left after member)
  distinct := by
    have distinct : (Kind.defaults.map SourceType.id).Nodup := by decide
    rw [split, List.map_append] at distinct
    exact (List.nodup_append.mp distinct).1
  absent := absent

theorem loadDefaults_of_absent (absent : ∀ k ∈ Kind.defaults, k.id ∉ r.ids) :
    Added r Kind.defaults (r.insertAll Kind.defaults) ∧ r.change .loadDefaults =
      ⟨r.insertAll Kind.defaults, none, none, Kind.defaults.map registrationLine⟩ := by
  have fresh := fresh_defaults (List.append_nil _).symm absent
  exact ⟨fresh.added, fresh.registerAll_eq⟩

theorem loadDefaults_of_present (split : Kind.defaults = before ++ k :: after)
    (absent : ∀ j ∈ before, j.id ∉ r.ids) (present : k.id ∈ r.ids) :
    Added r before (r.insertAll before) ∧ r.change .loadDefaults =
      ⟨r.insertAll before, some (.alreadyRegistered k.id), none, before.map registrationLine⟩ := by
  have fresh := fresh_defaults split absent
  have stopped : r.registerAll (before ++ k :: after) = _ :=
    fresh.registerAll_stopped (defaults_valid k (by simp [split])) present
  rw [← split] at stopped
  exact ⟨fresh.added, stopped⟩

/-- Loading the known kinds registers those before the first whose id is present. -/
theorem load_defaults (r : Registry) :
    let outcome := r.change .loadDefaults
    ((∀ k ∈ Kind.defaults, k.id ∉ r.ids) → Added r Kind.defaults outcome.registry ∧
      outcome = ⟨r.insertAll Kind.defaults, none, none, Kind.defaults.map registrationLine⟩) ∧
    (∀ before k after, Kind.defaults = before ++ k :: after → (∀ j ∈ before, j.id ∉ r.ids) →
      k.id ∈ r.ids → Added r before outcome.registry ∧
      outcome = ⟨r.insertAll before, some (.alreadyRegistered k.id), none, before.map registrationLine⟩) ∧
    (outcome.error = none ∨ outcome.registry = r ↔
      Kind.airQuality.id ∈ r.ids ∨ ∀ k ∈ Kind.defaults, k.id ∉ r.ids) := by
  intro outcome
  refine ⟨?complete, ?stopped, ?whole, ?untouched⟩
  case complete =>
    intro absent
    obtain ⟨added, loaded⟩ := loadDefaults_of_absent absent
    have outcomeEq : outcome = _ := loaded
    rw [outcomeEq]
    exact ⟨added, rfl⟩
  case stopped =>
    intro before k after split absent present
    obtain ⟨added, loaded⟩ := loadDefaults_of_present split absent present
    have outcomeEq : outcome = _ := loaded
    rw [outcomeEq]
    exact ⟨added, rfl⟩
  case whole =>
    intro whole
    rcases exists_first_present r Kind.defaults with
      absent | ⟨before, k, after, split, absent, present⟩
    · exact .inr absent
    · obtain ⟨added, loaded⟩ := loadDefaults_of_present split absent present
      have outcomeEq : outcome = _ := loaded
      rw [outcomeEq] at whole
      have same : r.insertAll before = r := whole.resolve_left (by simp)
      cases before with
      | nil =>
          rw [(List.cons.inj split).1]
          exact .inl present
      | cons j rest =>
          have stored := added.stored j List.mem_cons_self
          rw [same] at stored
          exact absurd (mem_ids.mpr ⟨j, stored⟩) (absent j List.mem_cons_self)
  case untouched =>
    rintro (first | absent)
    · obtain ⟨-, loaded⟩ : Added r [] _ ∧ outcome = _ := loadDefaults_of_present rfl (by simp) first
      exact .inr (congrArg Outcome.registry loaded)
    · exact .inl (congrArg Outcome.error (loadDefaults_of_absent absent).2)

/-- A water level gauge of one's own lets the kind before it in, and keeps the one after it out. -/
theorem own_gauge_half_loads :
    let own : SourceType := ⟨"water_level", "Own gauge", none, []⟩
    let r := empty.run [.register own]
    let outcome := r.change .loadDefaults
    outcome.error = some (.alreadyRegistered "water_level") ∧ outcome.registry ≠ r ∧
      outcome.registry.ids = ["air_quality", "water_level"] := by
  decide +kernel

theorem own_station_stops_last :
    let own : SourceType := ⟨"weather_station", "Own station", none, []⟩
    let r := empty.run [.register own]
    let outcome := r.change .loadDefaults
    own.id ∈ r.ids ∧ Added r [Kind.airQuality, Kind.waterLevel] outcome.registry ∧
      outcome.error = some (.alreadyRegistered "weather_station") := by
  intro own r outcome
  have present : own.id ∈ r.ids := by decide
  obtain ⟨-, stopped, -⟩ := load_defaults r
  obtain ⟨added, outcomeEq⟩ := stopped [Kind.airQuality, Kind.waterLevel] Kind.weatherStation [] rfl
    (by decide) present
  exact ⟨present, added, congrArg Outcome.error outcomeEq⟩

end Telemetry.Registry
