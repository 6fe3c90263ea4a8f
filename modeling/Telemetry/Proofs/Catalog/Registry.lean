import Mathlib.Tactic.SplitIfs
import Telemetry.Catalog.Registry
import Telemetry.Proofs.Catalog.Validity

/-!
# Registries over whole runs

A registry holds valid records in the order of their ids, one for an id, after any run of
changes, accepted and refused ones.  A change for one record touches no other id, and
nothing at all when it is refused; only an upsert replaces a record.
-/
set_option autoImplicit false
namespace Telemetry.Registry
variable {r next : Registry} {record k : SourceType} {ks : List SourceType} {id : String}
  {c : Change} {outcome : Outcome}

/-! ## One record put in its place -/

theorem find?_place : (place record ks).find? (fun k => k.id == id) =
    if record.id = id then some record else ks.find? fun k => k.id == id := by
  induction ks with
  | nil => by_cases this : record.id = id <;> simp [place, this]
  | cons k rest ih =>
      simp only [place]
      by_cases this : record.id = id
      · split_ifs with same before
        · simp [this]
        · simp [this]
        · have other : k.id ≠ id := fun found => same (this.trans found.symm)
          simp [this, other, ih]
      · rw [if_neg this] at ih ⊢
        split_ifs with same before
        · have other : k.id ≠ id := fun found => this (same.trans found)
          simp [this, other]
        · simp [this]
        · simp [List.find?_cons, ih]

theorem mem_place (member : k ∈ place record ks) : k = record ∨ k ∈ ks := by
  induction ks with
  | nil => simpa [place] using member
  | cons other rest ih =>
      simp only [place] at member
      split_ifs at member with same before
      · rcases List.mem_cons.mp member with rfl | later
        · exact .inl rfl
        · exact .inr (List.mem_cons_of_mem _ later)
      · exact List.mem_cons.mp member
      · rcases List.mem_cons.mp member with rfl | later
        · exact .inr List.mem_cons_self
        · exact (ih later).imp id (List.mem_cons_of_mem _)

theorem increasing_place (increasing : (ks.map SourceType.id).Pairwise (· < ·)) :
    ((place record ks).map SourceType.id).Pairwise (· < ·) := by
  induction ks with
  | nil => simp [place]
  | cons k rest ih =>
      obtain ⟨first, tail⟩ := List.pairwise_cons.mp increasing
      simp only [place]
      split_ifs with same before
      · simpa [same] using increasing
      · apply List.pairwise_cons.mpr
        refine ⟨?_, increasing⟩
        intro other member
        rcases List.mem_cons.mp member with rfl | later
        · exact before
        · exact String.lt_trans before (first other later)
      · apply List.pairwise_cons.mpr
        refine ⟨?_, ih tail⟩
        intro other member
        obtain ⟨found, placed, rfl⟩ := List.mem_map.mp member
        rcases mem_place placed with rfl | later
        · exact Std.lt_of_le_of_ne (String.not_lt.mp before) (Ne.symm same)
        · exact first found.id (List.mem_map_of_mem later)

/-! ## What is kept -/

/-- Valid records in the order of their ids. -/
structure Kept (r : Registry) : Prop where
  increasing : r.ids.Pairwise (· < ·)
  valid : ∀ k ∈ r.records, k.validate = .ok ()

theorem kept_empty : Kept empty := ⟨List.Pairwise.nil, by simp [empty]⟩

theorem find?_insert : (r.insert record).find? id =
    if record.id = id then some record else r.find? id :=
  find?_place

theorem get_eq_ok : r.get id = .ok k ↔ r.find? id = some k := by
  cases found : r.find? id <;> simp [get, found]

theorem get_congr {r' : Registry} (same : r'.find? id = r.find? id) : r'.get id = r.get id := by
  simp only [get, same]

theorem mem_of_find? (found : r.find? id = some k) : k ∈ r.records ∧ k.id = id :=
  ⟨List.mem_of_find?_eq_some found, by simpa using List.find?_some found⟩

theorem mem_ids : id ∈ r.ids ↔ ∃ k, r.get id = .ok k := by
  simp only [get_eq_ok, find?, ← Option.isSome_iff_exists, List.find?_isSome, ids, List.mem_map,
    beq_iff_eq]

theorem Kept.find?_id (kept : Kept r) (member : k ∈ r.records) : r.find? k.id = some k := by
  have distinct : r.ids.Pairwise (· ≠ ·) := kept.increasing.imp fun before => Std.ne_of_lt before
  exact find?_key distinct member

theorem Kept.insert (kept : Kept r) (valid : record.validate = .ok ()) :
    Kept (r.insert record) where
  increasing := increasing_place kept.increasing
  valid k member := by
    rcases mem_place member with rfl | before
    · exact valid
    · exact kept.valid k before

/-! ## One change -/

/-- The record that a change offers, if its document has one. -/
def Change.record? : Change → Option SourceType
  | .register record | .upsert record => some record
  | .registerDocument origin text => (Kind.parse origin text).toOption
  | .loadDefaults => none

/-- What a change for one record does: nothing, or it puts its record in place, which only an upsert
does to an id that is present. -/
inductive Effect (r : Registry) (c : Change) : Outcome → Prop where
  | refused (e : CatalogError)
      (cause : ∀ record, c.record? = some record → record.validate = .ok () →
        c ≠ .upsert record ∧ r.find? record.id ≠ none) : Effect r c ⟨r, some e, none, []⟩
  | placed {record : SourceType} {lines : List Log.Line} (offered : c.record? = some record)
      (valid : record.validate = .ok ()) (rule : c = .upsert record ∨ r.find? record.id = none) :
      Effect r c ⟨r.insert record, none, r.find? record.id, lines⟩

theorem register_eq_ok : r.register record = .ok next ↔
    record.validate = .ok () ∧ r.find? record.id = none ∧ next = r.insert record := by
  cases valid : record.validate with
  | error e => simp [register, valid]
  | ok _ => cases found : r.find? record.id <;> simp [register, valid, found, eq_comm]

theorem effect_register (offered : c.record? = some record) (other : ∀ k, c ≠ .upsert k) :
    Effect r c (r.registerOutcome record) := by
  rw [registerOutcome]
  cases result : r.register record with
  | error e =>
      apply Effect.refused
      intro k offered' valid
      obtain rfl : record = k := Option.some.inj (offered.symm.trans offered')
      refine ⟨other record, fun absent => ?_⟩
      rw [register_eq_ok.mpr ⟨valid, absent, rfl⟩] at result
      cases result
  | ok next =>
      obtain ⟨valid, absent, rfl⟩ := register_eq_ok.mp result
      have placed :
          Effect r c ⟨r.insert record, none, r.find? record.id, [registrationLine record]⟩ :=
        .placed offered valid (.inr absent)
      rwa [absent] at placed

theorem effect_change (single : c ≠ .loadDefaults) : Effect r c (r.change c) := by
  cases c with
  | register record => exact effect_register rfl (by simp)
  | upsert record =>
      cases valid : record.validate with
      | error e =>
          simp only [change, upsert, valid]
          apply Effect.refused
          intro k offered valid'
          obtain rfl : record = k := Option.some.inj offered
          rw [valid] at valid'
          cases valid'
      | ok _ =>
          simp only [change, upsert, valid]
          exact .placed rfl valid (.inl rfl)
  | registerDocument origin text =>
      cases parsed : Kind.parse origin text with
      | error e =>
          simp only [change, parsed]
          apply Effect.refused
          intro k offered
          simp [Change.record?, parsed, Except.toOption] at offered
      | ok record =>
          simp only [change, parsed]
          exact effect_register (by simp [Change.record?, parsed, Except.toOption]) (by simp)
  | loadDefaults => exact absurd rfl single

/-- What the users of a registry may rely on in a change for one record. -/
structure Confined (r : Registry) (c : Change) (outcome : Outcome) : Prop where
  refused : outcome.error ≠ none → outcome.registry = r
  others : ∀ id, (∀ record, c.record? = some record → record.id ≠ id) →
    outcome.registry.get id = r.get id
  accepted : outcome.error = none ↔ ∃ record, c.record? = some record ∧ record.validate = .ok () ∧
    (c = .upsert record ∨ record.id ∉ r.ids)
  stored : outcome.error = none → ∀ record, c.record? = some record →
    outcome.registry.get record.id = .ok record
  present : (∀ record, c ≠ .upsert record) → ∀ id ∈ r.ids, outcome.registry.get id = r.get id
  replaced : outcome.error = none → ∀ record, c = .upsert record →
    outcome.replaced = (r.get record.id).toOption

theorem not_mem_ids : id ∉ r.ids ↔ r.find? id = none := by
  cases found : r.find? id <;> simp [mem_ids, get_eq_ok, found]

theorem toOption_get : (r.get id).toOption = r.find? id := by
  cases found : r.find? id <;> simp [get, found, Except.toOption]

theorem Effect.confined (effect : Effect r c outcome) : Confined r c outcome := by
  cases effect with
  | refused e cause =>
      refine ⟨fun _ => rfl, fun _ _ => rfl, ?_, nofun, fun _ _ _ => rfl, nofun⟩
      constructor
      · nofun
      · rintro ⟨record, offered, valid, rule⟩
        obtain ⟨other, present⟩ := cause record offered valid
        rw [not_mem_ids] at rule
        exact absurd rule (not_or.mpr ⟨other, present⟩)
  | @placed record lines offered valid rule =>
      have only {k : SourceType} (offered' : c.record? = some k) : record = k :=
        Option.some.inj (offered.symm.trans offered')
      refine ⟨fun failed => absurd rfl failed, ?_, ?_, ?_, ?_, ?_⟩
      · intro id different
        apply get_congr
        rw [find?_insert, if_neg (different record offered)]
      · rw [← not_mem_ids] at rule
        exact ⟨fun _ => ⟨record, offered, valid, rule⟩, fun _ => rfl⟩
      · intro _ k offered'
        obtain rfl := only offered'
        rw [get_eq_ok, find?_insert, if_pos rfl]
      · intro other id member
        have absent := rule.resolve_left (other record)
        apply get_congr
        rw [find?_insert, if_neg]
        rintro rfl
        exact not_mem_ids.mpr absent member
      · rintro _ k rfl
        obtain rfl := only rfl
        exact toOption_get.symm

/-! ## Runs -/

/-- The registry after one change after the other, accepted or refused. -/
def run (r : Registry) (changes : List Change) : Registry :=
  changes.foldl (fun r c => (r.change c).registry) r

theorem Kept.registerAll (kept : Kept r) (records : List SourceType) :
    Kept (r.registerAll records).registry := by
  induction records generalizing r with
  | nil => exact kept
  | cons record rest ih =>
      rw [Registry.registerAll]
      cases result : r.register record with
      | error e => exact kept
      | ok next =>
          obtain ⟨valid, -, rfl⟩ := register_eq_ok.mp result
          exact ih (kept.insert valid)

theorem Kept.change (kept : Kept r) (c : Change) : Kept (r.change c).registry := by
  by_cases defaults : c = .loadDefaults
  · subst defaults
    exact kept.registerAll Kind.defaults
  · have effect : Effect r c (r.change c) := effect_change defaults
    generalize r.change c = outcome at effect
    cases effect with
    | refused => exact kept
    | placed _ valid _ => exact kept.insert valid

theorem Kept.run (kept : Kept r) (changes : List Change) : Kept (r.run changes) := by
  induction changes generalizing r with
  | nil => exact kept
  | cons c rest ih => exact ih (kept.change c)

/-- A registry that began bare or with the known kinds, after any changes, and any change for one
record after them. -/
theorem registry_of_run {start : Registry} (fresh : start = empty ∨ start = withDefaults.registry)
    (changes : List Change) :
    let r := start.run changes
    (∀ id k, r.get id = .ok k → k.id = id ∧ k.validate = .ok ()) ∧
      (∀ k ∈ r.records, r.get k.id = .ok k) ∧
      r.ids.Pairwise (· < ·) ∧ (∀ id, id ∈ r.ids ↔ ∃ k, r.get id = .ok k) ∧ r.size = r.ids.length ∧
      (∀ id, r.spec id = (r.get id).map SourceType.spec) ∧
      ∀ c, c ≠ .loadDefaults → Confined r c (r.change c) := by
  intro r
  have begun : Kept start := by
    rcases fresh with bare | known
    · rw [bare]
      exact kept_empty
    · rw [known, withDefaults]
      exact kept_empty.change .loadDefaults
  have kept : Kept r := begun.run changes
  refine ⟨?_, fun k member => get_eq_ok.mpr (kept.find?_id member), kept.increasing,
    fun id => mem_ids, (List.length_map _).symm, fun _ => rfl,
    fun c single => (effect_change single).confined⟩
  intro id k got
  obtain ⟨member, same⟩ := mem_of_find? (get_eq_ok.mp got)
  exact ⟨same, kept.valid k member⟩

/-- Ids that differ in case or by a blank are different ids, a known kind can be upserted but not
registered again, and loading the known kinds over them stops at the first. -/
theorem kinds_upserted_not_shadowed :
    let slow : SourceType := ⟨"water_level", "Slow gauge", none, [⟨"level", Binary64.ofNat 1, "m"⟩]⟩
    let upper : SourceType := ⟨"Water_level", "Gauge", none, []⟩
    let blank : SourceType := ⟨" ", "Blank", none, []⟩
    let r := withDefaults.registry.run
      [.register blank, .upsert slow, .registerDocument "bad.json" "[", .register upper, .loadDefaults]
    r.ids = ["Water_level", "air_quality", "water_level", "weather_station"] ∧
      r.ids.Pairwise (· < ·) ∧ (r.change (.register Kind.waterLevel)).registry = r ∧
      (r.change (.upsert Kind.waterLevel)).replaced = some slow := by
  intro slow upper blank r
  obtain ⟨-, -, increasing, -, -, -, single⟩ := @registry_of_run withDefaults.registry (.inr rfl)
    [.register blank, .upsert slow, .registerDocument "bad.json" "[", .register upper, .loadDefaults]
  have shadowed := single (.register Kind.waterLevel) (by simp)
  have replaced := single (.upsert Kind.waterLevel) (by simp)
  refine ⟨by decide +kernel, increasing, shadowed.refused (by decide +kernel), ?_⟩
  rw [replaced.replaced (by decide +kernel) Kind.waterLevel rfl]
  decide +kernel

end Telemetry.Registry
