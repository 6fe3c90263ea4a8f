import Mathlib.Data.List.Nodup
import Telemetry.Cache.Call

/-!
# Records by key

What `index` makes of a list of records: every record has a key, no key occurs
twice, and under each key stands the last record that has it.
-/
set_option autoImplicit false
namespace Telemetry.Cache

variable {κ ν : Type} [DecidableEq κ]

theorem lookup_filter_ne (entries : List (κ × ν)) (key other : κ) :
    (entries.filter fun e => e.1 ≠ key).lookup other =
      if other = key then none else entries.lookup other := by
  induction entries with
  | nil => simp
  | cons entry rest ih =>
      obtain ⟨held, value⟩ := entry
      by_cases same : held = key
      · subst same
        rw [List.filter_cons_of_neg (by simp), ih, List.lookup_cons]
        by_cases equal : other = held
        · simp [equal]
        · have differs : (other == held) = false := by simpa using equal
          rw [differs]
      · rw [List.filter_cons_of_pos (by simpa using same), List.lookup_cons, ih, List.lookup_cons]
        by_cases equal : other = held
        · subst equal
          simp [same]
        · have differs : (other == held) = false := by simpa using equal
          rw [differs]

theorem lookup_insert (entries : List (κ × ν)) (key other : κ) (value : ν) :
    (insert entries key value).lookup other =
      if other = key then some value else entries.lookup other := by
  rw [insert, List.lookup_append, lookup_filter_ne]
  by_cases equal : other = key
  · simp [equal]
  · have differs : (other == key) = false := by simpa using equal
    simp [equal, List.lookup_cons, differs]

theorem keys_insert_nodup {entries : List (κ × ν)} (distinct : (entries.map Prod.fst).Nodup)
    (key : κ) (value : ν) : ((insert entries key value).map Prod.fst).Nodup := by
  rw [insert, List.map_append, List.nodup_append]
  refine ⟨distinct.sublist (List.filter_sublist.map _), by simp, ?_⟩
  intro held there last same
  obtain ⟨entry, kept, rfl⟩ := List.mem_map.mp there
  have apart := (List.mem_filter.mp kept).2
  simp_all

/-- The entries are the records by key, the last record counting under each. -/
structure Indexes (keyOf : ν → Option κ) (records : List ν) (entries : List (κ × ν)) : Prop where
  keyed : ∀ value ∈ records, (keyOf value).isSome = true
  distinct : (entries.map Prod.fst).Nodup
  last : ∀ key, entries.lookup key = records.reverse.find? fun value => keyOf value = some key

theorem indexOnto_spec {keyOf : ν → Option κ} {records : List ν} {before after : List (κ × ν)}
    (arranged : indexOnto keyOf before records = some after)
    (distinct : (before.map Prod.fst).Nodup) :
    (∀ value ∈ records, (keyOf value).isSome = true) ∧ (after.map Prod.fst).Nodup ∧
    ∀ key, after.lookup key =
      (records.reverse.find? fun value => keyOf value = some key).or (before.lookup key) := by
  induction records generalizing before with
  | nil =>
      cases Option.some.inj arranged
      exact ⟨by simp, distinct, by simp⟩
  | cons value rest ih =>
      cases held : keyOf value with
      | none => simp [indexOnto, held] at arranged
      | some key =>
          simp only [indexOnto, held] at arranged
          obtain ⟨keyed, unique, last⟩ := ih arranged (keys_insert_nodup distinct key value)
          refine ⟨?_, unique, ?_⟩
          · simpa [held] using keyed
          · intro other
            rw [last, lookup_insert, List.reverse_cons, List.find?_append, Option.or_assoc]
            congr 1
            by_cases equal : other = key
            · simp [equal, held]
            · simp [equal, held, Ne.symm equal]

theorem indexes_of_index {keyOf : ν → Option κ} {records : List ν} {entries : List (κ × ν)}
    (arranged : index keyOf records = some entries) : Indexes keyOf records entries := by
  obtain ⟨keyed, distinct, last⟩ := indexOnto_spec arranged (by simp)
  exact ⟨keyed, distinct, fun key => by simpa using last key⟩

end Telemetry.Cache
