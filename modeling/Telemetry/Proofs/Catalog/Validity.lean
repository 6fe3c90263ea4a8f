import Telemetry.Catalog.Record

/-!
# Valid source types

The check of a source type goes over its channels once, with the ids seen so far.  It
accepts just the types whose id is not blank, whose channels have distinct ids, and
whose frequencies are finite and positive.  Where it stops at a channel, that channel is
the first one with a fault, and a repeated id is the fault that is told.
-/
set_option autoImplicit false
namespace Telemetry

/-- Where no key repeats, the first entry with the key of an entry is that entry. -/
theorem find?_key {α : Type} {key : α → String} {x : α} {xs : List α} (distinct : (xs.map key).Nodup)
    (member : x ∈ xs) : xs.find? (fun y => key y == key x) = some x := by
  induction xs with
  | nil => simp at member
  | cons y xs ih =>
      obtain ⟨fresh, rest⟩ := List.nodup_cons.mp distinct
      rcases List.mem_cons.mp member with rfl | later
      · simp
      · have other : key y ≠ key x := fun same => fresh (same ▸ List.mem_map_of_mem later)
        simp [other, ih rest later]

/-- Of two elements of one list, either may lie in front of the other. -/
theorem split_cases {α : Type} {xs ys xs' ys' : List α} {x y : α}
    (same : xs ++ x :: ys = xs' ++ y :: ys') :
    (xs = xs' ∧ x = y) ∨ (∃ between, xs' = xs ++ x :: between) ∨
      ∃ between, xs = xs' ++ y :: between := by
  rcases List.append_eq_append_iff.mp same with ⟨between, rfl, tail⟩ | ⟨between, rfl, tail⟩ <;>
    cases between <;> simp_all

namespace SourceType
variable {r : SourceType} {kind : String}

structure Valid (r : SourceType) : Prop where
  named : Text.blank r.id = false
  distinct : (r.channels.map Channel.id).Nodup
  sampled : ∀ c ∈ r.channels, c.frequency.isFinite = true ∧ Binary64.zero false < c.frequency

theorem checkChannels_eq_ok {channels : List Channel} : ∀ {seen : List String},
    checkChannels kind seen channels = .ok () ↔
      (∀ c ∈ channels, c.id ∉ seen) ∧ (channels.map Channel.id).Nodup ∧
        ∀ c ∈ channels, c.frequency.isFinite = true ∧ Binary64.zero false < c.frequency := by
  induction channels with
  | nil => simp [checkChannels]
  | cons c rest ih =>
      intro seen
      have above : (Binary64.zero false).lt c.frequency = true ↔
          Binary64.zero false < c.frequency :=
        Iff.rfl
      by_cases repeated : c.id ∈ seen
      · simp [checkChannels, repeated]
      · by_cases usable : c.frequency.isFinite = true ∧ Binary64.zero false < c.frequency
        · have step : checkChannels kind seen (c :: rest) =
              checkChannels kind (c.id :: seen) rest := by
            simp [checkChannels, repeated, above, usable]
          rw [step, ih, List.forall_mem_cons, List.forall_mem_cons]
          simp only [List.map_cons, List.nodup_cons, List.mem_cons, not_or,
            List.mem_map, not_exists, not_and]
          constructor
          · rintro ⟨fresh, distinct, sampled⟩
            exact ⟨⟨repeated, fun d later => (fresh d later).2⟩,
              ⟨fun d later => (fresh d later).1, distinct⟩, usable, sampled⟩
          · rintro ⟨⟨-, unseen⟩, ⟨other, distinct⟩, -, sampled⟩
            exact ⟨fun d later => ⟨other d later, unseen d later⟩, distinct, sampled⟩
        · simp [checkChannels, repeated, above, usable]

theorem validate_eq_ok : r.validate = .ok () ↔ r.Valid := by
  cases blank : Text.blank r.id with
  | true =>
      simp only [validate, blank, if_true, reduceCtorEq, false_iff]
      intro valid
      exact absurd blank (by simp [valid.named])
  | false =>
      simp only [validate, blank, Bool.false_eq_true, if_false, checkChannels_eq_ok]
      constructor
      · rintro ⟨-, distinct, sampled⟩
        exact ⟨blank, distinct, sampled⟩
      · rintro ⟨-, distinct, sampled⟩
        exact ⟨by simp, distinct, sampled⟩

/-! ## The first fault -/

/-- The channel repeats an earlier id, or its frequency is not finite and positive. -/
def Faulty (earlier : List Channel) (c : Channel) : Prop :=
  c.id ∈ earlier.map Channel.id ∨
    ¬ (c.frequency.isFinite = true ∧ Binary64.zero false < c.frequency)

instance (earlier : List Channel) (c : Channel) : Decidable (Faulty earlier c) :=
  inferInstanceAs (Decidable (_ ∨ ¬ (_ ∧ _)))

/-- What is told of a faulty channel. -/
def fault (kind : String) (earlier : List Channel) (c : Channel) : CatalogError :=
  if c.id ∈ earlier.map Channel.id then .duplicateChannel kind c.id
  else .badFrequency kind c.id c.frequency.text

/-- No channel of the list is faulty after those in front of it. -/
def Faultless (channels : List Channel) : Prop :=
  ∀ before c after, channels = before ++ c :: after → ¬ Faulty before c

/-- The first faulty channel, and those in front of it. -/
structure FirstFault (channels earlier : List Channel) (c : Channel) : Prop where
  split : ∃ later, channels = earlier ++ c :: later
  faultless : Faultless earlier
  faulty : Faulty earlier c

variable {channels earlier past rest : List Channel} {c d : Channel} {seen : List String}
  {e : CatalogError}

theorem faultless_nil : Faultless [] := by simp [Faultless]

theorem Faultless.snoc (faultless : Faultless past) (sound : ¬ Faulty past c) :
    Faultless (past ++ [c]) := by
  intro before d after split
  rcases split_cases split with ⟨rfl, rfl⟩ | ⟨between, rfl⟩ | ⟨between, rfl⟩
  · exact sound
  · simp at split
  · exact faultless before d between rfl

theorem FirstFault.eq_of_faultless (first : FirstFault (past ++ c :: rest) earlier d)
    (faultless : Faultless past) (faulty : Faulty past c) : past = earlier ∧ c = d := by
  obtain ⟨⟨later, split⟩, faultless', faulty'⟩ := first
  rcases split_cases split with same | ⟨between, rfl⟩ | ⟨between, rfl⟩
  · exact same
  · exact absurd faulty (faultless' past c between rfl)
  · exact absurd faulty' (faultless earlier d between rfl)

/-- One turn of the check, where the ids seen are those of the channels gone through. -/
theorem checkChannels_cons (ids : ∀ id, id ∈ seen ↔ id ∈ past.map Channel.id) :
    checkChannels kind seen (c :: rest) =
      if Faulty past c then .error (fault kind past c) else checkChannels kind (c.id :: seen) rest := by
  have above : (Binary64.zero false).lt c.frequency = true ↔ Binary64.zero false < c.frequency :=
    Iff.rfl
  by_cases repeated : c.id ∈ past.map Channel.id
  · have faulty : Faulty past c := .inl repeated
    rw [checkChannels, if_pos ((ids c.id).mpr repeated), if_pos faulty, fault, if_pos repeated]
  · by_cases usable : c.frequency.isFinite = true ∧ Binary64.zero false < c.frequency
    · simp [checkChannels, Faulty, ids, repeated, above, usable]
    · simp [checkChannels, Faulty, fault, ids, repeated, above, usable]

/-- The channels gone through are faultless, and the rest is checked against their ids. -/
theorem checkChannels_eq_error (faultless : Faultless past)
    (ids : ∀ id, id ∈ seen ↔ id ∈ past.map Channel.id) :
    checkChannels kind seen rest = .error e ↔
      ∃ earlier c, FirstFault (past ++ rest) earlier c ∧ e = fault kind earlier c := by
  induction rest generalizing past seen with
  | nil =>
      simp only [checkChannels, reduceCtorEq, false_iff, List.append_nil]
      rintro ⟨earlier, c, ⟨⟨later, split⟩, -, faulty⟩, -⟩
      exact faultless earlier c later split faulty
  | cons c rest ih =>
      rw [checkChannels_cons ids]
      by_cases faulty : Faulty past c
      · rw [if_pos faulty, Except.error.injEq]
        constructor
        -- the check stops here, and no other split has its first fault elsewhere
        · rintro rfl
          exact ⟨past, c, ⟨⟨rest, rfl⟩, faultless, faulty⟩, rfl⟩
        · rintro ⟨earlier, d, first, rfl⟩
          obtain ⟨rfl, rfl⟩ := first.eq_of_faultless faultless faulty
          rfl
      · have ids' : ∀ id, id ∈ c.id :: seen ↔ id ∈ (past ++ [c]).map Channel.id := by
          intro id
          simp [ids, or_comm]
        rw [if_neg faulty, ih (faultless.snoc faulty) ids', List.append_cons past c rest]

theorem eq_fault_iff : e = fault kind earlier c ↔
    c.id ∈ earlier.map Channel.id ∧ e = .duplicateChannel kind c.id ∨
      c.id ∉ earlier.map Channel.id ∧ e = .badFrequency kind c.id c.frequency.text := by
  by_cases repeated : c.id ∈ earlier.map Channel.id <;> simp only [fault, repeated] <;> simp

theorem blank_eq_false : Text.blank r.id = false ↔ ∃ x ∈ r.id.toList, Text.isBlank x = false := by
  rw [Text.blank, List.all_eq_false]
  simp

/-- A type passes just if its id is not blank, its channel ids are distinct and its frequencies finite
and positive.  One with a blank id is refused for it, and any other for its first faulty channel. -/
theorem refused_for_first_fault (r : SourceType) :
    (r.validate = .ok () ↔ (∃ x ∈ r.id.toList, Text.isBlank x = false) ∧
      (r.channels.map Channel.id).Nodup ∧
      ∀ c ∈ r.channels, c.frequency.isFinite = true ∧ Binary64.zero false < c.frequency) ∧
    ∀ e, r.validate = .error e ↔
      (∀ x ∈ r.id.toList, Text.isBlank x = true) ∧ e = .emptyId ∨
      (∃ x ∈ r.id.toList, Text.isBlank x = false) ∧
        ∃ earlier c, FirstFault r.channels earlier c ∧
          (c.id ∈ earlier.map Channel.id ∧ e = .duplicateChannel r.id c.id ∨
            c.id ∉ earlier.map Channel.id ∧ e = .badFrequency r.id c.id c.frequency.text) := by
  refine ⟨?passes, fun e => ?refused⟩
  case passes =>
    rw [validate_eq_ok, ← blank_eq_false]
    exact ⟨fun valid => ⟨valid.named, valid.distinct, valid.sampled⟩,
      fun ⟨named, distinct, sampled⟩ => ⟨named, distinct, sampled⟩⟩
  case refused =>
    have channels : checkChannels r.id [] r.channels = .error e ↔
        ∃ earlier c, FirstFault r.channels earlier c ∧ e = fault r.id earlier c :=
      checkChannels_eq_error faultless_nil (by simp)
    simp only [← eq_fault_iff, ← blank_eq_false]
    rw [← List.all_eq_true, ← Text.blank, validate]
    cases blank : Text.blank r.id
    case false => simpa using channels
    case true => simp [eq_comm]

/-- The second wind channel has both faults, and the rain one that would be told alone. -/
theorem repeated_wind_told :
    let wind : Channel := ⟨"wind", Binary64.ofNat 1, "m/s"⟩
    let again : Channel := ⟨"wind", Binary64.infinity true, "m/s"⟩
    let rain : Channel := ⟨"rain", Binary64.nan, "mm"⟩
    let r : SourceType := ⟨" station", "Station", none, [wind, again, rain]⟩
    r.validate = .error (.duplicateChannel " station" "wind") := by
  intro wind again rain r
  obtain ⟨-, refused⟩ := refused_for_first_fault r
  have faultless : Faultless [wind] := faultless_nil.snoc (by decide +kernel)
  refine (refused _).mpr (.inr ⟨⟨'s', by decide, by decide⟩, [wind], again, ?_, .inl ?_⟩)
  · exact ⟨⟨[rain], rfl⟩, faultless, by decide +kernel⟩
  · exact ⟨by decide, rfl⟩

end SourceType
end Telemetry
