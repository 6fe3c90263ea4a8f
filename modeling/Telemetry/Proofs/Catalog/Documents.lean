import Telemetry.Catalog.Document
import Telemetry.Catalog.Record
import Telemetry.Proofs.Json.Parts
import Telemetry.Proofs.Json.Plain

/-!
# Catalog documents item by item

A catalog is read item by item, all or none, and an object is read as the array that its last
member `items` holds.
-/
set_option autoImplicit false
namespace Telemetry.Catalog

open Json

variable {α : Type} {record? : Json → Option α} {origin text : String} {j d : Json}
  {items items' : List Json} {members members' before after : List (Option String × Json)}
  {e : ConnectorError} {rs : List α}

/-- The record of an item, read from its plain value. -/
def item? (record? : Json → Option α) (j : Json) : Option α := (plain? j).bind record?

/-- All records, or the error without details. -/
def settle (origin : String) : Option (List α) → Except ConnectorError (List α)
  | some rs => .ok rs
  | none => .error (.decode origin (.other unworded))

theorem settle_eq_ok {rs? : Option (List α)} : settle origin rs? = .ok rs ↔ rs? = some rs := by
  cases rs? <;> simp [settle]

theorem settle_eq_error {rs? : Option (List α)} :
    settle origin rs? = .error e ↔ rs? = none ∧ .decode origin (.other unworded) = e := by
  cases rs? <;> simp [settle]

/-! ## The document as a whole -/

theorem decode_of_no_value (flawed : (parse? text).bind generic? = none) :
    decode record? origin text = settle origin none := by
  rw [decode, records, flawed]
  rfl

theorem decode_of_value (value : (parse? text).bind generic? = some d) (held : items? d = .ok items') :
    decode record? origin text = settle origin (items'.mapM record?) := by
  rw [decode, records, value]
  simp only [held]
  cases items'.mapM record? <;> rfl

theorem decode_of_fault {fault : DecodeFault} (value : (parse? text).bind generic? = some d)
    (held : items? d = .error fault) : decode record? origin text = .error (.decode origin fault) := by
  rw [decode, records, value]
  simp only [held]

theorem array_or_object_of_items? (held : items? d = .ok items) :
    d = .array items ∨ ∃ members, d = .object members ∧
      members.lookup (some "items") = some (.array items) := by
  cases d with
  | array items' =>
      cases held
      exact .inl rfl
  | object members =>
      rw [items?] at held
      split at held
      · next found =>
        cases held
        exact .inr ⟨members, rfl, found⟩
      · cases held
      · cases held
  | _ => cases held

theorem decode_error (failed : decode record? origin text = .error e) :
    ∃ fault, e = .decode origin fault := by
  rw [decode] at failed
  split at failed
  · cases failed
  · exact ⟨_, (Except.error.inj failed).symm⟩

/-- What the records of plain values come to, which is told item by item. -/
theorem mapM_item? : items.mapM (item? record?) = (items.mapM plain?).bind (·.mapM record?) :=
  (mapM_bind_mapM record? items).symm

theorem decode_array (read : parse? text = some (.array items))
    (shallow : (Json.array items).depth ≤ depthLimit) :
    decode record? origin text = settle origin (items.mapM (item? record?)) := by
  have value : (parse? text).bind generic? = (items.mapM plain?).map .array := by
    rw [read, Option.bind_some, generic?, if_pos shallow, plain?_array]
  rw [mapM_item?]
  cases mapped : items.mapM plain? with
  | none =>
      rw [mapped] at value
      exact decode_of_no_value value
  | some items' =>
      rw [mapped] at value
      exact decode_of_value value rfl

theorem forall₂_of_plainMember? (mapped : members.mapM plainMember? = some members') :
    List.Forall₂ (fun m m' => m'.1 = m.1 ∧ plain? m.2 = some m'.2) members members' :=
  (mapM_eq_some.mp mapped).imp fun _ _ plain => (plainMember?_eq_some.mp plain).2

theorem mem_around {α : Type} {x y : α} {before after : List α} (member : y ∈ before ++ x :: after) :
    y = x ∨ y ∈ before ++ after :=
  List.mem_cons.mp (List.perm_middle.mem_iff.mp member)

theorem depth_around (shallow : (Json.array items).depth < depthLimit)
    (others : ∀ m ∈ before ++ after, m.2.depth < depthLimit) :
    (Json.object (before ++ (some "items", .array items) :: after)).depth ≤ depthLimit := by
  have each : depthOfMembers (before ++ (some "items", .array items) :: after) ≤ depthLimit - 1 := by
    rw [depthOfMembers_le]
    intro m member
    rcases mem_around member with rfl | other
    · exact Nat.le_pred_of_lt shallow
    · exact Nat.le_pred_of_lt (others m other)
  exact Nat.add_le_of_le_sub (by decide) each

/-- Among plain members only the array can be to blame. -/
theorem mapM_plain?_of_around (others : ∀ m ∈ before ++ after, m.1.isSome ∧ (plain? m.2).isSome)
    (mapped : (before ++ (some "items", .array items) :: after).mapM plainMember? = none) :
    items.mapM plain? = none := by
  obtain ⟨m, member, flawed⟩ := mapM_eq_none.mp mapped
  rcases mem_around member with rfl | other
  · rcases plainMember?_eq_none.mp flawed with key | value
    · cases key
    · rwa [plain?_array, Option.map_eq_none_iff] at value
  · obtain ⟨key, value⟩ := others m other
    rcases plainMember?_eq_none.mp flawed with none | none
    · simp [none] at key
    · simp [none] at value

/-- An object with plain members around its last `items` is read as that array. -/
theorem decode_object
    (read : parse? text = some (.object (before ++ (some "items", .array items) :: after)))
    (shallow : (Json.array items).depth < depthLimit) (last : ∀ m ∈ after, m.1 ≠ some "items")
    (others : ∀ m ∈ before ++ after, m.1.isSome ∧ (plain? m.2).isSome ∧ m.2.depth < depthLimit) :
    decode record? origin text = settle origin (items.mapM (item? record?)) := by
  obtain ⟨members, whole⟩ : ∃ members, members = before ++ (some "items", .array items) :: after :=
    ⟨_, rfl⟩
  have there : LastIs members (some "items") (.array items) := ⟨before, after, whole, last⟩
  have within : (Json.object members).depth ≤ depthLimit := by
    rw [whole]
    exact depth_around shallow fun m other => (others m other).2.2
  have value : (parse? text).bind generic? =
      (members.mapM plainMember?).map fun ms => .object (lastMembers ms) := by
    rw [read, ← whole, Option.bind_some, generic?, if_pos within, plain?_object]
  rw [mapM_item?]
  cases mapped : members.mapM plainMember? with
  | none =>
      rw [mapped] at value
      rw [whole] at mapped
      rw [mapM_plain?_of_around (fun m other => ⟨(others m other).1, (others m other).2.1⟩) mapped]
      exact decode_of_no_value value
  | some members' =>
      rw [mapped] at value
      obtain ⟨d, held, plain⟩ :=
        there.related (R := fun j d => plain? j = some d) (forall₂_of_plainMember? mapped)
      rw [plain?_array] at plain
      obtain ⟨items', each, rfl⟩ := Option.map_eq_some_iff.mp plain
      rw [each]
      refine decode_of_value value ?_
      rw [Catalog.items?, lookup_lastMembers.mpr held]

/-- What is read is an array, or an object whose last `items` is one. -/
theorem parse?_of_decode (accepted : decode record? origin text = .ok rs) :
    (∃ items, parse? text = some (.array items)) ∨
      ∃ members items, parse? text = some (.object members) ∧
        LastIs members (some "items") (.array items) := by
  cases value : (parse? text).bind generic? with
  | none =>
      rw [decode_of_no_value value] at accepted
      cases accepted
  | some d =>
      obtain ⟨j, read, generic⟩ := Option.bind_eq_some_iff.mp value
      rw [generic?] at generic
      split_ifs at generic
      cases held : items? d with
      | error fault =>
          rw [decode_of_fault value held] at accepted
          cases accepted
      | ok items =>
          rcases array_or_object_of_items? held with rfl | ⟨members, rfl, found⟩
          · obtain ⟨items', rfl⟩ := array_of_plain? generic
            exact .inl ⟨items', read⟩
          · obtain ⟨members', ms, rfl, mapped, rfl⟩ := object_of_plain? generic
            have each := (forall₂_of_plainMember? mapped).flip
            obtain ⟨j, last, plain⟩ := (lookup_lastMembers.mp found).related
              (R := fun d j => plain? j = some d) (each.imp fun _ _ ⟨key, plain⟩ => ⟨key.symm, plain⟩)
            obtain ⟨items', rfl⟩ := array_of_plain? plain
            exact .inr ⟨members', items', read, last⟩

/-! ## Item by item -/

theorem depth_singleton : (Json.array [j]).depth = j.depth + 1 := by
  rw [depth, depthOfItems, depthOfItems, Nat.max_zero]

theorem parse?_singleton (read : parse? text = some j) :
    parse? ("[" ++ text ++ "]") = some (.array [j]) := by
  simpa using parse?_array (.cons read .nil)

/-- The text of one item in brackets is read as the record of the item. -/
theorem decode_single (read : parse? text = some j) (shallow : j.depth < depthLimit) :
    decode record? origin ("[" ++ text ++ "]") =
      settle origin ((item? record? j).map fun r => [r]) := by
  rw [decode_array (parse?_singleton read) (depth_singleton ▸ shallow), List.mapM_cons]
  cases item? record? j <;> rfl

theorem decode_single_eq_ok {r : α} (read : parse? text = some j) (shallow : j.depth < depthLimit) :
    decode record? origin ("[" ++ text ++ "]") = .ok [r] ↔ item? record? j = some r := by
  rw [decode_single read shallow, settle_eq_ok]
  simp

theorem decode_single_eq_error (read : parse? text = some j) (shallow : j.depth < depthLimit) :
    (∃ e, decode record? origin ("[" ++ text ++ "]") = .error e) ↔ item? record? j = none := by
  simp [decode_single read shallow, settle_eq_error]

theorem forall₂_decode_single {texts : List String}
    (each : List.Forall₂ (fun t j => parse? t = some j) texts items)
    (shallow : ∀ j ∈ items, j.depth < depthLimit) :
    List.Forall₂ (fun t r => decode record? origin ("[" ++ t ++ "]") = .ok [r]) texts rs ↔
      List.Forall₂ (fun j r => item? record? j = some r) items rs := by
  induction each generalizing rs with
  | nil => simp
  | @cons t j texts items read _ ih =>
      rw [List.forall_mem_cons] at shallow
      simp only [List.forall₂_cons_left_iff, decode_single_eq_ok read shallow.1, ih shallow.2]

theorem exists_decode_single_error {texts : List String}
    (each : List.Forall₂ (fun t j => parse? t = some j) texts items)
    (shallow : ∀ j ∈ items, j.depth < depthLimit) :
    (∃ t ∈ texts, ∃ e, decode record? origin ("[" ++ t ++ "]") = .error e) ↔
      ∃ j ∈ items, item? record? j = none := by
  induction each with
  | nil => simp
  | @cons t j texts items read _ ih =>
      rw [List.forall_mem_cons] at shallow
      rw [List.exists_mem_cons_iff, List.exists_mem_cons_iff,
        decode_single_eq_error read shallow.1, ih shallow.2]

/-- An array, and an object with whole keys and plain values around its last `items`, are read
alike: item by item, in order, and all or none.  Nothing else is a catalog. -/
theorem decode_item_by_item (record? : Json → Option α) (origin : String) :
    (∀ (a : String) (items : List Json), parse? a = some (.array items) →
      (Json.array items).depth ≤ 126 →
      (∀ (o : String) (before after : List (Option String × Json)),
        parse? o = some (.object (before ++ (some "items", .array items) :: after)) →
        (∀ m ∈ after, m.1 ≠ some "items") →
        (∀ m ∈ before ++ after, m.1.isSome ∧ (plain? m.2).isSome ∧ m.2.depth ≤ 126) →
        decode record? origin o = decode record? origin a) ∧
      (∃ texts : List String, (",".intercalate texts).toList <:+: a.toList ∧
        List.Forall₂ (fun t j => parse? t = some j) texts items) ∧
      ∀ texts : List String, List.Forall₂ (fun t j => parse? t = some j) texts items →
        (∀ rs, decode record? origin a = .ok rs ↔
          List.Forall₂ (fun t r => decode record? origin ("[" ++ t ++ "]") = .ok [r]) texts rs) ∧
        ((∃ e, decode record? origin a = .error e) ↔
          ∃ t ∈ texts, ∃ e, decode record? origin ("[" ++ t ++ "]") = .error e)) ∧
    ∀ text : String, (¬ ∃ items, parse? text = some (.array items)) →
      (¬ ∃ members items, parse? text = some (.object members) ∧
        LastIs members (some "items") (.array items)) →
      ∃ fault, decode record? origin text = .error (.decode origin fault) := by
  constructor
  · intro a items read shallow
    have array : decode record? origin a = settle origin (items.mapM (item? record?)) :=
      decode_array read (Nat.le_succ_of_le shallow)
    have inside : ∀ j ∈ items, j.depth < depthLimit := by
      have each : depthOfItems items ≤ 126 := Nat.le_of_succ_le shallow
      exact fun j member => Nat.lt_succ_of_le (depthOfItems_le.mp each j member)
    refine ⟨fun o before after object last others => ?_, exists_texts_of_parse? read,
      fun texts each => ⟨fun rs => ?_, ?_⟩⟩
    · rw [array]
      exact decode_object object (Nat.lt_succ_of_le shallow) last fun m member =>
        ⟨(others m member).1, (others m member).2.1, Nat.lt_succ_of_le (others m member).2.2⟩
    · rw [array, settle_eq_ok, mapM_eq_some, forall₂_decode_single each inside]
    · rw [array, exists_decode_single_error each inside, ← mapM_eq_none]
      simp [settle_eq_error]
  · intro text noArray noItems
    cases result : decode record? origin text with
    | ok rs =>
        rcases parse?_of_decode result with array | object
        · exact absurd array noArray
        · exact absurd object noItems
    | error e =>
        obtain ⟨fault, rfl⟩ := decode_error result
        exact ⟨fault, rfl⟩

/-- An object whose first `items` is null is read as the array in its last. -/
theorem last_items_read :
    let a := "[[\"s\", \"Gauge\", \"w\"]]"
    let o := "\x7b\"items\": null, \"items\": " ++ a ++ "\x7d"
    decode Source.ofJson? "f" a = .ok [⟨"s", "Gauge", "w"⟩] ∧
      decode Source.ofJson? "f" o = decode Source.ofJson? "f" a ∧
      ∃ fault, decode Source.ofJson? "f" "null" = .error (.decode "f" fault) := by
  intro a o
  let items : List Json := [.array [text "s", text "Gauge", text "w"]]
  let name (s : String) : Token := .string (some s)
  let listed : List Token := [.openBracket, .openBracket, name "s", .comma, name "Gauge", .comma,
    name "w", .closeBracket, .closeBracket]
  have tokens : Lexer.tokens? a.toList = some listed := by decide +kernel
  have tokens' : Lexer.tokens? o.toList = some ([.openBrace, name "items", .colon, .null, .comma,
    name "items", .colon] ++ listed ++ [.closeBrace]) := by decide +kernel
  have array : parse? a = some (.array items) := parse?_of_tokens tokens rfl
  have object : parse? o = some (.object ([(some "items", .null)] ++
    (some "items", .array items) :: [])) := parse?_of_tokens tokens' rfl
  have lone : Lexer.tokens? "null".toList = some [.null] := by decide +kernel
  have null : parse? "null" = some .null := parse?_of_tokens lone rfl
  obtain ⟨read, refused⟩ := decode_item_by_item Source.ofJson? "f"
  exact ⟨by decide +kernel,
    (read a items array (by decide)).1 o _ [] object (by simp) (by simp [plain?, depth]),
    refused "null" (by simp [null]) (by simp [null])⟩

/-- Half a surrogate pair in a name makes an object no catalog, though the values of all members are
plain. -/
theorem half_pair_in_name_refused :
    let o := "\x7b\"\\ud800\": null, \"items\": []\x7d"
    parse? "[]" = some (.array []) ∧
      parse? o = some (.object ([(none, .null)] ++ (some "items", .array []) :: [])) ∧
      (plain? .null).isSome ∧ Json.null.depth ≤ 126 ∧
      decode Source.ofJson? "f" "[]" = .ok [] ∧
      decode Source.ofJson? "f" o = .error (.decode "f" (.other unworded)) := by
  intro o
  have tokens : Lexer.tokens? "[]".toList = some [.openBracket, .closeBracket] := by decide +kernel
  have tokens' : Lexer.tokens? o.toList = some [.openBrace, .string none, .colon, .null, .comma,
    .string (some "items"), .colon, .openBracket, .closeBracket, .closeBrace] := by decide +kernel
  exact ⟨parse?_of_tokens tokens rfl, parse?_of_tokens tokens' rfl, rfl, by decide,
    by decide +kernel, by decide +kernel⟩

end Telemetry.Catalog
