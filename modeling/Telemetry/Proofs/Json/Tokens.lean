import Telemetry.Json.Printer
import Telemetry.Proofs.Json.Nested

/-!
# Documents as tokens

The tokens of a document stand between its text and its tree: the written text is read as
these tokens, numerals and strings included, and the tokens are read as the tree.
-/
set_option autoImplicit false
namespace Telemetry.Json

mutual

/-- The tokens of a document. -/
def tokens : Json → List Token
  | .null => [.null]
  | .bool b => [.bool b]
  | .number n => [.number n]
  | .string s => [.string s]
  | .array items => .openBracket :: (itemTokens items ++ [.closeBracket])
  | .object members => .openBrace :: (memberTokens members ++ [.closeBrace])

/-- Items with commas between them. -/
def itemTokens : List Json → List Token
  | [] => []
  | [j] => tokens j
  | j :: rest => tokens j ++ .comma :: itemTokens rest

/-- Members with commas between them. -/
def memberTokens : List (Option String × Json) → List Token
  | [] => []
  | [(k, j)] => .string k :: .colon :: tokens j
  | (k, j) :: rest => .string k :: .colon :: (tokens j ++ .comma :: memberTokens rest)

end

/-- A document that can be written: whole strings and written numerals. -/
inductive Written : Json → Prop where
  | null : Written .null
  | bool (b : Bool) : Written (.bool b)
  | number {n : Numeral} (numeral : n.Written) : Written (.number n)
  | text (s : String) : Written (.string (some s))
  | array {items : List Json} (each : ∀ j ∈ items, Written j) : Written (.array items)
  | object {members : List (Option String × Json)} (keys : ∀ m ∈ members, m.1.isSome)
      (each : ∀ m ∈ members, Written m.2) : Written (.object members)

theorem written_int (i : Int) : (int i).Written := .number (Numeral.written_ofInt i)

theorem written_record {members : List (String × Json)} (each : ∀ m ∈ members, m.2.Written) :
    (record members).Written := by
  apply Written.object
  · intro m member
    obtain ⟨field, -, rfl⟩ := List.mem_map.mp member
    rfl
  · intro m member
    obtain ⟨field, listed, rfl⟩ := List.mem_map.mp member
    exact each field listed

/-! ## Parts and what stands between them -/

/-- Parts written one by one with a mark between any two. -/
theorem eq_intercalate {α β : Type} {f : List α → List β} {g : α → List β} {mark : β}
    (none : f [] = []) (one : ∀ x, f [x] = g x)
    (more : ∀ x y rest, f (x :: y :: rest) = g x ++ mark :: f (y :: rest)) (xs : List α) :
    f xs = [mark].intercalate (xs.map g) := by
  induction xs with
  | nil => exact none
  | cons x rest ih =>
      cases rest with
      | nil => simp [one]
      | cons y rest =>
          rw [more, ih, List.map_cons, List.map_cons, List.map_cons, List.intercalate_cons_cons,
            List.append_assoc, List.singleton_append]

theorem itemChars_eq (items : List Json) : itemChars items = [','].intercalate (items.map chars) :=
  eq_intercalate rfl (fun _ => rfl) (fun _ _ _ => rfl) items

theorem memberChars_eq (members : List (Option String × Json)) : memberChars members =
    [','].intercalate (members.map fun m => quotedChars m.1 ++ ':' :: chars m.2) :=
  eq_intercalate rfl (fun _ => rfl) (fun _ _ _ => by simp [memberChars]) members

theorem itemTokens_eq (items : List Json) :
    itemTokens items = [.comma].intercalate (items.map tokens) :=
  eq_intercalate rfl (fun _ => rfl) (fun _ _ _ => rfl) items

theorem memberTokens_eq (members : List (Option String × Json)) : memberTokens members =
    [.comma].intercalate (members.map fun m => .string m.1 :: .colon :: tokens m.2) :=
  eq_intercalate rfl (fun _ => rfl) (fun _ _ _ => rfl) members

/-! ## From the text to the tokens -/

namespace Lexer
variable {ts : List Token} {units : List Nat}

theorem hexDigit?_hexDigit {d : Nat} (small : d < 16) : hexDigit? (hexDigit d) = some d := by
  interval_cases d <;> rfl

/-- A character of a string is read back from between its quotes. -/
theorem run_quotedChar (c : Char) :
    run ⟨.text units, ts⟩ (quotedChar c) = some ⟨.text (c.toNat :: units), ts⟩ := by
  rw [quotedChar]
  split_ifs with quote backslash newline carriage tab backspace feed control
  · subst quote; rfl
  · subst backslash; rfl
  · subst newline; rfl
  · subst carriage; rfl
  · subst tab; rfl
  · subst backspace; rfl
  · subst feed; rfl
  · have high := hexDigit?_hexDigit (d := c.toNat / 16) (by omega)
    have low := hexDigit?_hexDigit (d := c.toNat % 16) (by omega)
    have zero : hexDigit? '0' = some 0 := rfl
    have value : c.toNat / 16 * 16 + c.toNat % 16 = c.toNat := by omega
    simp [step, zero, high, low, value]
  · have printable : ¬ c.toNat < 32 := control
    simp [step, quote, backslash, printable]

theorem run_quoted (cs : List Char) : run ⟨.text units, ts⟩ (cs.flatMap quotedChar) =
    some ⟨.text ((cs.map Char.toNat).reverse ++ units), ts⟩ := by
  induction cs generalizing units with
  | nil => rfl
  | cons c rest ih => simp [run_quotedChar, ih]

/-- Characters are no surrogates. -/
theorem pairSurrogates_toNat (cs : List Char) : pairSurrogates (cs.map Char.toNat) = some cs := by
  induction cs with
  | nil => rfl
  | cons c rest ih =>
      have whole : c.toNat < 0xD800 ∨ 0xDFFF < c.toNat ∧ c.toNat < 0x110000 := c.valid
      have high : isHighSurrogate c.toNat = false := by
        simp only [isHighSurrogate, Bool.and_eq_false_iff, decide_eq_false_iff_not]
        omega
      have low : isLowSurrogate c.toNat = false := by
        simp only [isLowSurrogate, Bool.and_eq_false_iff, decide_eq_false_iff_not]
        omega
      rw [List.map_cons, pairSurrogates.eq_def]
      simp [high, low, ih]

theorem run_quotedChars (s : String) : run ⟨.between, ts⟩ (quotedChars (some s)) =
    some ⟨.between, .string (some s) :: ts⟩ := by
  have opening : step ⟨.between, ts⟩ '"' = some ⟨.text [], ts⟩ := rfl
  have text : stringOf (s.toList.map Char.toNat).reverse = some s := by
    simp [stringOf, pairSurrogates_toNat]
  rw [quotedChars, Option.getD_some, run_cons, opening, Option.bind_some, run_append, run_quoted]
  simp [step, text]

theorem spells_quotedChars (s : String) : Spells (quotedChars (some s)) [.string (some s)] :=
  fun _ => ⟨_, run_quotedChars s, closing_between⟩

/-- The text of a written document is read as its tokens. -/
theorem spells_chars {j : Json} (written : j.Written) : Spells (chars j) (tokens j) := by
  induction written with
  | null => exact fun ts => ⟨_, rfl, closing_between⟩
  | bool b => cases b <;> exact fun ts => ⟨_, rfl, closing_between⟩
  | number numeral => exact fun ts => run_numeral numeral
  | text s => exact spells_quotedChars s
  | @array items _ ih =>
      rw [chars, tokens, itemChars_eq, itemTokens_eq]
      apply (Spells.separated _).enclosed rfl rfl
      rw [List.forall₂_map_left_iff, List.forall₂_map_right_iff, List.forall₂_same]
      exact ih
  | @object members keys _ ih =>
      rw [chars, tokens, memberChars_eq, memberTokens_eq]
      apply (Spells.separated _).enclosed rfl rfl
      rw [List.forall₂_map_left_iff, List.forall₂_map_right_iff, List.forall₂_same]
      intro m member
      obtain ⟨k, named⟩ := Option.isSome_iff_exists.mp (keys m member)
      rw [named]
      exact (spells_quotedChars k).mark rfl (ih m member)

end Lexer

/-! ## From the tokens to the tree -/

theorem Parser.builds_tokens {j : Json} (written : j.Written) : Builds (tokens j) j := by
  induction written with
  | null | bool | number | text => exact fun stack => Option.bind_fun_some _
  | @array items _ ih =>
      rw [tokens, itemTokens_eq]
      apply Builds.array
      rw [List.forall₂_map_left_iff, List.forall₂_same]
      exact ih
  | @object members _ _ ih =>
      rw [tokens, memberTokens_eq]
      apply Builds.object
      rw [List.forall₂_map_left_iff, List.forall₂_same]
      exact fun m member => ⟨_, rfl, ih m member⟩

/-- The text of a written document reads back as the document. -/
theorem parse?_render {j : Json} (written : j.Written) : parse? j.render = some j := by
  rw [parse?_eq_some_iff, render, String.toList_ofList]
  exact ⟨_, Lexer.spells_chars written, Parser.builds_tokens written⟩

end Telemetry.Json
