import Telemetry.Catalog.Record
import Telemetry.Proofs.Catalog.Documents

/-!
# One source type, two documents

A text that repeats no key gives the same source type by itself and as the one item of a
catalog.  Only a flaw in what the source type passes over keeps it out of the catalog.
-/
set_option autoImplicit false
namespace Telemetry

open Json Catalog

variable {text origin : String} {j : Json} {r : SourceType}

theorem Kind.parse_of_read (read : Json.parse? text = some j) (given : SourceType.ofJson? j = some r) :
    Kind.parse origin text = r.validate.map fun _ => r := by
  rw [Kind.parse, read, Option.bind_some, given]

theorem Kind.of_parse (read : Json.parse? text = some j) (accepted : Kind.parse origin text = .ok r) :
    SourceType.ofJson? j = some r := by
  rw [Kind.parse, read, Option.bind_some] at accepted
  cases given : SourceType.ofJson? j with
  | none =>
      rw [given] at accepted
      cases accepted
  | some s =>
      simp only [given] at accepted
      cases valid : s.validate with
      | error e =>
          rw [valid] at accepted
          cases accepted
      | ok _ =>
          rw [valid] at accepted
          cases accepted
          rfl

namespace Json

/-- Nested too deep for a catalog of one item, or with a flaw. -/
def Unfit (j : Json) : Prop := depthLimit < (Json.array [j]).depth ∨ j.Flawed

end Json

namespace Catalog
variable {α : Type} {record? : Json → Option α}

theorem decode_single_of_unfit (read : Json.parse? text = some j) (unfit : j.Unfit) :
    decode record? origin ("[" ++ text ++ "]") = .error (.decode origin (.other unworded)) := by
  refine decode_of_no_value ?_
  rw [parse?_singleton read, Option.bind_some, generic?]
  split_ifs with shallow
  · have flawed := unfit.resolve_left (Nat.not_lt_of_le shallow)
    exact plain?_eq_none.mpr (.item List.mem_cons_self flawed)
  · rfl

/-- A plain document that repeats no key gives the catalog of one item just what it gives alone. -/
theorem decode_single_of_distinct (read : Json.parse? text = some j) (distinct : j.Distinct)
    (fit : ¬ j.Unfit) : decode record? origin ("[" ++ text ++ "]") =
      settle origin ((record? j).map fun r => [r]) := by
  obtain ⟨shallow, sound⟩ := not_or.mp fit
  rw [not_lt, depth_singleton] at shallow
  rw [decode_single read shallow, item?]
  cases plain : plain? j with
  | none => exact absurd (plain?_eq_none.mp plain) sound
  | some d => rw [distinct.eq_of_plain? plain, Option.bind_some]

end Catalog

/-- A text that repeats no key is the same source type by itself as in a catalog of its own.  Where
only the text by itself is accepted, it is nested too deep for a catalog, or has a flaw. -/
theorem source_type_either_way {text : String} {j : Json} (read : Json.parse? text = some j)
    (distinct : j.Distinct) (origin source : String) :
    (∀ rs, decode SourceType.ofJson? origin ("[" ++ text ++ "]") = .ok rs →
      ∃ r, rs = [r] ∧ (r.validate = .ok () → Kind.parse source text = .ok r) ∧
        ∀ e, r.validate = .error e → Kind.parse source text = .error e) ∧
    ∀ r, Kind.parse source text = .ok r →
      decode SourceType.ofJson? origin ("[" ++ text ++ "]") = .ok [r] ∨
        decode SourceType.ofJson? origin ("[" ++ text ++ "]") =
          .error (.decode origin (.other unworded)) ∧
        (depthLimit < (Json.array [j]).depth ∨ j.Flawed) := by
  by_cases unfit : j.Unfit
  · have refused : decode SourceType.ofJson? origin ("[" ++ text ++ "]") =
        .error (.decode origin (.other unworded)) := decode_single_of_unfit read unfit
    constructor
    · intro rs accepted
      rw [refused] at accepted
      cases accepted
    · exact fun r _ => .inr ⟨refused, unfit⟩
  · rw [decode_single_of_distinct read distinct unfit]
    constructor
    · intro rs accepted
      obtain ⟨r, given, rfl⟩ := Option.map_eq_some_iff.mp (settle_eq_ok.mp accepted)
      refine ⟨r, rfl, fun valid => ?_, fun e invalid => ?_⟩
      · rw [Kind.parse_of_read read given, valid]
        rfl
      · rw [Kind.parse_of_read read given, invalid]
        rfl
    · intro r accepted
      rw [Kind.of_parse read accepted]
      exact .inl rfl

/-- A gauge is the same in both places, and a gauge with half a surrogate pair in what is passed over
is one by itself only. -/
theorem gauge_either_way :
    let gauge : SourceType := ⟨"g", "Gauge", none, []⟩
    let text := "\x7b\"id\": \"g\", \"name\": \"Gauge\"\x7d"
    let noted := "\x7b\"id\": \"g\", \"name\": \"Gauge\", \"x\": \"\\udead\"\x7d"
    (decode SourceType.ofJson? "f" ("[" ++ text ++ "]") = .ok [gauge] ∧
      Kind.parse "k" text = .ok gauge) ∧
    Kind.parse "k" noted = .ok gauge ∧
      (decode SourceType.ofJson? "f" ("[" ++ noted ++ "]") = .ok [gauge] ∨
        decode SourceType.ofJson? "f" ("[" ++ noted ++ "]") = .error (.decode "f" (.other unworded))) := by
  intro gauge text noted
  let name (s : String) : Json.Token := .string (some s)
  let members : List Json.Token :=
    [.openBrace, name "id", .colon, name "g", .comma, name "name", .colon, name "Gauge"]
  have tokens : Json.Lexer.tokens? text.toList = some (members ++ [.closeBrace]) := by decide +kernel
  have tokensNoted : Json.Lexer.tokens? noted.toList =
    some (members ++ [.comma, name "x", .colon, .string none, .closeBrace]) := by decide +kernel
  have read : Json.parse? text = some (.object [(some "id", .string (some "g")),
    (some "name", .string (some "Gauge"))]) := Json.parse?_of_tokens tokens rfl
  have readNoted : Json.parse? noted = some (.object [(some "id", .string (some "g")),
    (some "name", .string (some "Gauge")), (some "x", .string none)]) :=
    Json.parse?_of_tokens tokensNoted rfl
  have distinct : Json.Distinct (.object [(some "id", .string (some "g")),
      (some "name", .string (some "Gauge"))]) := by
    refine .object (by decide) ?_
    simp [Json.Distinct.string]
  have distinctNoted : Json.Distinct (.object [(some "id", .string (some "g")),
      (some "name", .string (some "Gauge")), (some "x", .string none)]) := by
    refine .object (by decide) ?_
    simp [Json.Distinct.string]
  have listed : decode SourceType.ofJson? "f" ("[" ++ text ++ "]") = .ok [gauge] := by decide +kernel
  have alone : Kind.parse "k" noted = .ok gauge := by decide +kernel
  obtain ⟨r, same, valid, _⟩ := (source_type_either_way read distinct "f" "k").1 [gauge] listed
  obtain rfl : gauge = r := by simpa using same
  exact ⟨⟨listed, valid (by decide)⟩, alone,
    ((source_type_either_way readNoted distinctNoted "f" "k").2 gauge alone).imp_right And.left⟩

end Telemetry
