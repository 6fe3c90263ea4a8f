import Mathlib.Data.List.Forall2
import Telemetry.Json.Parser
import Telemetry.Proofs.Json.Numeral

/-!
# Documents inside documents

What the text of a document is read as does not depend on what came before it, so the text
can stand inside a longer one.  `Spells` says this of characters and tokens, `Builds` of
tokens and trees; both are closed under the brackets, braces, commas and colons of the
grammar, and a text that is read as a document by itself spells and builds it anywhere.
-/
set_option autoImplicit false
namespace Telemetry.Json

namespace Lexer
variable {p : Progress} {ts us base : List Token} {t : Token} {cs ds : List Char} {c : Char}

/-! ## What came before does not matter -/

/-- The same state after other tokens. -/
def Progress.onto (p : Progress) (base : List Token) : Progress := ⟨p.state, p.tokens ++ base⟩

theorem start_onto : start (ts ++ base) c = (start ts c).map (·.onto base) := by
  unfold start
  split_ifs
  · rfl
  · split
    all_goals first | rfl | simp [Progress.onto, Function.comp_def]

theorem step_onto : step (p.onto base) c = (step p c).map (·.onto base) := by
  obtain ⟨state, tokens⟩ := p
  have numeral (n : Numeral) : start (.number n :: (tokens ++ base)) c =
    (start (.number n :: tokens) c).map (·.onto base) := @start_onto (.number n :: tokens) base c
  cases state with
  | between => exact start_onto
  | word rest token =>
      cases rest with
      | nil => rfl
      | cons d rest =>
          simp only [step, Progress.onto]
          split_ifs <;> rfl
  | _ =>
      simp only [step, Progress.onto]
      repeat' split
      all_goals simp_all [Progress.onto, Function.comp_def]

theorem run_onto : run (p.onto base) cs = (run p cs).map (·.onto base) := by
  induction cs generalizing p with
  | nil => rfl
  | cons c rest ih =>
      rw [run_cons, run_cons, step_onto]
      cases step p c with
      | none => rfl
      | some q => exact ih

theorem finish_onto : finish (p.onto base) = (finish p).map (· ++ base) := by
  obtain ⟨state, tokens⟩ := p
  cases state <;> rfl

/-! ## Punctuation -/

/-- The punctuation of documents. -/
def punctuation? : Char → Option Token
  | '\x7b' => some .openBrace
  | '\x7d' => some .closeBrace
  | '[' => some .openBracket
  | ']' => some .closeBracket
  | ',' => some .comma
  | ':' => some .colon
  | _ => none

/-- No token goes on with the character. -/
def isBreak (c : Char) : Bool := isSpace c || (punctuation? c).isSome

theorem isBreak_spec (breaks : isBreak c = true) :
    digit? c = none ∧ c ≠ '.' ∧ isExponentMark c = false := by
  simp only [isBreak, isSpace, punctuation?, Bool.or_eq_true, beq_iff_eq] at breaks
  split at breaks
  all_goals first
    | exact ⟨rfl, by decide, rfl⟩
    | simp only [Option.isSome_none, Bool.false_eq_true, or_false] at breaks
      rcases breaks with ((rfl | rfl) | rfl) | rfl <;> exact ⟨rfl, by decide, rfl⟩

theorem step_of_finish (ended : finish p = some ts) (breaks : isBreak c = true) :
    step p c = start ts c := by
  obtain ⟨digit, point, mark⟩ := isBreak_spec breaks
  obtain ⟨state, tokens⟩ := p
  cases state <;> simp only [finish, Option.some.injEq, reduceCtorEq] at ended <;> subst ended <;>
    simp [step, digit, point, mark]

theorem start_punctuation (punctuation : punctuation? c = some t) :
    start ts c = some ⟨.between, t :: ts⟩ := by
  unfold punctuation? at punctuation
  split at punctuation <;> cases punctuation <;> rfl

theorem closing_of_finish (ended : finish p = some ts) : Closing p ts := by
  refine ⟨ended, fun c member => step_of_finish ended ?_⟩
  fin_cases member <;> rfl

/-! ## Texts of whole tokens -/

/-- What a text of whole tokens is read as, whatever came before it. -/
def Spells (cs : List Char) (spelled : List Token) : Prop :=
  ∀ ts, ∃ p, run ⟨.between, ts⟩ cs = some p ∧ Closing p (spelled.reverse ++ ts)

theorem spells_iff : Spells cs ts ↔ tokens? cs = some ts := by
  constructor
  · intro spells
    obtain ⟨p, read, closing⟩ := spells []
    rw [run] at read
    rw [tokens?, read, Option.bind_some, closing.finish]
    simp
  · intro read base
    obtain ⟨p, ran, reversed⟩ := Option.bind_eq_some_iff.mp read
    obtain ⟨spelled, ended, rfl⟩ := Option.map_eq_some_iff.mp reversed
    refine ⟨p.onto base, ?_, closing_of_finish ?_⟩
    · have framed : run ⟨.between, base⟩ cs = (cs.foldlM step ⟨.between, []⟩).map (·.onto base) :=
        run_onto (p := ⟨.between, []⟩)
      rw [framed, ran, Option.map_some]
    · rw [finish_onto, ended, Option.map_some, List.reverse_reverse]

theorem spells_nil : Spells [] [] := fun _ => ⟨_, rfl, closing_between⟩

/-- Tokens with punctuation between them. -/
theorem Spells.mark (before : Spells cs ts) (punctuation : punctuation? c = some t)
    (after : Spells ds us) : Spells (cs ++ c :: ds) (ts ++ t :: us) := by
  intro base
  obtain ⟨p, read, closing⟩ := before base
  obtain ⟨q, further, ended⟩ := after (t :: (ts.reverse ++ base))
  refine ⟨q, ?_, by simpa using ended⟩
  rw [run_append, read, Option.bind_some, run_cons,
    step_of_finish closing.finish (by simp [isBreak, punctuation]), start_punctuation punctuation,
    Option.bind_some, further]

theorem Spells.separated {texts : List (List Char)} {parts : List (List Token)}
    (each : List.Forall₂ Spells texts parts) :
    Spells ([','].intercalate texts) ([.comma].intercalate parts) := by
  induction each with
  | nil => exact spells_nil
  | @cons text part texts parts first rest ih =>
      cases rest with
      | nil => simpa using first
      | cons second rest =>
          rw [List.intercalate_cons_cons, List.intercalate_cons_cons, List.append_assoc,
            List.append_assoc]
          exact first.mark rfl ih

/-- Tokens between an opening and a closing mark. -/
theorem Spells.enclosed {first last : Char} {t u : Token} (inner : Spells cs ts)
    (opening : punctuation? first = some t) (closing : punctuation? last = some u) :
    Spells (first :: (cs ++ [last])) (t :: (ts ++ [u])) :=
  spells_nil.mark opening (inner.mark closing spells_nil)

end Lexer

namespace Parser
variable {stack bottom : List Frame} {p q : Progress} {ts us : List Token} {t : Token} {j : Json}

/-- What may come after some more tokens. -/
def run (p : Progress) (ts : List Token) : Option Progress := ts.foldlM step p

theorem run_cons : run p (t :: ts) = (step p t).bind (run · ts) := rfl

theorem run_append : run p (ts ++ us) = (run p ts).bind (run · us) := List.foldlM_append

/-! ## What is open around a document does not matter -/

/-- The same progress inside other arrays and objects: a finished document goes into the innermost. -/
def Progress.onto (p : Progress) (bottom : List Frame) : Option Progress :=
  match p.expected with
  | .nothing j => deliver j bottom
  | expected => some ⟨p.stack ++ bottom, expected⟩

theorem deliver_onto (delivered : deliver j stack = some q) :
    deliver j (stack ++ bottom) = q.onto bottom := by
  cases stack with
  | nil =>
      obtain rfl := Option.some.inj delivered
      rfl
  | cons frame rest =>
      cases frame with
      | items read | member read key =>
          obtain rfl := Option.some.inj delivered
          rfl
      | members read => cases delivered

theorem close_onto (closed : close t stack = some q) :
    close t (stack ++ bottom) = q.onto bottom := by
  cases stack with
  | nil => cases closed
  | cons frame rest =>
      cases frame with
      | items read | members read =>
          simp only [close] at closed
          split at closed
          · next same =>
            subst same
            exact deliver_onto closed
          · cases closed
      | member read key => cases closed

theorem begin_onto (begun : begin stack t = some q) :
    begin (stack ++ bottom) t = q.onto bottom := by
  cases t with
  | null | bool | number | string => exact deliver_onto begun
  | openBracket | openBrace =>
      obtain rfl := Option.some.inj begun
      rfl
  | _ => cases begun

theorem step_onto (stepped : step p t = some q) :
    (p.onto bottom).bind (step · t) = q.onto bottom := by
  obtain ⟨stack, expected⟩ := p
  cases expected with
  | value => exact begin_onto stepped
  | valueOrClose =>
      simp only [step] at stepped
      change (if t = .closeBracket then close t (stack ++ bottom) else begin (stack ++ bottom) t) = _
      split_ifs at stepped ⊢
      · exact close_onto stepped
      · exact begin_onto stepped
  | key =>
      cases t with
      | string k =>
          obtain rfl := Option.some.inj stepped
          rfl
      | _ => cases stepped
  | keyOrClose =>
      cases t with
      | string k =>
          obtain rfl := Option.some.inj stepped
          rfl
      | _ => exact close_onto stepped
  | colon k =>
      cases stack with
      | nil => cases t <;> cases stepped
      | cons frame rest =>
          cases t <;> cases frame <;> cases stepped
          rfl
  | commaOrClose =>
      cases stack with
      | nil => cases t <;> cases stepped
      | cons frame rest =>
          cases t with
          | comma =>
              cases frame <;> cases stepped <;> rfl
          | _ => exact close_onto stepped
  | nothing d => cases stepped

theorem run_onto (ran : run p ts = some q) : (p.onto bottom).bind (run · ts) = q.onto bottom := by
  induction ts generalizing p with
  | nil =>
      obtain rfl := Option.some.inj ran
      exact Option.bind_fun_some _
  | cons t rest ih =>
      obtain ⟨further, stepped, ran⟩ := Option.bind_eq_some_iff.mp ran
      have next : (p.onto bottom).bind (step · t) = further.onto bottom := step_onto stepped
      rw [← ih ran, ← next, Option.bind_assoc]
      rfl

/-! ## Tokens of whole documents -/

/-- Where a value may come, these tokens put this document. -/
def Builds (ts : List Token) (j : Json) : Prop := ∀ stack, run ⟨stack, .value⟩ ts = deliver j stack

theorem builds_iff : Builds ts j ↔ document? ts = some j := by
  constructor
  · intro builds
    have built := builds []
    rw [run] at built
    rw [document?, built]
    rfl
  · intro read stack
    obtain ⟨p, ran, ended⟩ := Option.bind_eq_some_iff.mp read
    have last : p.expected = .nothing j := by
      split at ended
      · next d there =>
        rw [there, Option.some.inj ended]
      · cases ended
    have placed : (Progress.onto ⟨[], .value⟩ stack).bind (run · ts) = p.onto stack := run_onto ran
    rw [Progress.onto, Progress.onto, last] at placed
    exact placed

/-- No document begins with a closing bracket. -/
theorem Builds.run_valueOrClose (builds : Builds ts j) :
    run ⟨stack, .valueOrClose⟩ (ts ++ us) = run ⟨stack, .value⟩ (ts ++ us) := by
  have built := builds []
  cases ts with
  | nil => cases built
  | cons t rest =>
      cases t with
      | closeBracket => cases built
      | _ => rfl

/-- The tokens of a member of an object. -/
def Pairs (ts : List Token) (m : Option String × Json) : Prop :=
  ∃ us, ts = .string m.1 :: .colon :: us ∧ Builds us m.2

theorem Pairs.run_key {m : Option String × Json} (pairs : Pairs ts m)
    (read : List (Option String × Json)) : run ⟨.members read :: stack, .key⟩ ts =
      some ⟨.members (m :: read) :: stack, .commaOrClose⟩ := by
  obtain ⟨us, rfl, builds⟩ := pairs
  exact builds (.member read m.1 :: stack)

/-- A member begins with a key, so the braces do not close before it. -/
theorem Pairs.run_keyOrClose {m : Option String × Json} (pairs : Pairs ts m) :
    run ⟨stack, .keyOrClose⟩ (ts ++ us) = run ⟨stack, .key⟩ (ts ++ us) := by
  obtain ⟨us, rfl, _⟩ := pairs
  rfl

/-- Parts with commas between them, where each is taken in and a comma asks for the next. -/
theorem run_separated {α : Type} {R : List Token → α → Prop} (before after : List α → Progress)
    (take : ∀ part x read, R part x → run (before read) part = some (after (x :: read)))
    (comma : ∀ read, step (after read) .comma = some (before read)) {part : List Token} {x : α}
    {parts : List (List Token)} {xs : List α} (first : R part x) (each : List.Forall₂ R parts xs)
    (read : List α) : run (before read) ([.comma].intercalate (part :: parts)) =
      some (after (xs.reverse ++ x :: read)) := by
  induction each generalizing part x read with
  | nil =>
      rw [List.intercalate_singleton]
      exact take part x read first
  | @cons part' x' parts xs second rest ih =>
      rw [List.intercalate_cons_cons, List.append_assoc, run_append, take part x read first,
        Option.bind_some, List.singleton_append, run_cons, comma, Option.bind_some,
        ih second (x :: read), List.reverse_cons, List.append_assoc, List.singleton_append]

theorem exists_intercalate (part : List Token) (parts : List (List Token)) :
    ∃ us, [Token.comma].intercalate (part :: parts) = part ++ us := by
  cases parts with
  | nil => exact ⟨[], by simp⟩
  | cons second more => exact ⟨_, by rw [List.intercalate_cons_cons, List.append_assoc]⟩

theorem Builds.array {parts : List (List Token)} {items : List Json}
    (each : List.Forall₂ Builds parts items) :
    Builds (.openBracket :: ([.comma].intercalate parts ++ [.closeBracket])) (.array items) := by
  intro stack
  cases each with
  | nil => exact Option.bind_fun_some _
  | @cons part j parts items first rest =>
      have opening : step ⟨stack, .value⟩ .openBracket =
        some ⟨.items [] :: stack, .valueOrClose⟩ := rfl
      have taken := run_separated (fun read => ⟨.items read :: stack, .value⟩)
        (fun read => ⟨.items read :: stack, .commaOrClose⟩)
        (fun _ _ read builds => builds (.items read :: stack)) (fun _ => rfl) first rest []
      have closing : step ⟨.items (items.reverse ++ [j]) :: stack, .commaOrClose⟩ .closeBracket =
        deliver (.array (items.reverse ++ [j]).reverse) stack := rfl
      obtain ⟨us, split⟩ := exists_intercalate part parts
      rw [run_cons, opening, Option.bind_some, split, List.append_assoc, first.run_valueOrClose,
        ← List.append_assoc, ← split, run_append, taken, Option.bind_some, run_cons, closing,
        List.reverse_append, List.reverse_reverse]
      exact Option.bind_fun_some _

theorem Builds.object {parts : List (List Token)} {members : List (Option String × Json)}
    (each : List.Forall₂ Pairs parts members) :
    Builds (.openBrace :: ([.comma].intercalate parts ++ [.closeBrace])) (.object members) := by
  intro stack
  cases each with
  | nil => exact Option.bind_fun_some _
  | @cons part m parts members first rest =>
      have opening : step ⟨stack, .value⟩ .openBrace =
        some ⟨.members [] :: stack, .keyOrClose⟩ := rfl
      have taken := run_separated (fun read => ⟨.members read :: stack, .key⟩)
        (fun read => ⟨.members read :: stack, .commaOrClose⟩)
        (fun _ _ read pairs => pairs.run_key read) (fun _ => rfl) first rest []
      have closing : step ⟨.members (members.reverse ++ [m]) :: stack, .commaOrClose⟩ .closeBrace =
        deliver (.object (members.reverse ++ [m]).reverse) stack := rfl
      obtain ⟨us, split⟩ := exists_intercalate part parts
      rw [run_cons, opening, Option.bind_some, split, List.append_assoc, first.run_keyOrClose,
        ← List.append_assoc, ← split, run_append, taken, Option.bind_some, run_cons, closing,
        List.reverse_append, List.reverse_reverse]
      exact Option.bind_fun_some _

end Parser

/-! ## From the text to the tree -/

variable {cs : List Char} {j : Json} {s : String}

/-- The text is that of the document, wherever a document may stand. -/
def Reads (cs : List Char) (j : Json) : Prop := ∃ ts, Lexer.Spells cs ts ∧ Parser.Builds ts j

theorem parse?_eq_some_iff : parse? s = some j ↔ Reads s.toList j := by
  simp only [parse?, Option.bind_eq_some_iff, Reads, Lexer.spells_iff, Parser.builds_iff]

theorem parse?_of_tokens {ts : List Token} (spelled : Lexer.tokens? s.toList = some ts)
    (built : Parser.document? ts = some j) : parse? s = some j := by
  rw [parse?, spelled, Option.bind_some, built]

theorem exists_tokens {texts : List (List Char)} {items : List Json}
    (each : List.Forall₂ Reads texts items) :
    ∃ parts, List.Forall₂ Lexer.Spells texts parts ∧ List.Forall₂ Parser.Builds parts items := by
  induction each with
  | nil => exact ⟨[], .nil, .nil⟩
  | cons first _ ih =>
      obtain ⟨part, spells, builds⟩ := first
      obtain ⟨parts, spell, build⟩ := ih
      exact ⟨part :: parts, .cons spells spell, .cons builds build⟩

theorem Reads.array {texts : List (List Char)} {items : List Json}
    (each : List.Forall₂ Reads texts items) :
    Reads ('[' :: ([','].intercalate texts ++ [']'])) (.array items) := by
  obtain ⟨parts, spell, build⟩ := exists_tokens each
  exact ⟨_, (Lexer.Spells.separated spell).enclosed rfl rfl, .array build⟩

/-- Texts of documents, with commas between them and in brackets, are the text of their array. -/
theorem parse?_array {texts : List String} {items : List Json}
    (each : List.Forall₂ (fun text j => parse? text = some j) texts items) :
    parse? ("[" ++ ",".intercalate texts ++ "]") = some (.array items) := by
  rw [parse?_eq_some_iff]
  simp only [String.toList_append, String.toList_intercalate]
  apply Reads.array
  rw [List.forall₂_map_left_iff]
  exact each.imp fun _ _ => parse?_eq_some_iff.mp

end Telemetry.Json
