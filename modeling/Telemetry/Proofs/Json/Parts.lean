import Mathlib.Data.List.Induction
import Telemetry.Proofs.Json.Nested

/-!
# Documents taken apart

The text of an array is a list of texts with commas between them and in brackets, each the
text of one item.  Tokens are split first, where the parser has finished an item, and the
characters after them, where the lexer read the comma.
-/
set_option autoImplicit false
namespace Telemetry.Json

/-- Brackets, braces, commas and colons. -/
def Token.isMark : Token → Bool
  | .openBrace | .closeBrace | .openBracket | .closeBracket | .comma | .colon => true
  | _ => false

namespace Lexer
variable {p q : Progress} {ts us earlier later : List Token} {t : Token} {cs : List Char} {c : Char}

/-- A word that is being read is no mark. -/
def Progress.Regular (p : Progress) : Prop := ∀ rest t, p.state = .word rest t → t.isMark = false

def State.isWord : State → Bool
  | .word .. => true
  | _ => false

theorem regular_of_not_word (other : p.state.isWord = false) : p.Regular := by
  intro rest t same
  rw [same] at other
  cases other

/-- What a character adds to the tokens: some that are no marks, and then the mark that it is. -/
inductive Adds (q : Progress) (c : Char) (p : Progress) : Prop where
  | plain {ts : List Token} : (∀ t ∈ ts, t.isMark = false) → p.tokens = ts ++ q.tokens → Adds q c p
  | mark {ts : List Token} {t : Token} : (∀ u ∈ ts, u.isMark = false) → punctuation? c = some t →
      finish q = some (ts ++ q.tokens) → p = ⟨.between, t :: (ts ++ q.tokens)⟩ → Adds q c p

theorem start_cases (started : start ts c = some p) :
    (p.tokens = ts ∨ ∃ t, punctuation? c = some t ∧ p = ⟨.between, t :: ts⟩) ∧ p.Regular := by
  unfold start at started
  split_ifs at started
  · cases started
    exact ⟨.inl rfl, regular_of_not_word rfl⟩
  · split at started
    case h_12 =>
      obtain ⟨d, _, rfl⟩ := Option.map_eq_some_iff.mp started
      exact ⟨.inl rfl, regular_of_not_word rfl⟩
    all_goals
      obtain rfl := Option.some.inj started
      refine ⟨by simp [punctuation?], ?_⟩
      rintro _ _ same
      cases same <;> rfl

theorem adds_nothing (same : p.tokens = q.tokens) : Adds q c p :=
  .plain (show ∀ u ∈ ([] : List Token), u.isMark = false from nofun) same

theorem adds_one (plain : t.isMark = false) (same : p.tokens = t :: q.tokens) : Adds q c p :=
  .plain (show ∀ u ∈ [t], u.isMark = false by simpa using plain) same

theorem adds_of_start (us : List Token) (plain : ∀ u ∈ us, u.isMark = false) (ended : finish q = some (us ++ q.tokens))
    (started : start (us ++ q.tokens) c = some p) : Adds q c p ∧ p.Regular := by
  obtain ⟨same | ⟨t, punctuation, rfl⟩, regular⟩ := start_cases started
  · exact ⟨.plain plain same, regular⟩
  · exact ⟨.mark plain punctuation ended rfl, regular⟩

theorem adds_of_state {state : State} (same : some ⟨state, q.tokens⟩ = some p)
    (other : state.isWord = false) : Adds q c p ∧ p.Regular := by
  obtain rfl := Option.some.inj same
  exact ⟨adds_nothing rfl, regular_of_not_word other⟩

theorem adds_of_map {α : Type} {value? : Option α} {f : α → Progress}
    (mapped : value?.map f = some p) (same : ∀ v, (f v).tokens = q.tokens)
    (other : ∀ v, (f v).state.isWord = false) : Adds q c p ∧ p.Regular := by
  obtain ⟨v, _, rfl⟩ := Option.map_eq_some_iff.mp mapped
  exact ⟨adds_nothing (same v), regular_of_not_word (other v)⟩

/-- Within a numeral or a string nothing is added; a numeral is added where it has ended. -/
theorem adds_of_step (regular : q.Regular) (stepped : step q c = some p) :
    Adds q c p ∧ p.Regular := by
  have numeral : ∀ n, finish q = some (.number n :: q.tokens) →
      start (.number n :: q.tokens) c = some p → Adds q c p ∧ p.Regular :=
    fun n ended started => adds_of_start [.number n] (by simp [Token.isMark]) ended started
  obtain ⟨state, tokens⟩ := q
  cases state with
  | between => exact adds_of_start (q := ⟨.between, tokens⟩) [] (by simp) rfl stepped
  | word rest token =>
      have word := regular rest token rfl
      cases rest with
      | nil => cases stepped
      | cons d rest =>
          simp only [step] at stepped
          split_ifs at stepped <;> cases stepped
          · exact ⟨adds_one word rfl, regular_of_not_word rfl⟩
          · exact ⟨adds_nothing rfl, fun _ _ same => by cases same; exact word⟩
  | minus | point _ | signed _ _ => exact adds_of_map stepped (fun _ => rfl) fun _ => rfl
  | whole d =>
      cases digit : digit? c <;> simp only [step, digit] at stepped <;> split_ifs at stepped
      · exact adds_of_state stepped rfl
      · exact adds_of_state stepped rfl
      · exact numeral _ rfl stepped
      · exact adds_of_state stepped rfl
  | fraction d =>
      cases digit : digit? c <;> simp only [step, digit] at stepped
      · split_ifs at stepped
        · exact adds_of_state stepped rfl
        · exact numeral _ rfl stepped
      · exact adds_of_state stepped rfl
  | mark d =>
      simp only [step] at stepped
      split_ifs at stepped
      · exact adds_of_state stepped rfl
      · exact adds_of_state stepped rfl
      · exact adds_of_map stepped (fun _ => rfl) fun _ => rfl
  | exponent d negative value =>
      cases digit : digit? c <;> simp only [step, digit] at stepped
      · exact numeral _ rfl stepped
      · exact adds_of_state stepped rfl
  | text units =>
      simp only [step] at stepped
      split_ifs at stepped <;> cases stepped
      · exact ⟨adds_one rfl rfl, regular_of_not_word rfl⟩
      · exact adds_of_state rfl rfl
      · exact adds_of_state rfl rfl
  | escape units =>
      simp only [step] at stepped
      split_ifs at stepped
      · exact adds_of_state stepped rfl
      · exact adds_of_map stepped (fun _ => rfl) fun _ => rfl
  | hex units digits value =>
      refine adds_of_map stepped (fun v => ?_) fun v => ?_ <;> split_ifs <;> rfl

/-- A list that holds a mark ends with what stands behind the part before that holds none. -/
theorem exists_of_append_eq (plain : ∀ u ∈ ts, u.isMark = false) (mark : t.isMark = true)
    (same : ts ++ us = later ++ t :: earlier) : ∃ between, later = ts ++ between ∧
      us = between ++ t :: earlier := by
  rcases List.append_eq_append_iff.mp same with ⟨between, split, rest⟩ | ⟨between, split, rest⟩
  · exact ⟨between, split, rest⟩
  · cases between with
    | nil => exact ⟨[], by simpa using split.symm, by simpa using rest.symm⟩
    | cons u more =>
        obtain ⟨rfl, _⟩ := List.cons.inj rest
        have none := plain t (by simp [split])
        rw [mark] at none
        cases none

/-- The text splits into what was read before a mark and what was read after it. -/
def SplitsAt (cs : List Char) (t : Token) (earlier : List Token) (p : Progress) : Prop :=
  ∃ before c after q, cs = before ++ c :: after ∧ punctuation? c = some t ∧
    run ⟨.between, []⟩ before = some q ∧ finish q = some earlier ∧
    run ⟨.between, t :: earlier⟩ after = some p

theorem SplitsAt.step {d : Char} (splits : SplitsAt cs t earlier q) (stepped : step q d = some p) :
    SplitsAt (cs ++ [d]) t earlier p := by
  obtain ⟨before, c, after, r, rfl, punctuation, read, ended, further⟩ := splits
  refine ⟨before, c, after ++ [d], r, by simp, punctuation, read, ended, ?_⟩
  rw [run_append, further, Option.bind_some, run_cons, stepped]
  rfl

theorem splits_of_run (ran : run ⟨.between, []⟩ cs = some p) (mark : t.isMark = true) :
    p.Regular ∧ ∀ later, p.tokens = later ++ t :: earlier → SplitsAt cs t earlier p := by
  induction cs using List.reverseRecOn generalizing p with
  | nil =>
      obtain rfl := Option.some.inj ran
      exact ⟨nofun, by simp⟩
  | append_singleton cs c ih =>
      rw [run_append] at ran
      obtain ⟨q, first, last⟩ := Option.bind_eq_some_iff.mp ran
      obtain ⟨p', stepped, same⟩ := Option.bind_eq_some_iff.mp last
      obtain rfl := Option.some.inj same
      obtain ⟨regular, splits⟩ := ih first
      obtain ⟨adds, regular'⟩ := adds_of_step regular stepped
      refine ⟨regular', fun later tokens => ?_⟩
      cases adds with
      | plain none same =>
          rw [same] at tokens
          obtain ⟨between, _, inside⟩ := exists_of_append_eq none mark tokens
          exact (splits between inside).step stepped
      | mark none punctuation ended same =>
          subst same
          cases later with
          | nil =>
              obtain ⟨rfl, rfl⟩ := List.cons.inj tokens
              exact ⟨cs, c, [], q, rfl, punctuation, first, ended, rfl⟩
          | cons u later =>
              obtain ⟨_, tokens⟩ := List.cons.inj tokens
              obtain ⟨between, _, inside⟩ := exists_of_append_eq none mark tokens
              exact (splits between inside).step stepped

theorem finish_cases (ended : finish p = some ts) :
    ts = p.tokens ∨ ∃ n, ts = .number n :: p.tokens := by
  obtain ⟨state, tokens⟩ := p
  cases state <;> simp only [finish, Option.some.injEq, reduceCtorEq] at ended
  all_goals first | exact .inl ended.symm | exact .inr ⟨_, ended.symm⟩

/-- A text splits at each of its marks. -/
theorem Spells.exists_split (spells : Spells cs (ts ++ t :: us)) (mark : t.isMark = true) :
    ∃ before c after, cs = before ++ c :: after ∧ punctuation? c = some t ∧ Spells before ts ∧
      Spells after us := by
  obtain ⟨p, ran, reversed⟩ := Option.bind_eq_some_iff.mp (spells_iff.mp spells)
  obtain ⟨all, ended, same⟩ := Option.map_eq_some_iff.mp reversed
  have whole : all = us.reverse ++ t :: ts.reverse := by
    rw [← List.reverse_reverse all, same]
    simp
  subst whole
  have tokens : ∃ later, p.tokens = later ++ t :: ts.reverse := by
    rcases finish_cases ended with same | ⟨n, same⟩
    · exact ⟨_, same.symm⟩
    · obtain ⟨between, _, inside⟩ := exists_of_append_eq
        (show ∀ u ∈ [Token.number n], u.isMark = false by simp [Token.isMark]) mark same.symm
      exact ⟨between, inside⟩
  obtain ⟨later, tokens⟩ := tokens
  obtain ⟨before, c, after, q, rfl, punctuation, read, closed, further⟩ :=
    (splits_of_run ran mark).2 later tokens
  refine ⟨before, c, after, rfl, punctuation, spells_iff.mpr ?_, spells_iff.mpr ?_⟩
  · rw [run] at read
    simp [tokens?, read, closed]
  · -- the tokens before the mark are a frame around the run after it
    have framed : run ⟨.between, t :: ts.reverse⟩ after =
        (run ⟨.between, []⟩ after).map (·.onto (t :: ts.reverse)) := run_onto (p := ⟨.between, []⟩)
    rw [further] at framed
    obtain ⟨inner, read, rfl⟩ := Option.map_eq_some_iff.mp framed.symm
    rw [finish_onto] at ended
    obtain ⟨rest, closed, same⟩ := Option.map_eq_some_iff.mp ended
    have rest := List.append_cancel_right same
    rw [run] at read
    simp [tokens?, read, closed, rest]

theorem comma_of_punctuation (punctuation : punctuation? c = some .comma) : c = ',' := by
  unfold punctuation? at punctuation
  split at punctuation <;> first | rfl | cases punctuation

theorem Spells.exists_texts {part : List Token} {parts : List (List Token)}
    (spells : Spells cs ([.comma].intercalate (part :: parts))) :
    ∃ texts, cs = [','].intercalate texts ∧ List.Forall₂ Spells texts (part :: parts) := by
  induction parts generalizing cs part with
  | nil =>
      rw [List.intercalate_singleton] at spells
      exact ⟨[cs], by simp, .cons spells .nil⟩
  | cons second more ih =>
      rw [List.intercalate_cons_cons, List.append_assoc, List.singleton_append] at spells
      obtain ⟨before, c, after, rfl, punctuation, first, rest⟩ := spells.exists_split rfl
      obtain rfl := comma_of_punctuation punctuation
      obtain ⟨texts, rfl, each⟩ := ih rest
      refine ⟨before :: texts, ?_, .cons first each⟩
      cases each
      rw [List.intercalate_cons_cons, List.append_assoc, List.singleton_append]

end Lexer

namespace Parser
variable {stack bottom : List Frame} {p q : Progress} {ts us : List Token} {t : Token} {j d : Json}

/-! ## Where a document ends -/

/-- Nothing may come any more. -/
def Progress.Ended (p : Progress) : Prop := ∃ d, p.expected = .nothing d

/-- Something has to come, in a value that has just begun or in one that is still open. -/
def Progress.Open (p : Progress) : Prop :=
  match p.expected with
  | .nothing _ => False
  | .value => True
  | _ => p.stack ≠ []

/-- The document goes on, or it has just ended. -/
def Progress.Inner (p : Progress) : Prop := p.Open ∨ ∃ j, p = ⟨[], .nothing j⟩

theorem deliver_inner (delivered : deliver j (stack ++ bottom) = some q) :
    ∃ inner, deliver j stack = some inner ∧ inner.Inner := by
  cases stack with
  | nil => exact ⟨_, rfl, .inr ⟨j, rfl⟩⟩
  | cons frame rest =>
      cases frame with
      | items read => exact ⟨_, rfl, .inl (List.cons_ne_nil _ _)⟩
      | member read key => exact ⟨_, rfl, .inl (List.cons_ne_nil _ _)⟩
      | members read => cases delivered

theorem begin_inner (begun : begin (stack ++ bottom) t = some q) :
    ∃ inner, begin stack t = some inner ∧ inner.Inner := by
  cases t with
  | null | bool | number | string => exact deliver_inner begun
  | openBracket => exact ⟨_, rfl, .inl (List.cons_ne_nil _ _)⟩
  | openBrace => exact ⟨_, rfl, .inl (List.cons_ne_nil _ _)⟩
  | _ => cases begun

theorem close_inner (inside : stack ≠ []) (closed : close t (stack ++ bottom) = some q) :
    ∃ inner, close t stack = some inner ∧ inner.Inner := by
  cases stack with
  | nil => exact absurd rfl inside
  | cons frame rest =>
      cases frame with
      | items read | members read =>
          simp only [List.cons_append, close] at closed ⊢
          split_ifs at closed ⊢
          exact deliver_inner closed
      | member read key => cases closed

/-- What can go on inside other arrays and objects can go on without them. -/
theorem step_inner (opened : p.Open) (stepped : step ⟨p.stack ++ bottom, p.expected⟩ t = some q) :
    ∃ inner, step p t = some inner ∧ inner.Inner := by
  obtain ⟨stack, expected⟩ := p
  cases expected with
  | nothing d => exact opened.elim
  | value => exact begin_inner stepped
  | valueOrClose =>
      simp only [step] at stepped ⊢
      split_ifs at stepped ⊢
      · exact close_inner opened stepped
      · exact begin_inner stepped
  | key =>
      cases t with
      | string k => exact ⟨_, rfl, .inl opened⟩
      | _ => cases stepped
  | keyOrClose =>
      cases t with
      | string k => exact ⟨_, rfl, .inl opened⟩
      | _ => exact close_inner opened stepped
  | colon k =>
      cases stack with
      | nil => exact absurd rfl opened
      | cons frame rest =>
          cases t <;> cases frame <;> first
            | exact ⟨_, rfl, .inl trivial⟩
            | cases stepped
  | commaOrClose =>
      cases stack with
      | nil => exact absurd rfl opened
      | cons frame rest =>
          cases t with
          | comma =>
              cases frame with
              | items read => exact ⟨_, rfl, .inl trivial⟩
              | members read => exact ⟨_, rfl, .inl (List.cons_ne_nil _ _)⟩
              | member read key => cases stepped
          | _ => exact close_inner opened stepped

theorem onto_of_open (opened : p.Open) :
    p.onto bottom = some ⟨p.stack ++ bottom, p.expected⟩ := by
  unfold Progress.onto
  unfold Progress.Open at opened
  split
  · next d last => simp [last] at opened
  · rfl

/-- A document that goes on inside others ends there, and then the others go on. -/
theorem exists_document (opened : p.Open)
    (ran : run ⟨p.stack ++ bottom, p.expected⟩ ts = some q) (ended : q.Ended) :
    ∃ part rest j, ts = part ++ rest ∧ run p part = some ⟨[], .nothing j⟩ ∧
      (deliver j bottom).bind (run · rest) = some q := by
  induction ts generalizing p with
  | nil =>
      obtain rfl := Option.some.inj ran
      obtain ⟨d, last⟩ := ended
      simp only [Progress.Open, show p.expected = .nothing d from last] at opened
  | cons t ts ih =>
      obtain ⟨a, stepped, further⟩ := Option.bind_eq_some_iff.mp ran
      obtain ⟨inner, taken, inside⟩ := step_inner opened stepped
      have framed : (p.onto bottom).bind (step · t) = inner.onto bottom := step_onto taken
      rw [onto_of_open opened, Option.bind_some, stepped] at framed
      rcases inside with opened' | ⟨j, rfl⟩
      · obtain rfl := Option.some.inj (framed.trans (onto_of_open opened'))
        obtain ⟨part, rest, j, rfl, read, next⟩ := ih opened' further
        exact ⟨t :: part, rest, j, rfl, by rw [run_cons, taken, Option.bind_some, read], next⟩
      · refine ⟨[t], ts, j, rfl, by rw [run_cons, taken]; rfl, ?_⟩
        have delivered : deliver j bottom = some a := framed.symm
        rw [delivered, Option.bind_some]
        exact further

theorem exists_value (ran : run ⟨bottom, .value⟩ ts = some q) (ended : q.Ended) :
    ∃ part rest j, ts = part ++ rest ∧ Builds part j ∧
      (deliver j bottom).bind (run · rest) = some q := by
  obtain ⟨part, rest, j, rfl, read, further⟩ := exists_document (p := ⟨[], .value⟩) trivial ran ended
  refine ⟨part, rest, j, rfl, builds_iff.mpr ?_, further⟩
  rw [run] at read
  rw [document?, read]
  rfl

/-! ## The parts of arrays and objects -/

theorem eq_nil_of_run_nothing (ran : run ⟨stack, .nothing j⟩ ts = some q) :
    ts = [] ∧ q = ⟨stack, .nothing j⟩ := by
  cases ts with
  | nil => exact ⟨rfl, (Option.some.inj ran).symm⟩
  | cons t ts => cases ran

/-- Where each part is followed by a comma or the end, all parts have commas between them. -/
theorem exists_separated {α : Type} {R : List Token → α → Prop} (before after whole : List α → Progress)
    {last : Token}
    (take : ∀ {read ts}, run (before read) ts = some q → ∃ part rest x, ts = part ++ rest ∧
      R part x ∧ run (after (x :: read)) rest = some q)
    (next : ∀ {read ts}, run (after read) ts = some q →
      (∃ us, ts = .comma :: us ∧ run (before read) us = some q) ∨ ts = [last] ∧ q = whole read)
    {read : List α} (ran : run (before read) ts = some q) :
    ∃ part parts x xs, ts = [.comma].intercalate (part :: parts) ++ [last] ∧
      List.Forall₂ R (part :: parts) (x :: xs) ∧ q = whole (xs.reverse ++ x :: read) := by
  induction size : ts.length using Nat.strong_induction_on generalizing read ts with
  | _ _ ih =>
      obtain ⟨part, rest, x, rfl, first, further⟩ := take ran
      rcases next further with ⟨us, rfl, again⟩ | ⟨rfl, rfl⟩
      · have shorter : us.length < (part ++ .comma :: us).length := by simp; omega
        obtain ⟨part', parts, x', xs, rfl, each, ended⟩ := ih _ (size ▸ shorter) again rfl
        refine ⟨part, part' :: parts, x, x' :: xs, ?_, .cons first each, by simpa using ended⟩
        rw [List.intercalate_cons_cons]
        simp
      · exact ⟨part, [], x, [], by simp, .cons first .nil, rfl⟩

theorem take_item {read : List Json} (ran : run ⟨[.items read], .value⟩ ts = some ⟨[], .nothing d⟩) :
    ∃ part rest x, ts = part ++ rest ∧ Builds part x ∧
      run ⟨[.items (x :: read)], .commaOrClose⟩ rest = some ⟨[], .nothing d⟩ :=
  exists_value ran ⟨d, rfl⟩

theorem take_member {read : List (Option String × Json)}
    (ran : run ⟨[.members read], .key⟩ ts = some ⟨[], .nothing d⟩) :
    ∃ part rest m, ts = part ++ rest ∧ Pairs part m ∧
      run ⟨[.members (m :: read)], .commaOrClose⟩ rest = some ⟨[], .nothing d⟩ := by
  match ts with
  | [] => cases ran
  | [.string k] => cases ran
  | .string k :: .colon :: us =>
      obtain ⟨part, rest, j, rfl, builds, further⟩ :=
        exists_value (show run ⟨[.member read k], .value⟩ us = _ from ran) ⟨d, rfl⟩
      exact ⟨.string k :: .colon :: part, rest, (k, j), rfl, ⟨part, rfl, builds⟩, further⟩

theorem next_item {read : List Json}
    (ran : run ⟨[.items read], .commaOrClose⟩ ts = some ⟨[], .nothing d⟩) :
    (∃ us, ts = .comma :: us ∧ run ⟨[.items read], .value⟩ us = some ⟨[], .nothing d⟩) ∨
      ts = [.closeBracket] ∧ (⟨[], .nothing d⟩ : Progress) = ⟨[], .nothing (.array read.reverse)⟩ := by
  match ts with
  | .comma :: us => exact .inl ⟨us, rfl, ran⟩
  | .closeBracket :: us =>
      obtain ⟨rfl, same⟩ := eq_nil_of_run_nothing (j := .array read.reverse) ran
      exact .inr ⟨rfl, same⟩

theorem next_member {read : List (Option String × Json)}
    (ran : run ⟨[.members read], .commaOrClose⟩ ts = some ⟨[], .nothing d⟩) :
    (∃ us, ts = .comma :: us ∧ run ⟨[.members read], .key⟩ us = some ⟨[], .nothing d⟩) ∨
      ts = [.closeBrace] ∧ (⟨[], .nothing d⟩ : Progress) = ⟨[], .nothing (.object read.reverse)⟩ := by
  match ts with
  | .comma :: us => exact .inl ⟨us, rfl, ran⟩
  | .closeBrace :: us =>
      obtain ⟨rfl, same⟩ := eq_nil_of_run_nothing (j := .object read.reverse) ran
      exact .inr ⟨rfl, same⟩

theorem Builds.eq_array {items : List Json} (builds : Builds ts (.array items)) :
    ∃ parts, ts = .openBracket :: ([.comma].intercalate parts ++ [.closeBracket]) ∧
      List.Forall₂ Builds parts items := by
  have ran : run ⟨[], .value⟩ ts = some ⟨[], .nothing (.array items)⟩ := builds []
  match ts with
  | .null :: us | .bool _ :: us | .number _ :: us | .string _ :: us =>
      obtain ⟨_, same⟩ := eq_nil_of_run_nothing ran
      cases same
  | [.openBracket] => cases ran
  | .openBracket :: t :: us =>
      by_cases closes : t = .closeBracket
      · subst closes
        obtain ⟨rfl, same⟩ := eq_nil_of_run_nothing (j := .array []) ran
        cases same
        exact ⟨[], rfl, .nil⟩
      · have inside : run ⟨[.items []], .value⟩ (t :: us) = some ⟨[], .nothing (.array items)⟩ := by
          have opened : run ⟨[.items []], .valueOrClose⟩ (t :: us) = _ := ran
          rw [run_cons] at opened ⊢
          simpa only [step, closes, if_false] using opened
        obtain ⟨part, parts, x, xs, same, each, whole⟩ :=
          exists_separated (fun read => ⟨[.items read], .value⟩)
            (fun read => ⟨[.items read], .commaOrClose⟩)
            (fun read => ⟨[], .nothing (.array read.reverse)⟩) take_item next_item inside
        cases whole
        exact ⟨part :: parts, by rw [same], by simpa using each⟩
  | .openBrace :: .closeBrace :: us =>
      obtain ⟨_, same⟩ := eq_nil_of_run_nothing (j := .object []) ran
      cases same
  | .openBrace :: .string k :: us =>
      obtain ⟨_, _, _, _, _, _, whole⟩ :=
        exists_separated (fun read => ⟨[.members read], .key⟩)
          (fun read => ⟨[.members read], .commaOrClose⟩)
          (fun read => ⟨[], .nothing (.object read.reverse)⟩) take_member next_member
          (show run ⟨[.members []], .key⟩ (.string k :: us) = _ from ran)
      cases whole

end Parser

variable {text : String} {items : List Json}

theorem reads_of_tokens {texts : List (List Char)} {parts : List (List Token)}
    (spell : List.Forall₂ Lexer.Spells texts parts) (build : List.Forall₂ Parser.Builds parts items) :
    List.Forall₂ Reads texts items := by
  induction spell generalizing items with
  | nil =>
      cases build
      exact .nil
  | @cons text part texts parts spells spell ih =>
      obtain _ | ⟨builds, build⟩ := build
      exact .cons ⟨part, spells, builds⟩ (ih build)

theorem Reads.exists_texts {cs : List Char} (reads : Reads cs (.array items)) :
    ∃ texts, [','].intercalate texts <:+: cs ∧ List.Forall₂ Reads texts items := by
  obtain ⟨ts, spells, builds⟩ := reads
  obtain ⟨parts, rfl, each⟩ := builds.eq_array
  obtain ⟨before, c, after, rfl, _, _, spells⟩ :=
    Lexer.Spells.exists_split (show Lexer.Spells cs ([] ++ .openBracket :: _) from spells) rfl
  obtain ⟨inside, d, behind, rfl, _, spells, _⟩ := spells.exists_split rfl
  cases each with
  | nil => exact ⟨[], by simp, .nil⟩
  | cons first rest =>
      obtain ⟨texts, rfl, spell⟩ := spells.exists_texts
      exact ⟨texts, ⟨before ++ [c], d :: behind, by simp⟩,
        reads_of_tokens spell (.cons first rest)⟩

/-- The text of an array holds the texts of its items, with a comma after each but the last. -/
theorem exists_texts_of_parse? (read : parse? text = some (.array items)) :
    ∃ texts : List String, (",".intercalate texts).toList <:+: text.toList ∧
      List.Forall₂ (fun t j => parse? t = some j) texts items := by
  obtain ⟨texts, inside, each⟩ := (parse?_eq_some_iff.mp read).exists_texts
  refine ⟨texts.map String.ofList, ?_, ?_⟩
  · simpa [String.toList_intercalate, Function.comp_def] using inside
  · rw [List.forall₂_map_left_iff]
    exact each.imp fun t j reads => parse?_eq_some_iff.mpr (by simpa using reads)

end Telemetry.Json
