import Mathlib.Tactic.FinCases
import Mathlib.Tactic.IntervalCases
import Telemetry.Json.Lexer
import Telemetry.Json.Printer

/-!
# Numerals read back

The digits of a number are below ten, begin with zero only for zero, and spell the number.
A written numeral that is read again ends in the state that holds all of it, whatever
comes next being a comma, a closing bracket, or the end of the text.
-/
set_option autoImplicit false
namespace Telemetry.Json
variable {n d : Nat} {ds : List Nat} {i : Int}

namespace Numeral

/-! ## Decimal digits -/

theorem digitsOf_of_lt (small : n < 10) : digitsOf n = [n] := by
  rw [digitsOf, Nat.toDigits_of_lt_base small, List.map_singleton, Nat.toNat_digitChar_of_lt_ten small]
  simp

theorem digitsOf_of_le (large : 10 ≤ n) : digitsOf n = digitsOf (n / 10) ++ [n % 10] := by
  have last := Nat.toNat_digitChar_of_lt_ten (Nat.mod_lt n (by decide : 0 < 10))
  rw [digitsOf, Nat.toDigits_of_base_le (by decide) large, List.map_append, List.map_singleton, last]
  simp [digitsOf]

theorem lt_of_mem_digitsOf (member : d ∈ digitsOf n) : d < 10 := by
  induction n using Nat.strongRecOn with
  | ind n ih =>
      rcases Nat.lt_or_ge n 10 with small | large
      · rw [digitsOf_of_lt small, List.mem_singleton] at member
        omega
      · rw [digitsOf_of_le large, List.mem_append, List.mem_singleton] at member
        rcases member with earlier | rfl
        · exact ih (n / 10) (by omega) earlier
        · exact Nat.mod_lt n (by decide)

theorem ofDigits_digitsOf (n : Nat) : ofDigits (digitsOf n) = n := by
  induction n using Nat.strongRecOn with
  | ind n ih =>
      rcases Nat.lt_or_ge n 10 with small | large
      · simp [digitsOf_of_lt small, ofDigits]
      · have earlier := ih (n / 10) (by omega)
        rw [ofDigits] at earlier
        rw [digitsOf_of_le large, ofDigits, List.foldl_append, earlier]
        simp only [List.foldl_cons, List.foldl_nil]
        omega

/-- Only zero begins with a zero. -/
theorem exists_digitsOf (n : Nat) : ∃ d ds, digitsOf n = d :: ds ∧ (d = 0 → ds = []) := by
  induction n using Nat.strongRecOn with
  | ind n ih =>
      rcases Nat.lt_or_ge n 10 with small | large
      · exact ⟨n, [], digitsOf_of_lt small, fun _ => rfl⟩
      · obtain ⟨d, ds, found, zero⟩ := ih (n / 10) (by omega)
        refine ⟨d, ds ++ [n % 10], by rw [digitsOf_of_le large, found, List.cons_append], ?_⟩
        rintro rfl
        have value := ofDigits_digitsOf (n / 10)
        rw [found, zero rfl] at value
        simp [ofDigits] at value
        omega

theorem digitChars_digitsOf (n : Nat) : digitChars (digitsOf n) = Nat.toDigits 10 n := by
  induction n using Nat.strongRecOn with
  | ind n ih =>
      rcases Nat.lt_or_ge n 10 with small | large
      · rw [digitsOf_of_lt small, Nat.toDigits_of_lt_base small]
        rfl
      · have earlier := ih (n / 10) (by omega)
        rw [digitChars] at earlier
        rw [digitsOf_of_le large, Nat.toDigits_of_base_le (by decide) large, digitChars, List.map_append,
          earlier]
        rfl

/-! ## Whole numbers -/

/-- Digits below ten, at least one of them before the point, and no zero in front of others. -/
structure Written (n : Numeral) : Prop where
  leading : ∃ d ds, n.whole = d :: ds ∧ (d = 0 → ds = [])
  digits : ∀ d ∈ n.whole, d < 10
  places : ∀ d ∈ n.fraction, d < 10

theorem written_ofInt (i : Int) : (ofInt i).Written where
  leading := exists_digitsOf i.natAbs
  digits _ member := lt_of_mem_digitsOf member
  places := by simp [ofInt]

theorem integer?_ofInt (low : -9223372036854775808 ≤ i) (high : i ≤ 18446744073709551615) :
    (ofInt i).integer? = some i := by
  have magnitude := ofDigits_digitsOf i.natAbs
  simp only [integer?, ofInt, magnitude, List.isEmpty_nil, Bool.not_true, Option.isSome_none,
    Bool.or_self, Bool.false_eq_true, if_false, decide_eq_true_eq]
  split_ifs with negative outside large
  · omega
  · congr 1
    omega
  · congr 1
    omega
  · omega

end Numeral

namespace Lexer
variable {p : Progress} {ts : List Token} {f : Digits} {negative : Bool} {cs cs' : List Char}

/-! ## Characters read one after the other -/

/-- The state after some more characters. -/
def run (p : Progress) (cs : List Char) : Option Progress := cs.foldlM step p

@[simp] theorem run_nil : run p [] = some p := rfl

@[simp] theorem run_cons {c : Char} : run p (c :: cs) = (step p c).bind (run · cs) := rfl

@[simp] theorem run_append : run p (cs ++ cs') = (run p cs).bind (run · cs') := List.foldlM_append

/-- Everything read so far is a sequence of whole tokens, if a comma, a closing bracket or the end
follows. -/
structure Closing (p : Progress) (ts : List Token) : Prop where
  finish : finish p = some ts
  step : ∀ c ∈ [',', ']', '\x7d'], step p c = start ts c

theorem closing_between : Closing ⟨.between, ts⟩ ts := ⟨rfl, fun _ _ => rfl⟩

/-! ## Numerals -/

theorem digit?_digitChar (small : d < 10) : digit? (Nat.digitChar d) = some d := by
  interval_cases d <;> rfl

theorem start_digitChar (small : d < 10) :
    start ts (Nat.digitChar d) = some ⟨.whole ⟨false, [d], []⟩, ts⟩ := by
  interval_cases d <;> rfl

/-- Where each digit takes the automaton from one state of a kind to the next, many do so one by
one. -/
theorem run_digits {α : Type} {state : α → State} {next : α → Nat → α}
    (each : ∀ a d, d < 10 → step ⟨state a, ts⟩ (Nat.digitChar d) = some ⟨state (next a d), ts⟩)
    (digits : ∀ d ∈ ds, d < 10) (a : α) :
    run ⟨state a, ts⟩ (digitChars ds) = some ⟨state (ds.foldl next a), ts⟩ := by
  induction ds generalizing a with
  | nil => rfl
  | cons d rest ih =>
      have further := ih (fun e later => digits e (List.mem_cons_of_mem d later)) (next a d)
      rw [digitChars] at further
      rw [digitChars, List.map_cons, run_cons, each a d (digits d List.mem_cons_self), Option.bind_some,
        further, List.foldl_cons]

theorem run_whole (nonzero : d ≠ 0) (digits : ∀ d ∈ ds, d < 10) :
    run ⟨.whole ⟨negative, [d], []⟩, ts⟩ (digitChars ds) =
      some ⟨.whole ⟨negative, ds.reverse ++ [d], []⟩, ts⟩ := by
  -- only a zero in front stops the automaton, and the first digit is not zero
  have each (later : List Nat) (e : Nat) (small : e < 10) :
      step ⟨.whole ⟨negative, later ++ [d], []⟩, ts⟩ (Nat.digitChar e) =
        some ⟨.whole ⟨negative, e :: later ++ [d], []⟩, ts⟩ := by
    have several : later ++ [d] ≠ [0] := by
      cases later <;> simp [nonzero]
    simp [step, digit?_digitChar small, several]
  have read := run_digits each digits []
  simpa using read

theorem run_fraction (whole places : List Nat) (digits : ∀ d ∈ ds, d < 10) :
    run ⟨.fraction ⟨negative, whole, places⟩, ts⟩ (digitChars ds) =
      some ⟨.fraction ⟨negative, whole, ds.reverse ++ places⟩, ts⟩ := by
  have each (places : List Nat) (e : Nat) (small : e < 10) :
      step ⟨.fraction ⟨negative, whole, places⟩, ts⟩ (Nat.digitChar e) =
        some ⟨.fraction ⟨negative, whole, e :: places⟩, ts⟩ := by
    simp [step, digit?_digitChar small]
  have read := run_digits each digits places
  simpa using read

theorem run_exponent (value : Nat) (digits : ∀ d ∈ ds, d < 10) :
    run ⟨.exponent f negative value, ts⟩ (digitChars ds) =
      some ⟨.exponent f negative (ds.foldl (fun n d => n * 10 + d) value), ts⟩ := by
  have each (value e : Nat) (small : e < 10) :
      step ⟨.exponent f negative value, ts⟩ (Nat.digitChar e) =
        some ⟨.exponent f negative (value * 10 + e), ts⟩ := by
    simp [step, digit?_digitChar small]
  exact run_digits each digits value

/-- The state after the digits before and after the point. -/
def Digits.mantissa (f : Digits) : State := if f.fraction.isEmpty then .whole f else .fraction f

theorem run_sign {d : Nat} (small : d < 10) :
    run ⟨.between, ts⟩ ((if negative then ['-'] else []) ++ [Nat.digitChar d]) =
      some ⟨.whole ⟨negative, [d], []⟩, ts⟩ := by
  cases negative with
  | false => simp [step, start_digitChar small]
  | true =>
      have minus : start ts '-' = some ⟨.minus, ts⟩ := rfl
      simp [step, minus, digit?_digitChar small]

theorem run_mantissa {n : Numeral} (written : n.Written) :
    run ⟨.between, ts⟩ ((if n.negative then ['-'] else []) ++ digitChars n.whole ++
        if n.fraction.isEmpty then [] else '.' :: digitChars n.fraction) =
      some ⟨Digits.mantissa ⟨n.negative, n.whole.reverse, n.fraction.reverse⟩, ts⟩ := by
  obtain ⟨d, ds, leading, zero⟩ := written.leading
  have digits := written.digits
  have places := written.places
  rw [leading] at digits ⊢
  have whole : run ⟨.whole ⟨n.negative, [d], []⟩, ts⟩ (digitChars ds) =
      some ⟨.whole ⟨n.negative, ds.reverse ++ [d], []⟩, ts⟩ := by
    by_cases nought : d = 0
    · rw [zero nought]
      rfl
    · exact run_whole nought fun e later => digits e (List.mem_cons_of_mem d later)
  have begun : (if n.negative then ['-'] else []) ++ digitChars (d :: ds) =
      ((if n.negative then ['-'] else []) ++ [Nat.digitChar d]) ++ digitChars ds := by
    simp [digitChars]
  rw [begun, run_append, run_append, run_sign (digits d (by simp)), Option.bind_some, whole,
    Option.bind_some]
  cases found : n.fraction with
  | nil => simp [Digits.mantissa]
  | cons e rest =>
      rw [found] at places
      have further : run ⟨.fraction ⟨n.negative, ds.reverse ++ [d], [e]⟩, ts⟩ (digitChars rest) =
          some ⟨.fraction ⟨n.negative, ds.reverse ++ [d], rest.reverse ++ [e]⟩, ts⟩ :=
        run_fraction _ [e] fun e' later => places e' (List.mem_cons_of_mem e later)
      rw [digitChars] at further
      have point : digit? '.' = none := rfl
      simp [digitChars, step, point, digit?_digitChar (places e (by simp)), further, Digits.mantissa]

theorem Digits.mantissa_cases (f : Digits) : f.mantissa = .whole f ∨ f.mantissa = .fraction f := by
  rw [mantissa]
  split_ifs
  · exact .inl rfl
  · exact .inr rfl

theorem closing_mantissa (f : Digits) (ts : List Token) :
    Closing ⟨f.mantissa, ts⟩ (.number (f.numeral none) :: ts) := by
  rcases f.mantissa_cases with state | state <;> rw [state] <;> refine ⟨rfl, fun c member => ?_⟩
  · fin_cases member <;> rfl
  · fin_cases member <;> rfl

theorem closing_exponent (f : Digits) (negative : Bool) (value : Nat) (ts : List Token) :
    Closing ⟨.exponent f negative value, ts⟩
      (.number (f.numeral (some (exponentValue negative value))) :: ts) := by
  refine ⟨rfl, fun c member => ?_⟩
  fin_cases member <;> rfl

theorem run_mark : run ⟨f.mantissa, ts⟩ ['e'] = some ⟨.mark f, ts⟩ := by
  rcases f.mantissa_cases with state | state <;> rw [state] <;> rfl

theorem run_marked (e : Int) :
    run ⟨.mark f, ts⟩ ((if e < 0 then ['-'] else []) ++ Nat.toDigits 10 e.natAbs) =
    some ⟨.exponent f (e < 0) e.natAbs, ts⟩ := by
  obtain ⟨d, ds, found, -⟩ := Numeral.exists_digitsOf e.natAbs
  have digits : ∀ e' ∈ d :: ds, e' < 10 := by
    rw [← found]
    exact fun _ => Numeral.lt_of_mem_digitsOf
  have value := Numeral.ofDigits_digitsOf e.natAbs
  rw [found, Numeral.ofDigits, List.foldl_cons, Nat.zero_mul, Nat.zero_add] at value
  have further : run ⟨.exponent f (e < 0) d, ts⟩ (digitChars ds) =
      some ⟨.exponent f (e < 0) e.natAbs, ts⟩ := by
    rw [run_exponent d fun e' later => digits e' (List.mem_cons_of_mem d later), value]
  have first := digit?_digitChar (digits d (by simp))
  have plus : Nat.digitChar d ≠ '+' := Nat.digitChar_ne _ rfl
  have minus : Nat.digitChar d ≠ '-' := Nat.digitChar_ne _ rfl
  rw [← Numeral.digitChars_digitsOf, found]
  by_cases negative : e < 0
  · simp only [negative, decide_true] at further
    simpa [digitChars, negative, step, first] using further
  · simp only [negative, decide_false] at further
    simpa [digitChars, negative, step, first, plus, minus] using further

/-- A written numeral reads back. -/
theorem run_numeral {n : Numeral} (written : n.Written) :
    ∃ p, run ⟨.between, ts⟩ n.chars = some p ∧ Closing p (.number n :: ts) := by
  obtain ⟨negative, whole, fraction, exponent⟩ := n
  rw [Numeral.chars, run_append, run_mantissa written, Option.bind_some]
  cases exponent with
  | none =>
      refine ⟨_, rfl, ?_⟩
      have closing := closing_mantissa ⟨negative, whole.reverse, fraction.reverse⟩ ts
      simpa [Digits.numeral] using closing
  | some e =>
      refine ⟨⟨.exponent ⟨negative, whole.reverse, fraction.reverse⟩ (e < 0) e.natAbs, ts⟩, ?_, ?_⟩
      · have parts : 'e' :: (if e < 0 then ['-'] else []) ++ Nat.toDigits 10 e.natAbs =
            ['e'] ++ ((if e < 0 then ['-'] else []) ++ Nat.toDigits 10 e.natAbs) := rfl
        simp only [parts]
        rw [run_append, run_mark, Option.bind_some, run_marked]
      · have closing := closing_exponent ⟨negative, whole.reverse, fraction.reverse⟩ (e < 0) e.natAbs ts
        have value : exponentValue (e < 0) e.natAbs = e := by
          simp only [exponentValue, decide_eq_true_eq]
          split_ifs <;> omega
        simpa [Digits.numeral, value] using closing

end Lexer
end Telemetry.Json
