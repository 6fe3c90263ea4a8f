import Mathlib.Data.List.TakeWhile
import Telemetry.Time.Timestamp

/-!
# Timestamps of requests in documents

Every timestamp that a request may give is read as the same instant in a document: where no
blanks stand and all parts have their full width, the lenient reader of each part leaves what the
strict one leaves.
-/
set_option autoImplicit false
namespace Telemetry.Timestamp

variable {n value v : Nat} {c : Char} {cs ds rest : List Char}

/-! ## Parts -/

theorem isBlank_of_isDigit (digit : isDigit c) : Text.isBlank c = false := by
  have bounds : '0' ≤ c ∧ c ≤ '9' := by
    by_contra outside
    simp [isDigit, digitValue?, outside] at digit
  have low : 48 ≤ c.toNat := bounds.1
  have high : c.toNat ≤ 57 := bounds.2
  simp only [Text.isBlank, Text.blankRanges, List.any_cons, List.any_nil, Bool.or_false,
    Bool.or_eq_false_iff, Bool.and_eq_false_iff, decide_eq_false_iff_not]
  omega

theorem skipBlanks_of_not_isBlank (visible : Text.isBlank c = false) :
    skipBlanks (c :: cs) = c :: cs :=
  List.dropWhile_cons_of_neg (by simp [visible])

theorem digits_eq_some (read : digits n value cs = some (v, rest)) : ∃ ds,
    cs = ds ++ rest ∧ ds.length = n ∧ (∀ d ∈ ds, isDigit d) ∧
      ∀ count, (manyDigits value count ds).1 = v := by
  induction n generalizing value cs with
  | zero =>
      obtain ⟨rfl, rfl⟩ := Prod.mk.inj (Option.some.inj read)
      exact ⟨[], rfl, rfl, by simp, fun _ => rfl⟩
  | succ n ih =>
      cases cs with
      | nil => cases read
      | cons c cs =>
          obtain ⟨d, digit, read⟩ := Option.bind_eq_some_iff.mp read
          obtain ⟨ds, rfl, length, all, number⟩ := ih read
          refine ⟨c :: ds, rfl, congrArg Nat.succ length, ?_, ?_⟩
          · simpa [isDigit, digit] using all
          · intro count
            rw [manyDigits, digit]
            exact number (count + 1)

/-- Digits read strictly begin with a digit. -/
theorem head_of_digits (read : digits (n + 1) value cs = some (v, rest)) :
    ∃ c cs', cs = c :: cs' ∧ isDigit c := by
  obtain ⟨ds, rfl, length, all, -⟩ := digits_eq_some read
  cases ds with
  | nil => cases length
  | cons c ds => exact ⟨c, ds ++ rest, rfl, all c (List.mem_cons_self ..)⟩

theorem skipBlanks_of_digits (read : digits (n + 1) value cs = some (v, rest)) :
    skipBlanks cs = cs := by
  obtain ⟨c, cs, rfl, digit⟩ := head_of_digits read
  exact skipBlanks_of_not_isBlank (isBlank_of_isDigit digit)

theorem shortNumber_of_digits (read : digits (n + 1) 0 cs = some (v, rest)) :
    shortNumber (n + 1) cs = some (v, rest) := by
  have start := skipBlanks_of_digits read
  obtain ⟨ds, rfl, length, all, number⟩ := digits_eq_some read
  have taken : ((ds ++ rest).takeWhile isDigit).take (n + 1) = ds := by
    rw [List.takeWhile_append_of_pos all, ← length, List.take_left]
  have nonempty : ds.isEmpty = false := by
    cases ds with
    | nil => cases length
    | cons => rfl
  simp only [shortNumber, start, taken, nonempty, number, List.drop_left]
  rfl

theorem lenientYear_of_digits (read : digits 4 0 cs = some (v, rest)) :
    lenientYear cs = some ((v : Int), rest) := by
  have unsigned : signedYear cs = none := by
    obtain ⟨c, cs, rfl, digit⟩ := head_of_digits read
    have plus : c ≠ '+' := by rintro rfl; cases digit
    have minus : c ≠ '-' := by rintro rfl; cases digit
    simp [signedYear, plus, minus]
  rw [lenientYear, skipBlanks_of_digits read, unsigned, shortNumber_of_digits read]
  rfl

theorem oneOf_eq_some (read : oneOf [c] cs = some rest) : cs = c :: rest := by
  cases cs with
  | nil => cases read
  | cons d cs =>
      simp only [oneOf, List.mem_singleton, Option.ite_none_right_eq_some, Option.some.injEq] at read
      rw [read.1, read.2]

theorem signOf?_cases {sign : Int} (read : signOf? c = some sign) :
    c = '+' ∨ c = '-' ∨ c = '\u2212' := by
  by_contra other
  simp only [not_or] at other
  simp [signOf?, other] at read

theorem lenientOffset_of_strict {offset : Int} (read : strictOffset cs = some offset) :
    lenientOffset cs = some offset := by
  rw [strictOffset.eq_def] at read
  split at read
  · rw [← read]
    rfl
  · rw [← read]
    rfl
  · next c cs _ _ =>
    simp only [Option.bind_eq_bind, Option.bind_eq_some_iff] at read
    obtain ⟨sign, signed, ⟨hours, afterHours⟩, hoursRead, afterColon, colon, ⟨minutes, afterMinutes⟩,
      minutesRead, read⟩ := read
    obtain rfl : afterHours = ':' :: afterColon := oneOf_eq_some colon
    simp only [Option.ite_none_right_eq_some, List.isEmpty_iff] at read
    obtain ⟨rfl, read⟩ := read
    obtain ⟨d, afterColon, rfl, digit⟩ := head_of_digits minutesRead
    have stop : (':' :: d :: afterColon).dropWhile (fun c => c = ':' || Text.isBlank c) =
        d :: afterColon := by
      have visible : d ≠ ':' := by rintro rfl; cases digit
      simp [visible, isBlank_of_isDigit digit]
    have visible : skipBlanks (c :: cs) = c :: cs ∧ isUtc (c :: cs) = false ∧ ¬ (c = 'Z' ∨ c = 'z') := by
      rcases signOf?_cases signed with rfl | rfl | rfl
      · exact ⟨rfl, rfl, by decide⟩
      · exact ⟨rfl, rfl, by decide⟩
      · exact ⟨rfl, rfl, by decide⟩
    simp only [lenientOffset, visible.1, leadingOffset, visible.2.1, visible.2.2, signed, hoursRead, stop,
      minutesRead, read, Option.bind_eq_bind, Option.bind_some, if_false]
    rfl
  · cases read

/-! ## Timestamps -/

/-- What one style reads, the other reads alike. -/
structure Style.Extends (wide narrow : Style) : Prop where
  number : ∀ {cs read}, narrow.number cs = some read → wide.number cs = some read
  dash : ∀ {cs rest}, narrow.mark '-' cs = some rest → wide.mark '-' cs = some rest
  colon : ∀ {cs rest}, narrow.mark ':' cs = some rest → wide.mark ':' cs = some rest
  offset : ∀ {cs offset}, narrow.offset cs = some offset → wide.offset cs = some offset

theorem Style.Extends.afterYear {wide narrow : Style} (wider : wide.Extends narrow) {year : Int}
    {t : Instant} (read : afterYear narrow year cs = some t) : afterYear wide year cs = some t := by
  simp only [Timestamp.afterYear, Option.bind_eq_bind, Option.bind_eq_some_iff] at read ⊢
  obtain ⟨_, dash, month, monthRead, _, dash', day, dayRead, between, betweenRead, hour, hourRead, _, colon,
    minute, minuteRead, _, colon', second, secondRead, nano, nanoRead, offset, offsetRead, read⟩ := read
  exact ⟨_, wider.dash dash, month, wider.number monthRead, _, wider.dash dash', day,
    wider.number dayRead, between, betweenRead, hour, wider.number hourRead, _,
    wider.colon colon, minute, wider.number minuteRead, _, wider.colon colon', second,
    wider.number secondRead, nano, nanoRead, offset, wider.offset offsetRead, read⟩

theorem lenient_extends_strict : lenient.Extends strict where
  number := shortNumber_of_digits
  dash read := by
    obtain rfl := oneOf_eq_some read
    rfl
  colon read := by
    obtain rfl := oneOf_eq_some read
    rfl
  offset := lenientOffset_of_strict

/-- The timestamps of requests are read alike in documents. -/
theorem parseLenient?_of_parse? {s : String} {t : Instant} (read : parse? s = some t) :
    parseLenient? s = some t := by
  obtain ⟨⟨year, rest⟩, yearRead, read⟩ := Option.bind_eq_some_iff.mp read
  exact Option.bind_eq_some_iff.mpr
    ⟨((year : Int), rest), lenientYear_of_digits yearRead, lenient_extends_strict.afterYear read⟩

example : parseLenient? " +2024-9-2 14:0 : 0.50 +02 : 00 " = parse? "2024-09-02T12:00:00.5Z" := by
  decide +kernel

end Telemetry.Timestamp
