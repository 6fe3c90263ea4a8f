import Telemetry.Text.Basic
import Telemetry.Time.Instant

/-!
# Timestamps

The RFC 3339 text of an instant: date, `T`, `t` or one space, time of day with
an optional fraction, and `Z`, `z` or an offset.

Requests are read strictly, each part in its full width.  Documents are read
leniently: numbers may be shorter, and a year may have a sign and then any
number of digits; blanks may stand before a number or a mark, around the offset,
and, like colons, any number of times between its hours and minutes; and `UTC`
in letters of any case is an offset.
-/
set_option autoImplicit false
namespace Telemetry.Timestamp
open Calendar

def digitValue? (c : Char) : Option Nat :=
  if '0' ≤ c ∧ c ≤ '9' then some (c.toNat - '0'.toNat) else none

/-- Exactly `n` digits, read onto `value`. -/
def digits : Nat → Nat → List Char → Option (Nat × List Char)
  | 0, value, cs => some (value, cs)
  | _ + 1, _, [] => none
  | n + 1, value, c :: cs => (digitValue? c).bind fun d => digits n (value * 10 + d) cs

/-- All leading digits, read onto `value`, with their number. -/
def manyDigits (value count : Nat) : List Char → Nat × Nat × List Char
  | [] => (value, count, [])
  | c :: cs =>
    match digitValue? c with
    | some d => manyDigits (value * 10 + d) (count + 1) cs
    | none => (value, count, c :: cs)

def isDigit (c : Char) : Bool := (digitValue? c).isSome

def oneOf (choice : List Char) : List Char → Option (List Char)
  | c :: cs => if c ∈ choice then some cs else none
  | [] => none

/-- The nanoseconds in a digit string after the point; digits beyond the ninth do not count. -/
def fractionNanos (ds : List Char) : Nat :=
  let nine := (ds ++ List.replicate 9 '0').take 9
  (manyDigits 0 0 nine).1

def fraction : List Char → Option (Nat × List Char)
  | '.' :: cs =>
    let ds := cs.takeWhile isDigit
    if ds.isEmpty then none else some (fractionNanos ds, cs.dropWhile isDigit)
  | cs => some (0, cs)

def signOf? (c : Char) : Option Int :=
  if c = '+' then some 1 else if c = '-' ∨ c = '\u2212' then some (-1) else none

/-- Seconds east of UTC, less than a day. -/
def offsetOf? (sign : Int) (hours minutes : Nat) : Option Int :=
  if hours ≤ 23 ∧ minutes ≤ 59 then some (sign * (hours * 3600 + minutes * 60)) else none

/-- The instant of a local date and time at an offset.  Second 60 is the leap second after second
59. -/
def assemble (date : Date) (hour minute second nano : Nat) (offset : Int) : Option Instant := do
  if !date.valid || 23 < hour || 59 < minute || 60 < second then none
  let leap := second = 60
  let second := hour * 3600 + minute * 60 + if leap then 59 else second
  let nano := if leap then nano + 1000000000 else nano
  let near ← Instant.ofParts? date.toDays second nano
  let seconds := near.epochSeconds - offset
  Instant.ofParts? (seconds / 86400) (seconds % 86400).toNat nano

/-- How the parts of a timestamp are read.  The offset is the last part. -/
structure Style where
  number : List Char → Option (Nat × List Char)
  mark : Char → List Char → Option (List Char)
  offset : List Char → Option Int

def afterYear (style : Style) (year : Int) (cs : List Char) : Option Instant := do
  let cs ← style.mark '-' cs
  let (month, cs) ← style.number cs
  let cs ← style.mark '-' cs
  let (day, cs) ← style.number cs
  let cs ← oneOf ['T', 't', ' '] cs
  let (hour, cs) ← style.number cs
  let cs ← style.mark ':' cs
  let (minute, cs) ← style.number cs
  let cs ← style.mark ':' cs
  let (second, cs) ← style.number cs
  let (nano, cs) ← fraction cs
  let offset ← style.offset cs
  assemble ⟨year, month, day⟩ hour minute second nano offset

/-! ## Requests -/

def strictOffset : List Char → Option Int
  | ['Z'] | ['z'] => some 0
  | c :: cs => do
    let sign ← signOf? c
    let (hours, cs) ← digits 2 0 cs
    let cs ← oneOf [':'] cs
    let (minutes, cs) ← digits 2 0 cs
    if cs.isEmpty then offsetOf? sign hours minutes else none
  | [] => none

def strict : Style := ⟨digits 2 0, fun c => oneOf [c], strictOffset⟩

def parse? (s : String) : Option Instant := do
  let (year, cs) ← digits 4 0 s.toList
  afterYear strict year cs

/-! ## Documents -/

def skipBlanks (cs : List Char) : List Char := cs.dropWhile Text.isBlank

/-- One to `most` digits, after any blanks. -/
def shortNumber (most : Nat) (cs : List Char) : Option (Nat × List Char) :=
  let cs := skipBlanks cs
  let ds := (cs.takeWhile isDigit).take most
  if ds.isEmpty then none else some ((manyDigits 0 0 ds).1, cs.drop ds.length)

def isUtc (cs : List Char) : Bool := (cs.take 3).map Char.toLower == ['u', 't', 'c']

/-- An offset and what is left after it. -/
def leadingOffset : List Char → Option (Int × List Char)
  | [] => none
  | c :: cs =>
    if isUtc (c :: cs) then some (0, cs.drop 2)
    else if c = 'Z' ∨ c = 'z' then some (0, cs)
    else do
      let sign ← signOf? c
      let (hours, cs) ← digits 2 0 cs
      let (minutes, cs) ← digits 2 0 (cs.dropWhile fun c => c = ':' || Text.isBlank c)
      let offset ← offsetOf? sign hours minutes
      some (offset, cs)

def lenientOffset (cs : List Char) : Option Int := do
  let (offset, cs) ← leadingOffset (skipBlanks cs)
  if cs.all Text.isBlank then some offset else none

def lenient : Style := ⟨shortNumber 2, fun c cs => oneOf [c] (skipBlanks cs), lenientOffset⟩

/-- A sign and at least one digit. -/
def signedYear : List Char → Option (Int × List Char)
  | c :: cs => do
    let sign : Int ← if c = '+' then some 1 else if c = '-' then some (-1) else none
    let (value, count, cs) := manyDigits 0 0 cs
    if count = 0 then none else some (sign * value, cs)
  | [] => none

def lenientYear (cs : List Char) : Option (Int × List Char) :=
  match signedYear (skipBlanks cs) with
  | some read => some read
  | none => (shortNumber 4 cs).map fun read => ((read.1 : Int), read.2)

def parseLenient? (s : String) : Option Instant := do
  let (year, cs) ← lenientYear s.toList
  afterYear lenient year cs

end Telemetry.Timestamp
