import Telemetry.Binary64.Basic

/-!
# Documents

`Json` is the tree of a document as written: numerals keep their digits,
objects keep the order and the repetition of their members, and a string is
`none` where an escape in it names half a surrogate pair.  `Json.generic?` is
the stricter reading as a plain value, in which the last of repeated members
counts.

A numeral is a whole number if it has neither point nor exponent and fits 64
bits; `-0` is not.  Any numeral can be read as a binary64 number: the leading
digits that fit 64 bits form a significand, later digits only move the point,
and the significand is scaled by one power of ten, or by two where it is below
`10 ^ -308`.
-/
set_option autoImplicit false
namespace Telemetry.Json

/-- A number as written: sign, digits before the point, digits after it (none without a point), and
the exponent if there is one. -/
structure Numeral where
  negative : Bool
  whole : List Nat
  fraction : List Nat
  exponent : Option Int
  deriving DecidableEq, Repr

namespace Numeral

def ofDigits (ds : List Nat) : Nat := ds.foldl (fun n d => n * 10 + d) 0

def integer? (n : Numeral) : Option Int :=
  let magnitude := ofDigits n.whole
  if !n.fraction.isEmpty || n.exponent.isSome then none
  else if n.negative then
    if magnitude = 0 ∨ 9223372036854775808 < magnitude then none else some (-(magnitude : Int))
  else if magnitude < 18446744073709551616 then some magnitude
  else none

structure Scaled where
  significand : Nat
  power : Int
  deriving DecidableEq, Repr

/-- Digits before the point.  Once a digit does not fit, it and all later ones only raise the
power. -/
def readWhole (s : Scaled) : List Nat → Scaled
  | [] => s
  | d :: ds =>
    if s.significand * 10 + d < 18446744073709551616 then readWhole ⟨s.significand * 10 + d, s.power⟩ ds
    else ⟨s.significand, s.power + (d :: ds).length⟩

/-- Digits after the point, up to the first that does not fit. -/
def readFraction (s : Scaled) : List Nat → Scaled
  | [] => s
  | d :: ds =>
    if s.significand * 10 + d < 18446744073709551616 then readFraction ⟨s.significand * 10 + d, s.power - 1⟩ ds
    else s

def scaled (n : Numeral) : Scaled :=
  let s := readFraction (readWhole ⟨0, 0⟩ n.whole) n.fraction
  ⟨s.significand, s.power + n.exponent.getD 0⟩

def tenPower (k : Nat) : Binary64 := Binary64.ofNat (Nat.pow 10 k)

def Scaled.toBinary64? (s : Scaled) : Option Binary64 :=
  let x := Binary64.ofNat s.significand
  if s.significand = 0 then some x
  else if 308 < s.power then none
  else if 0 ≤ s.power then
    let y := x * tenPower s.power.toNat
    if y.isInfinite then none else some y
  else if -308 ≤ s.power then some (x / tenPower (-s.power).toNat)
  else if -616 ≤ s.power then some (x / tenPower 308 / tenPower (-s.power - 308).toNat)
  else some (Binary64.zero false)

def toBinary64? (n : Numeral) : Option Binary64 :=
  n.scaled.toBinary64?.map fun x => if n.negative then -x else x

def digitsOf (n : Nat) : List Nat := (Nat.toDigits 10 n).map fun c => c.toNat - '0'.toNat

def ofInt (i : Int) : Numeral := ⟨i < 0, digitsOf i.natAbs, [], none⟩

end Numeral
end Telemetry.Json

/-! ## Trees -/

namespace Telemetry

inductive Json where
  | null
  | bool (b : Bool)
  | number (n : Json.Numeral)
  | string (text : Option String)
  | array (items : List Json)
  | object (members : List (Option String × Json))
  deriving Repr

namespace Json

def text (s : String) : Json := .string (some s)

def int (i : Int) : Json := .number (Numeral.ofInt i)

def record (members : List (String × Json)) : Json :=
  .object (members.map fun m => (some m.1, m.2))

mutual

def depth : Json → Nat
  | .array items => depthOfItems items + 1
  | .object members => depthOfMembers members + 1
  | _ => 0

def depthOfItems : List Json → Nat
  | [] => 0
  | j :: rest => max (depth j) (depthOfItems rest)

def depthOfMembers : List (Option String × Json) → Nat
  | [] => 0
  | (_, j) :: rest => max (depth j) (depthOfMembers rest)

end

def depthLimit : Nat := 127

/-- Members of which no later one has the same key. -/
def lastMembers : List (Option String × Json) → List (Option String × Json)
  | [] => []
  | m :: rest =>
    if rest.any fun later => later.1 == m.1 then lastMembers rest else m :: lastMembers rest

mutual

def plain? : Json → Option Json
  | .number n => if n.integer?.isSome || n.toBinary64?.isSome then some (.number n) else none
  | .string none => none
  | .array items => (plainItems? items).map .array
  | .object members => (plainMembers? members).map fun ms => .object (lastMembers ms)
  | j => some j

def plainItems? : List Json → Option (List Json)
  | [] => some []
  | j :: rest => do
    let j ← plain? j
    let rest ← plainItems? rest
    some (j :: rest)

def plainMembers? : List (Option String × Json) → Option (List (Option String × Json))
  | [] => some []
  | (none, _) :: _ => none
  | (some k, j) :: rest => do
    let j ← plain? j
    let rest ← plainMembers? rest
    some ((some k, j) :: rest)

end

def generic? (j : Json) : Option Json :=
  if j.depth ≤ depthLimit then j.plain? else none

end Json
end Telemetry
