import Telemetry.Binary64.Basic

/-!
# Decimal text of binary64 numbers

`Binary64.text` writes the fewest digits that read back as the same number,
always in positional notation: no exponent, and no point where no digit
follows it.  `Binary64.wholeText` writes the nearest whole number.
-/
set_option autoImplicit false
namespace Telemetry.Binary64

structure Decimal where
  digits : Nat
  exponent : Int
  deriving DecidableEq, Repr

def digitCount (n : Nat) : Nat := (Nat.toDigits 10 n).length

def leadingExponent (p : Nat) : Int :=
  (digitCount (units p * Nat.pow 10 400 / one) : Int) - 1 - 400

/-- `2 * d` compared with units, both scaled to whole numbers: the first is the decimal, the second
the scale of a unit. -/
def Decimal.doubledUnits (d : Decimal) : Nat × Nat :=
  if 0 ≤ d.exponent then (2 * d.digits * Nat.pow 10 d.exponent.toNat * one, 1)
  else (2 * d.digits * one, Nat.pow 10 (-d.exponent).toNat)

/-- The decimal lies among the reals that round to position `p`: between the midpoints to both
neighbours, the midpoints counted in exactly if `p` is even. -/
def Decimal.readsBack (d : Decimal) (p : Nat) : Bool :=
  let low := units (p - 1) + units p
  let high := units p + units (p + 1)
  let (value, scale) := d.doubledUnits
  if p % 2 = 0 then low * scale ≤ value && value ≤ high * scale
  else low * scale < value && value < high * scale

/-- The decimal of `n` digits next below the magnitude at `p`, and the one next above it. -/
def neighbours (p n : Nat) : Decimal × Decimal :=
  let e := leadingExponent p - (n : Int) + 1
  let low := if 0 ≤ e then units p / (one * Nat.pow 10 e.toNat) else units p * Nat.pow 10 (-e).toNat / one
  (⟨low, e⟩, ⟨low + 1, e⟩)

/-- Of two decimals around the magnitude at `p` the nearer; of equally near ones the upper. -/
def nearer (p : Nat) (low high : Decimal) : Decimal :=
  let (l, scale) := low.doubledUnits
  let (h, _) := high.doubledUnits
  let u := 2 * units p * scale
  if u - l < h - u then low else high

def shortestFrom (p : Nat) : Nat → Nat → Decimal
  | _, 0 => (neighbours p 17).1
  | n, fuel + 1 =>
    let (low, high) := neighbours p n
    match low.readsBack p, high.readsBack p with
    | true, true => nearer p low high
    | true, false => low
    | false, true => high
    | false, false => shortestFrom p (n + 1) fuel

def shortest (p : Nat) : Decimal := shortestFrom p 1 17

def dropZeros : Nat → Decimal → Decimal
  | 0, d => d
  | fuel + 1, d => if d.digits % 10 = 0 then dropZeros fuel ⟨d.digits / 10, d.exponent + 1⟩ else d

def Decimal.positional (d : Decimal) : String :=
  let ds := Nat.toDigits 10 d.digits
  if 0 ≤ d.exponent then String.ofList (ds ++ List.replicate d.exponent.toNat '0')
  else
    let places := (-d.exponent).toNat
    let padded := List.replicate (places + 1 - ds.length) '0' ++ ds
    String.ofList (padded.take (padded.length - places) ++ '.' :: padded.drop (padded.length - places))

def sign (x : Binary64) : String := if x.negative then "-" else ""

def text (x : Binary64) : String :=
  if x.isNaN then "NaN"
  else if x.isInfinite then x.sign ++ "inf"
  else if x.position = 0 then x.sign ++ "0"
  else x.sign ++ (dropZeros 20 (shortest x.position)).positional

def wholeText (x : Binary64) : String :=
  if x.isNaN then "NaN"
  else if x.isInfinite then x.sign ++ "inf"
  else x.sign ++ toString x.nearestNat

end Telemetry.Binary64
