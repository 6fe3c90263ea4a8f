/-!
# Binary64 numbers

A number in the binary64 interchange format is a sign and a position on the
scale of magnitudes: positions count upward from zero through the subnormal
and normal magnitudes to infinity, and on to the NaNs.  On that scale the
order of magnitudes is the order of positions, and every finite magnitude is a
whole number of units of `2 ^ -1074`, so arithmetic is exact arithmetic on
units followed by one rounding to the nearest position, ties going to the even
one.

Logarithms are summed in fixed point with `scale` parts to one, far finer than
the binary64 numbers near any result but zero, and rounded once at the end.  A
positive number is `2 ^ k * (1 + z) / (1 - z)` with `z` below 0.172 in
magnitude, and its logarithm is `k ln 2 + 2 artanh z`.
-/
set_option autoImplicit false
namespace Telemetry

/-- A binary64 number: its sign, and the position of its magnitude. -/
structure Binary64 where
  negative : Bool
  position : Nat
  position_lt : position < 9223372036854775808
  deriving DecidableEq, Repr

namespace Binary64

/-- The position of infinity; NaNs lie above it. -/
def infinityPosition : Nat := 2047 * Nat.pow 2 52

/-- The number with a given sign at a given position; positions beyond infinity become infinity. -/
def ofPosition (negative : Bool) (p : Nat) : Binary64 :=
  ⟨negative, min p infinityPosition, by
    have : infinityPosition < 9223372036854775808 := by decide
    omega⟩

def nan : Binary64 := ⟨false, infinityPosition + Nat.pow 2 51, by decide⟩

def infinity (negative : Bool) : Binary64 := ofPosition negative infinityPosition

def zero (negative : Bool) : Binary64 := ofPosition negative 0

def ofBits (b : UInt64) : Binary64 :=
  ⟨9223372036854775808 ≤ b.toNat, b.toNat % 9223372036854775808, Nat.mod_lt _ (by decide)⟩

def toBits (x : Binary64) : UInt64 :=
  UInt64.ofNat (x.position + if x.negative then 9223372036854775808 else 0)

def isNaN (x : Binary64) : Bool := infinityPosition < x.position

def isInfinite (x : Binary64) : Bool := x.position == infinityPosition

def isFinite (x : Binary64) : Bool := x.position < infinityPosition

/-- The magnitude at a finite position, in units of `2 ^ -1074`. -/
def units (p : Nat) : Nat :=
  if p < Nat.pow 2 52 then p
  else (Nat.pow 2 52 + p % Nat.pow 2 52) * Nat.pow 2 (p / Nat.pow 2 52 - 1)

/-- Units in the number one. -/
def one : Nat := Nat.pow 2 1074

def signedUnits (x : Binary64) : Int :=
  if x.negative then -(units x.position : Int) else units x.position

/-- The position whose magnitude is nearest to `num / den` units; of two equally near ones the
even one. -/
def nearestPosition (num den : Nat) : Nat :=
  let shift := (num / den).log2 - 52
  let step := den * Nat.pow 2 shift
  let low := num / step
  let rest := num % step
  let rounded := if step < 2 * rest ∨ (step = 2 * rest ∧ low % 2 = 1) then low + 1 else low
  shift * Nat.pow 2 52 + rounded

def round (negative : Bool) (num den : Nat) : Binary64 :=
  ofPosition negative (nearestPosition num den)

/-! ### Arithmetic -/

def neg (x : Binary64) : Binary64 := { x with negative := !x.negative }

def abs (x : Binary64) : Binary64 := { x with negative := false }

def add (x y : Binary64) : Binary64 :=
  if x.isNaN || y.isNaN then nan
  else if x.isInfinite then
    if y.isInfinite && x.negative != y.negative then nan else x
  else if y.isInfinite then y
  else
    let sum := x.signedUnits + y.signedUnits
    if sum = 0 then zero (x.negative && y.negative)
    else round (sum < 0) sum.natAbs 1

def sub (x y : Binary64) : Binary64 := x.add y.neg

def mul (x y : Binary64) : Binary64 :=
  let negative := x.negative != y.negative
  if x.isNaN || y.isNaN then nan
  else if x.isInfinite || y.isInfinite then
    if x.position == 0 || y.position == 0 then nan else infinity negative
  else round negative (units x.position * units y.position) one

def div (x y : Binary64) : Binary64 :=
  let negative := x.negative != y.negative
  if x.isNaN || y.isNaN then nan
  else if x.isInfinite then
    if y.isInfinite then nan else infinity negative
  else if y.isInfinite then zero negative
  else if y.position = 0 then
    if x.position = 0 then nan else infinity negative
  else round negative (units x.position * one) (units y.position)

instance : Neg Binary64 := ⟨neg⟩
instance : Add Binary64 := ⟨add⟩
instance : Sub Binary64 := ⟨sub⟩
instance : Mul Binary64 := ⟨mul⟩
instance : Div Binary64 := ⟨div⟩

def ofInt (n : Int) : Binary64 := round (n < 0) (n.natAbs * one) 1

def ofNat (n : Nat) : Binary64 := round false (n * one) 1

/-! ### Orders -/

/-- Position on the scale that runs through both signs; the two zeros share place 0. -/
def place (x : Binary64) : Int :=
  if x.negative then -(x.position : Int) else x.position

/-- Numeric order; a NaN is neither below nor above anything. -/
def lt (x y : Binary64) : Bool :=
  !x.isNaN && !y.isNaN && decide (x.place < y.place)

def le (x y : Binary64) : Bool :=
  !x.isNaN && !y.isNaN && decide (x.place ≤ y.place)

instance : LT Binary64 := ⟨fun x y => x.lt y = true⟩
instance : LE Binary64 := ⟨fun x y => x.le y = true⟩
instance (x y : Binary64) : Decidable (x < y) := inferInstanceAs (Decidable (x.lt y = true))
instance (x y : Binary64) : Decidable (x ≤ y) := inferInstanceAs (Decidable (x.le y = true))

/-- Rank in the total order of all numbers: negative NaNs, negative numbers, `-0`, `0`, positive
numbers, positive NaNs. -/
def rank (x : Binary64) : Int :=
  if x.negative then -(x.position : Int) - 1 else x.position

/-! ### Back to whole numbers -/

/-- The least natural number not below the number, at most `limit`; zero for negative numbers and
NaNs. -/
def ceilNat (x : Binary64) (limit : Nat) : Nat :=
  if x.isNaN || x.negative then 0
  else if x.isInfinite then limit
  else min ((units x.position + (one - 1)) / one) limit

/-- The nearest natural number to the magnitude of a finite number; a half goes to the even one. -/
def nearestNat (x : Binary64) : Nat :=
  let u := units x.position
  let low := u / one
  let rest := u % one
  if one < 2 * rest ∨ (one = 2 * rest ∧ low % 2 = 1) then low + 1 else low

/-! ### Natural logarithms -/

def scale : Nat := Nat.pow 2 256

/-- `power / n + power * square / (n + 2) + ...`, all in parts, for a number of terms. -/
def artanhTail (square power n : Nat) : Nat → Nat
  | 0 => 0
  | terms + 1 => power / n + artanhTail square (power * square / scale) (n + 2) terms

/-- The area tangent of `num / den` in parts, for arguments up to a third. -/
def artanhParts (num den : Nat) : Nat :=
  let z := num * scale / den
  artanhTail (z * z / scale) z 1 84

def ln2Parts : Nat := 2 * artanhParts 1 3

/-- The logarithm of `u / v` in parts, `u` being nearer to `v` than a factor of `2 ^ (1/2)`. -/
def lnNearOne (u v : Nat) : Int :=
  if v ≤ u then 2 * artanhParts (u - v) (u + v) else -(2 * artanhParts (v - u) (u + v) : Nat)

def lnParts (u : Nat) : Int :=
  let k := if u * u < 2 * Nat.pow 4 u.log2 then u.log2 else u.log2 + 1
  ((k : Int) - 1074) * ln2Parts + lnNearOne u (Nat.pow 2 k)

def ln (x : Binary64) : Binary64 :=
  if x.isNaN then nan
  else if x.position = 0 then infinity true
  else if x.negative then nan
  else if x.isInfinite then x
  else
    let parts := lnParts (units x.position)
    round (parts < 0) (parts.natAbs * one) scale

end Binary64
end Telemetry
