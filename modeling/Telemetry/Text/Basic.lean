/-!
# Characters and bytes

The characters with the `White_Space` property, and trimming by them.  UTF-8 is
read as a sequence of characters and of ill-formed stretches, each as long as
it could still begin a character: strict decoding allows no such stretch,
lenient decoding writes U+FFFD for each.  Base64 uses the standard alphabet with
padding: three bytes become four letters.
-/
set_option autoImplicit false
namespace Telemetry.Text

def blankRanges : List (Nat × Nat) :=
  [(0x9, 0xD), (0x20, 0x20), (0x85, 0x85), (0xA0, 0xA0), (0x1680, 0x1680), (0x2000, 0x200A),
   (0x2028, 0x2029), (0x202F, 0x202F), (0x205F, 0x205F), (0x3000, 0x3000)]

def isBlank (c : Char) : Bool :=
  blankRanges.any fun r => r.1 ≤ c.toNat && c.toNat ≤ r.2

def trimChars (cs : List Char) : List Char :=
  ((cs.dropWhile isBlank).reverse.dropWhile isBlank).reverse

def trim (s : String) : String :=
  String.ofList (trimChars s.toList)

def blank (s : String) : Bool :=
  s.toList.all isBlank

/-- Equality of texts up to the case of the letters `a` to `z`. -/
def sameLetters (s t : String) : Bool :=
  s.toList.map Char.toLower == t.toList.map Char.toLower

/-! ## UTF-8 -/

namespace Utf8

/-- A character begun: the bits read, the bytes still to come, and the bounds of the next one. -/
structure Begun where
  bits : Nat
  missing : Nat
  low : Nat
  high : Nat
  deriving DecidableEq, Repr

def lead? (b : Nat) : Option Begun :=
  if 0xC2 ≤ b ∧ b ≤ 0xDF then some ⟨b - 0xC0, 1, 0x80, 0xBF⟩
  else if b = 0xE0 then some ⟨0, 2, 0xA0, 0xBF⟩
  else if b = 0xED then some ⟨0xD, 2, 0x80, 0x9F⟩
  else if 0xE1 ≤ b ∧ b ≤ 0xEF then some ⟨b - 0xE0, 2, 0x80, 0xBF⟩
  else if b = 0xF0 then some ⟨0, 3, 0x90, 0xBF⟩
  else if 0xF1 ≤ b ∧ b ≤ 0xF3 then some ⟨b - 0xF0, 3, 0x80, 0xBF⟩
  else if b = 0xF4 then some ⟨4, 3, 0x80, 0x8F⟩
  else none

def start (b : Nat) : List (Option Char) × Option Begun :=
  if b < 0x80 then ([some (Char.ofNat b)], none)
  else match lead? b with
    | some begun => ([], some begun)
    | none => ([none], none)

def step (begun : Option Begun) (b : Nat) : List (Option Char) × Option Begun :=
  match begun with
  | none => start b
  | some s =>
    if s.low ≤ b ∧ b ≤ s.high then
      let bits := s.bits * 64 + (b - 0x80)
      if s.missing ≤ 1 then ([some (Char.ofNat bits)], none)
      else ([], some ⟨bits, s.missing - 1, 0x80, 0xBF⟩)
    else
      let (out, next) := start b
      (none :: out, next)

/-- The characters and ill-formed stretches of a sequence of bytes, onto those read before, latest
first. -/
def unitsOnto (read : List (Option Char)) (begun : Option Begun) : List UInt8 → List (Option Char)
  | [] => if begun.isSome then none :: read else read
  | b :: rest =>
    let (out, next) := step begun b.toNat
    unitsOnto (out.reverse ++ read) next rest

def units (bytes : List UInt8) : List (Option Char) := (unitsOnto [] none bytes).reverse

end Utf8

def decodeUtf8? (bytes : List UInt8) : Option String :=
  let units := Utf8.units bytes
  if units.all Option.isSome then some (String.ofList (units.filterMap id)) else none

def decodeUtf8Lenient (bytes : List UInt8) : String :=
  String.ofList ((Utf8.units bytes).map fun u => u.getD '\ufffd')

/-! ## Base64 -/

def base64Letters : List Char :=
  "ABCDEFGHIJKLMNOPQRSTUVWXYZabcdefghijklmnopqrstuvwxyz0123456789+/".toList

def base64Letter (n : Nat) : Char := base64Letters.getD (n % 64) 'A'

def base64Chars : List UInt8 → List Char
  | [] => []
  | [a] =>
    let n := a.toNat * 65536
    [base64Letter (n / 262144), base64Letter (n / 4096), '=', '=']
  | [a, b] =>
    let n := a.toNat * 65536 + b.toNat * 256
    [base64Letter (n / 262144), base64Letter (n / 4096), base64Letter (n / 64), '=']
  | a :: b :: c :: rest =>
    let n := a.toNat * 65536 + b.toNat * 256 + c.toNat
    base64Letter (n / 262144) :: base64Letter (n / 4096) :: base64Letter (n / 64) :: base64Letter n
      :: base64Chars rest

def base64 (s : String) : String := String.ofList (base64Chars s.toUTF8.toList)

end Telemetry.Text
