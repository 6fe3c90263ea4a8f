import Telemetry.Json.Basic

/-!
# Writing documents

The compact text of a document: no blanks, and in strings only the quote, the
backslash and control characters escaped.  A string that could not be read as
whole characters is written empty.
-/
set_option autoImplicit false
namespace Telemetry.Json

def hexDigit (n : Nat) : Char := (Nat.digitChar n)

def quotedChar (c : Char) : List Char :=
  if c = '"' then ['\\', '"']
  else if c = '\\' then ['\\', '\\']
  else if c = '\n' then ['\\', 'n']
  else if c = '\r' then ['\\', 'r']
  else if c = '\t' then ['\\', 't']
  else if c = '\x08' then ['\\', 'b']
  else if c = '\x0c' then ['\\', 'f']
  else if c.toNat < 0x20 then ['\\', 'u', '0', '0', hexDigit (c.toNat / 16), hexDigit (c.toNat % 16)]
  else [c]

def quotedChars (s : Option String) : List Char :=
  '"' :: ((s.getD "").toList.flatMap quotedChar ++ ['"'])

def digitChars (ds : List Nat) : List Char := ds.map Nat.digitChar

def Numeral.chars (n : Numeral) : List Char :=
  (if n.negative then ['-'] else []) ++ digitChars n.whole
    ++ (if n.fraction.isEmpty then [] else '.' :: digitChars n.fraction)
    ++ match n.exponent with
      | none => []
      | some e => 'e' :: (if e < 0 then ['-'] else []) ++ Nat.toDigits 10 e.natAbs

mutual

def chars : Json → List Char
  | .null => ['n', 'u', 'l', 'l']
  | .bool true => ['t', 'r', 'u', 'e']
  | .bool false => ['f', 'a', 'l', 's', 'e']
  | .number n => n.chars
  | .string s => quotedChars s
  | .array items => '[' :: (itemChars items ++ [']'])
  | .object members => '\x7b' :: (memberChars members ++ ['\x7d'])

def itemChars : List Json → List Char
  | [] => []
  | [j] => chars j
  | j :: rest => chars j ++ ',' :: itemChars rest

def memberChars : List (Option String × Json) → List Char
  | [] => []
  | [(k, j)] => quotedChars k ++ ':' :: chars j
  | (k, j) :: rest => quotedChars k ++ ':' :: (chars j ++ ',' :: memberChars rest)

end

def render (j : Json) : String := String.ofList (chars j)

end Telemetry.Json
