import Telemetry.Json.Basic

/-!
# Tokens of a document

Characters are read one by one by an automaton that emits tokens.  Blanks are
space, tab, line feed and carriage return.  A numeral ends where a character
does not continue it.
-/
set_option autoImplicit false
namespace Telemetry.Json

inductive Token where
  | openBrace
  | closeBrace
  | openBracket
  | closeBracket
  | comma
  | colon
  | null
  | bool (b : Bool)
  | number (n : Numeral)
  | string (text : Option String)
  deriving DecidableEq, Repr

namespace Lexer

structure Digits where
  negative : Bool
  whole : List Nat
  fraction : List Nat
  deriving DecidableEq, Repr

/-- What the automaton is in the middle of.  Code units of a string are kept latest first. -/
inductive State where
  | between
  | word (rest : List Char) (token : Token)
  | minus
  | whole (d : Digits)
  | point (d : Digits)
  | fraction (d : Digits)
  | mark (d : Digits)
  | signed (d : Digits) (negative : Bool)
  | exponent (d : Digits) (negative : Bool) (value : Nat)
  | text (units : List Nat)
  | escape (units : List Nat)
  | hex (units : List Nat) (digits : Nat) (value : Nat)
  deriving DecidableEq, Repr

def isSpace (c : Char) : Bool := c == ' ' || c == '\t' || c == '\n' || c == '\r'

def digit? (c : Char) : Option Nat :=
  if '0' ≤ c ∧ c ≤ '9' then some (c.toNat - '0'.toNat) else none

def hexDigit? (c : Char) : Option Nat :=
  if '0' ≤ c ∧ c ≤ '9' then some (c.toNat - '0'.toNat)
  else if 'a' ≤ c ∧ c ≤ 'f' then some (c.toNat - 'a'.toNat + 10)
  else if 'A' ≤ c ∧ c ≤ 'F' then some (c.toNat - 'A'.toNat + 10)
  else none

def Digits.numeral (d : Digits) (exponent : Option Int) : Numeral :=
  ⟨d.negative, d.whole.reverse, d.fraction.reverse, exponent⟩

def exponentValue (negative : Bool) (value : Nat) : Int :=
  if negative then -(value : Int) else value

def isHighSurrogate (u : Nat) : Bool := 0xD800 ≤ u && u < 0xDC00

def isLowSurrogate (u : Nat) : Bool := 0xDC00 ≤ u && u < 0xE000

/-- The characters of a sequence of code points and escaped surrogates; nothing if a surrogate stands
alone. -/
def pairSurrogates : List Nat → Option (List Char)
  | [] => some []
  | u :: rest =>
    if isHighSurrogate u then
      match rest with
      | v :: rest =>
        if isLowSurrogate v then
          (pairSurrogates rest).map (Char.ofNat (0x10000 + (u - 0xD800) * 0x400 + (v - 0xDC00)) :: ·)
        else none
      | [] => none
    else if isLowSurrogate u then none
    else (pairSurrogates rest).map (Char.ofNat u :: ·)

def stringOf (units : List Nat) : Option String := (pairSurrogates units.reverse).map String.ofList

def escaped? : Char → Option Char
  | '"' => some '"'
  | '\\' => some '\\'
  | '/' => some '/'
  | 'b' => some '\x08'
  | 'f' => some '\x0c'
  | 'n' => some '\n'
  | 'r' => some '\r'
  | 't' => some '\t'
  | _ => none

structure Progress where
  state : State
  tokens : List Token
  deriving DecidableEq, Repr

def start (tokens : List Token) (c : Char) : Option Progress :=
  if isSpace c then some ⟨.between, tokens⟩
  else match c with
    | '\x7b' => some ⟨.between, .openBrace :: tokens⟩
    | '\x7d' => some ⟨.between, .closeBrace :: tokens⟩
    | '[' => some ⟨.between, .openBracket :: tokens⟩
    | ']' => some ⟨.between, .closeBracket :: tokens⟩
    | ',' => some ⟨.between, .comma :: tokens⟩
    | ':' => some ⟨.between, .colon :: tokens⟩
    | '"' => some ⟨.text [], tokens⟩
    | '-' => some ⟨.minus, tokens⟩
    | 'n' => some ⟨.word ['u', 'l', 'l'] .null, tokens⟩
    | 't' => some ⟨.word ['r', 'u', 'e'] (.bool true), tokens⟩
    | 'f' => some ⟨.word ['a', 'l', 's', 'e'] (.bool false), tokens⟩
    | c => (digit? c).map fun d => ⟨.whole ⟨false, [d], []⟩, tokens⟩

def isExponentMark (c : Char) : Bool := c == 'e' || c == 'E'

def step (p : Progress) (c : Char) : Option Progress :=
  let tokens := p.tokens
  match p.state with
  | .between => start tokens c
  | .word (d :: rest) token =>
    if c ≠ d then none
    else if rest.isEmpty then some ⟨.between, token :: tokens⟩
    else some ⟨.word rest token, tokens⟩
  | .word [] _ => none
  | .minus => (digit? c).map fun d => ⟨.whole ⟨true, [d], []⟩, tokens⟩
  | .whole d =>
    match digit? c with
    | some v => if d.whole = [0] then none else some ⟨.whole { d with whole := v :: d.whole }, tokens⟩
    | none =>
      if c = '.' then some ⟨.point d, tokens⟩
      else if isExponentMark c then some ⟨.mark d, tokens⟩
      else start (.number (d.numeral none) :: tokens) c
  | .point d => (digit? c).map fun v => ⟨.fraction { d with fraction := [v] }, tokens⟩
  | .fraction d =>
    match digit? c with
    | some v => some ⟨.fraction { d with fraction := v :: d.fraction }, tokens⟩
    | none =>
      if isExponentMark c then some ⟨.mark d, tokens⟩
      else start (.number (d.numeral none) :: tokens) c
  | .mark d =>
    if c = '+' then some ⟨.signed d false, tokens⟩
    else if c = '-' then some ⟨.signed d true, tokens⟩
    else (digit? c).map fun v => ⟨.exponent d false v, tokens⟩
  | .signed d negative => (digit? c).map fun v => ⟨.exponent d negative v, tokens⟩
  | .exponent d negative value =>
    match digit? c with
    | some v => some ⟨.exponent d negative (value * 10 + v), tokens⟩
    | none => start (.number (d.numeral (some (exponentValue negative value))) :: tokens) c
  | .text units =>
    if c = '"' then some ⟨.between, .string (stringOf units) :: tokens⟩
    else if c = '\\' then some ⟨.escape units, tokens⟩
    else if c.toNat < 0x20 then none
    else some ⟨.text (c.toNat :: units), tokens⟩
  | .escape units =>
    if c = 'u' then some ⟨.hex units 0 0, tokens⟩
    else (escaped? c).map fun e => ⟨.text (e.toNat :: units), tokens⟩
  | .hex units digits value =>
    (hexDigit? c).map fun v =>
      if digits = 3 then ⟨.text ((value * 16 + v) :: units), tokens⟩
      else ⟨.hex units (digits + 1) (value * 16 + v), tokens⟩

/-- The tokens at the end of the text, latest first, if the text may end there. -/
def finish (p : Progress) : Option (List Token) :=
  match p.state with
  | .between => some p.tokens
  | .whole d | .fraction d => some (.number (d.numeral none) :: p.tokens)
  | .exponent d negative value =>
    some (.number (d.numeral (some (exponentValue negative value))) :: p.tokens)
  | _ => none

def tokens? (cs : List Char) : Option (List Token) :=
  (cs.foldlM step ⟨.between, []⟩).bind fun p => (finish p).map List.reverse

end Lexer
end Telemetry.Json
