import Telemetry.Json.Lexer

/-!
# Reading documents

Tokens are folded into a tree with a stack of the arrays and objects that are
still open, so that nesting may be arbitrarily deep.  `Json.parse?` reads a
whole text as one document.
-/
set_option autoImplicit false
namespace Telemetry.Json

namespace Parser

/-- An array or object that is still open, its parts latest first; `member` waits for the value of a
key. -/
inductive Frame where
  | items (read : List Json)
  | members (read : List (Option String × Json))
  | member (read : List (Option String × Json)) (key : Option String)
  deriving Repr

inductive Expected where
  | value
  | valueOrClose
  | key
  | keyOrClose
  | colon (key : Option String)
  | commaOrClose
  | nothing (document : Json)
  deriving Repr

structure Progress where
  stack : List Frame
  expected : Expected
  deriving Repr

/-- A finished value goes into the innermost open array or object. -/
def deliver (value : Json) : List Frame → Option Progress
  | [] => some ⟨[], .nothing value⟩
  | .items read :: rest => some ⟨.items (value :: read) :: rest, .commaOrClose⟩
  | .member read key :: rest => some ⟨.members ((key, value) :: read) :: rest, .commaOrClose⟩
  | .members _ :: _ => none

def begin (stack : List Frame) : Token → Option Progress
  | .null => deliver .null stack
  | .bool b => deliver (.bool b) stack
  | .number n => deliver (.number n) stack
  | .string s => deliver (.string s) stack
  | .openBracket => some ⟨.items [] :: stack, .valueOrClose⟩
  | .openBrace => some ⟨.members [] :: stack, .keyOrClose⟩
  | _ => none

def close (token : Token) : List Frame → Option Progress
  | .items read :: rest => if token = .closeBracket then deliver (.array read.reverse) rest else none
  | .members read :: rest => if token = .closeBrace then deliver (.object read.reverse) rest else none
  | _ => none

def step (p : Progress) (token : Token) : Option Progress :=
  match p.expected with
  | .value => begin p.stack token
  | .valueOrClose => if token = .closeBracket then close token p.stack else begin p.stack token
  | .keyOrClose =>
    match token with
    | .string k => some ⟨p.stack, .colon k⟩
    | token => close token p.stack
  | .key =>
    match token with
    | .string k => some ⟨p.stack, .colon k⟩
    | _ => none
  | .colon k =>
    match token, p.stack with
    | .colon, .members read :: rest => some ⟨.member read k :: rest, .value⟩
    | _, _ => none
  | .commaOrClose =>
    match token, p.stack with
    | .comma, .items read :: rest => some ⟨.items read :: rest, .value⟩
    | .comma, .members read :: rest => some ⟨.members read :: rest, .key⟩
    | token, stack => close token stack
  | .nothing _ => none

def document? (tokens : List Token) : Option Json :=
  (tokens.foldlM step ⟨[], .value⟩).bind fun p =>
    match p.expected with
    | .nothing j => some j
    | _ => none

end Parser

def parse? (s : String) : Option Json :=
  (Lexer.tokens? s.toList).bind Parser.document?

end Telemetry.Json
