/-!
# Request targets

The part of a URL that a request names: path and query, with dot segments
resolved and characters that may not stand there escaped.
-/
set_option autoImplicit false
namespace Telemetry.Http.Target

def hexDigits (n : Nat) : List Char :=
  [(Nat.digitChar (n / 16)).toUpper, (Nat.digitChar (n % 16)).toUpper]

def percentEncoded (c : Char) : List Char :=
  (String.singleton c).toUTF8.toList.flatMap fun b => '%' :: hexDigits b.toNat

/-- Escapes all but visible ASCII outside `marks`. -/
def encode (marks : List Char) (cs : List Char) : List Char :=
  cs.flatMap fun c =>
    if c.toNat ≤ 0x20 ∨ 0x7f ≤ c.toNat ∨ c ∈ marks then percentEncoded c else [c]

def pathMarks : List Char := ['"', '<', '>', '\x60', '#', '?', '\x7b', '\x7d']

def queryMarks : List Char := ['"', '<', '>', '#', '\'']

def isSlash (c : Char) : Bool := c == '/' || c == '\\'

def segments : List Char → List (List Char)
  | [] => [[]]
  | c :: rest =>
    if isSlash c then [] :: segments rest
    else match segments rest with
      | [] => [[c]]
      | s :: more => (c :: s) :: more

def isDot (s : List Char) : Bool :=
  s == ['.'] || s.map Char.toLower == ['%', '2', 'e']

def isDoubleDot (s : List Char) : Bool :=
  let s := s.map Char.toLower
  s == ['.', '.'] || s == ['.', '%', '2', 'e'] || s == ['%', '2', 'e', '.']
    || s == ['%', '2', 'e', '%', '2', 'e']

/-- Resolves dot segments onto those kept so far, latest first. -/
def resolve (kept : List (List Char)) : List (List Char) → List (List Char)
  | [] => kept.reverse
  | s :: rest =>
    let kept :=
      if isDoubleDot s then if rest.isEmpty then [] :: kept.tail else kept.tail
      else if isDot s then if rest.isEmpty then [] :: kept else kept
      else s :: kept
    resolve kept rest

def path (cs : List Char) : List Char :=
  match cs with
  | [] => ['/']
  | c :: rest =>
    let parts := resolve [] (segments (if isSlash c then rest else c :: rest))
    parts.flatMap fun s => '/' :: encode pathMarks s

/-- A URL after its scheme, without characters that do not count in it. -/
def afterScheme? (url : String) : Option (List Char) :=
  let ignored := fun c : Char => c == '\t' || c == '\n' || c == '\r'
  let edge := fun c : Char => c.toNat ≤ 0x20
  let cs := ((url.toList.dropWhile edge).reverse.dropWhile edge).reverse.filter fun c => !ignored c
  let schemes := ["http://".toList, "https://".toList]
  (schemes.find? fun s => s.isPrefixOf cs).map fun s => cs.drop s.length

def endsAuthority (c : Char) : Bool := isSlash c || c == '?' || c == '#'

def of? (authority url : String) : Option String := do
  let rest ← afterScheme? url
  let host := rest.takeWhile fun c => !endsAuthority c
  if host ≠ authority.toList then none
  let rest := (rest.drop host.length).takeWhile fun c => c != '#'
  let before := rest.takeWhile fun c => c != '?'
  let query := rest.drop before.length
  let encodedQuery := match query with
    | [] => []
    | mark :: cs => mark :: encode queryMarks cs
  some (String.ofList (path before ++ encodedQuery))

end Telemetry.Http.Target
