import Telemetry.Text.Basic
import Telemetry.Text.Quoted
import Telemetry.Time.Duration

/-!
# Settings and headers of an HTTP catalog

Where a registry is, how requests to it are authorised, and how failed requests
are repeated.  Credentials never reach a message.

Headers are set one after the other: the authorisation, the additional headers,
and the accepted format.  Setting a header replaces an earlier one of exactly
the same name, except for names that begin with `x-`, which may repeat.
-/
set_option autoImplicit false
namespace Telemetry

def version : String := "0.1.0"

namespace Http

inductive Auth where
  | none
  | bearer (token : String)
  | basic (user password : String)
  | apiKey (header value : String)
  deriving DecidableEq, Repr

def Auth.debugText : Auth → String
  | .none => "None"
  | .bearer _ => "Bearer(***)"
  | .basic user _ => "Basic(" ++ user ++ ":***)"
  | .apiKey header _ => "ApiKey(" ++ header ++ ": ***)"

structure Settings where
  baseUrl : String
  timeout : Duration
  auth : Auth
  headers : List (String × String)
  /-- Repetitions after the first request. -/
  maxRetries : UInt32
  retryBackoff : Duration
  maxBackoff : Duration
  userAgent : String
  deriving DecidableEq, Repr

namespace Settings

def standardUserAgent : String := "SensorGate/" ++ version

def standard (baseUrl : String) : Settings where
  baseUrl := baseUrl
  timeout := Duration.ofSeconds 30
  auth := .none
  headers := []
  maxRetries := 3
  retryBackoff := Duration.ofMillis 200
  maxBackoff := Duration.ofSeconds 5
  userAgent := standardUserAgent

def withHeader (s : Settings) (name value : String) : Settings :=
  { s with headers := s.headers.filter (fun h => h.1 != name) ++ [(name, value)] }

/-- How many times the first delay the delay before a repetition is: twice as many each time, up to the
largest 32-bit number. -/
def backoffFactor (attempt : Nat) : Nat :=
  if attempt - 1 < 32 then Nat.pow 2 (attempt - 1) else 4294967295

/-- The delay before the repetition with a given number, counted from one. -/
def backoffDelay (s : Settings) (attempt : Nat) : Duration :=
  min ((s.retryBackoff.times? (backoffFactor attempt)).getD s.maxBackoff) s.maxBackoff

def debugText (s : Settings) : String :=
  "HttpConfig \x7b base_url: " ++ Text.quoted s.baseUrl ++ ", timeout: " ++ s.timeout.text ++ ", auth: "
    ++ s.auth.debugText ++ ", max_retries: " ++ toString s.maxRetries.toNat ++ " \x7d"

end Settings

/-! ## Headers -/

structure Header where
  name : String
  value : String
  deriving DecidableEq, Repr

namespace Header

def mayRepeat (name : String) : Bool := name.startsWith "x-" || name.startsWith "X-"

def set (headers : List Header) (h : Header) : List Header :=
  if mayRepeat h.name then headers ++ [h] else headers.filter (fun g => g.name != h.name) ++ [h]

def isTokenChar (c : Char) : Bool :=
  c.isAlphanum || "!#$%&'*+-.^_|~".toList.contains c || c.toNat == 0x60

def valid (h : Header) : Bool :=
  !h.name.isEmpty && h.name.toList.all isTokenChar
    && h.value.toList.all fun c => c == '\t' || (0x20 ≤ c.toNat && c.toNat != 0x7f)

end Header

def Auth.header? : Auth → Option Header
  | .none => Option.none
  | .bearer token => some ⟨"Authorization", "Bearer " ++ token⟩
  | .basic user password => some ⟨"Authorization", "Basic " ++ Text.base64 (user ++ ":" ++ password)⟩
  | .apiKey header value => some ⟨header, value⟩

def Settings.chosenHeaders (s : Settings) : List Header :=
  (s.auth.header?.toList ++ s.headers.map (fun h => Header.mk h.1 h.2)
      ++ [Header.mk "Accept" "application/json"]).foldl
    Header.set []

def Settings.requestHeaders (s : Settings) : List Header :=
  let chosen := s.chosenHeaders
  if chosen.any fun h => Text.sameLetters h.name "user-agent" then chosen
  else chosen ++ [⟨"User-Agent", s.userAgent⟩]

end Http
end Telemetry
