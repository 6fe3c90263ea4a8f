import Telemetry.Catalog.Document
import Telemetry.Http.Settings
import Telemetry.Http.Target
import Telemetry.Errors
import Telemetry.Text.Basic

/-!
# Catalogs behind HTTP

A fetch sends one request for the whole catalog and repeats it, with growing
delays, while it fails in a way that may pass and repetitions are left.  What
the registry replies is given as a list; past its end nothing is replied.
-/
set_option autoImplicit false
namespace Telemetry.Http

inductive Reply where
  | answered (status : Nat) (body : List UInt8)
  /-- A status and a body that breaks off. -/
  | cut (status : Nat)
  /-- The connection was closed without an answer. -/
  | dropped
  deriving DecidableEq, Repr

structure Source where
  settings : Settings
  url : String
  deriving DecidableEq, Repr

/-- Counters of 64 bits, which wrap around. -/
structure FetchStats where
  requests : UInt64
  retries : UInt64
  failures : UInt64
  bytesReceived : UInt64
  deriving DecidableEq, Repr

def FetchStats.none : FetchStats := ⟨0, 0, 0, 0⟩

/-- How a fetch ended, and what it did: the delays it waited, the lines it reported, how many requests
went out, the statistics after it and the replies it left. -/
structure Fetched (α : Type) where
  result : Except ConnectorError (List α)
  delays : List Duration
  lines : List Log.Line
  sent : Nat
  stats : FetchStats
  script : List Reply

namespace Source

def ofSettings (s : Settings) (path : String) : Except ConnectorError Source :=
  if !s.baseUrl.startsWith "http://" && !s.baseUrl.startsWith "https://" then
    .error (.config "Base URL must start with http:// or https://")
  else if s.timeout.isZero then .error (.config "timeout must be positive")
  else
    let base := (s.baseUrl.toList.reverse.dropWhile (· == '/')).reverse
    .ok ⟨s, String.ofList base ++ path⟩

def label (s : Source) : String := s.url

def debugText (s : Source) : String :=
  "HttpCatalogSource \x7b url: " ++ Text.quoted s.url ++ ", config: " ++ s.settings.debugText ++ " \x7d"

def bodiless (status : Nat) : Bool := status == 204 || status == 304

/-- The longest body that is read, ten mebibytes. -/
def bodyLimit : Nat := 10485760

def bodyText? (status : Nat) (body : List UInt8) : Option String :=
  if bodiless status then some ""
  else if bodyLimit < body.length then none
  else some (Text.decodeUtf8Lenient body)

def read? : Reply → Option (Nat × Option String)
  | .answered status body => some (status, bodyText? status body)
  | .cut status => some (status, if bodiless status then some "" else none)
  | .dropped => none

/-- Bytes of text that a reply delivers; a reply that reports an error delivers none. -/
def received (reply : Reply) : Nat :=
  match read? reply with
  | some (status, some text) => if status < 400 then text.utf8ByteSize else 0
  | _ => 0

/-- What a reply means for the catalog.  Where the body that goes with an error cannot be read, none is
reported. -/
def outcome {α : Type} (s : Source) (record? : Json → Option α) (reply : Reply) :
    Except ConnectorError (List α) :=
  match read? reply with
  | some (status, text) =>
    if status < 400 then
      match text with
      | some text => Catalog.decode record? s.url text
      | none => .error (.request Catalog.unworded)
    else .error (.server status (text.getD ""))
  | none => .error (.request Catalog.unworded)

def target? (s : Source) (authority : String) : Option String := Target.of? authority s.url

/-- Requests reach an authority only if the catalog is there, their headers are valid, and a clock of
64-bit signed seconds can read the end of their timeout. -/
def reaches (s : Source) (authority : String) : Bool :=
  (s.target? authority).isSome && s.settings.requestHeaders.all Header.valid
    && s.settings.timeout.nanos / nanosPerSecond < 9223372036854775808

/-- The next reply and the replies after it.  Where requests do not arrive, none is used up. -/
def nextReply (arrives : Bool) (script : List Reply) : Reply × List Reply :=
  if arrives then
    match script with
    | [] => (.dropped, [])
    | reply :: rest => (reply, rest)
  else (.dropped, script)

def retryLine (s : Source) (e : ConnectorError) (attempt : Nat) : Log.Line :=
  ⟨.debug, s.url ++ " failed (" ++ e.message ++ "), retry " ++ toString attempt ++ "/"
    ++ toString s.settings.maxRetries.toNat ++ " in " ++ (s.settings.backoffDelay attempt).text⟩

/-- A fetch that has made `attempt` repetitions and may make `left` more. -/
def fetchFrom {α : Type} (s : Source) (record? : Json → Option α) (arrives : Bool) (attempt : Nat) :
    Nat → FetchStats → List Reply → Fetched α
  | left, stats, script =>
    let (reply, rest) := nextReply arrives script
    let sent := if arrives then 1 else 0
    let stats := { stats with
      requests := stats.requests + 1, bytesReceived := stats.bytesReceived + UInt64.ofNat (received reply) }
    match s.outcome record? reply with
    | .ok records => ⟨.ok records, [], [], sent, stats, rest⟩
    | .error e =>
      match left with
      | 0 => ⟨.error e, [], [], sent, { stats with failures := stats.failures + 1 }, rest⟩
      | left + 1 =>
        if e.isTransient then
          let stats := { stats with retries := stats.retries + 1 }
          let more := fetchFrom s record? arrives (attempt + 1) left stats rest
          { more with
            delays := s.settings.backoffDelay (attempt + 1) :: more.delays
            lines := s.retryLine e (attempt + 1) :: more.lines
            sent := sent + more.sent }
        else ⟨.error e, [], [], sent, { stats with failures := stats.failures + 1 }, rest⟩

def fetch {α : Type} (s : Source) (record? : Json → Option α) (authority : String)
    (stats : FetchStats) (script : List Reply) : Fetched α :=
  s.fetchFrom record? (s.reaches authority) 0 s.settings.maxRetries.toNat stats script

end Source
end Telemetry.Http
