import Telemetry.Binary64.Basic
import Telemetry.Json.Reader
import Telemetry.Time.Span

/-!
# Channels and health states

A source has channels, each with the frequency at which samples should arrive.
How complete the samples of a channel or a source are is told as one of five
states.
-/
set_option autoImplicit false
namespace Telemetry

structure Channel where
  id : String
  frequency : Binary64
  unit : String
  deriving DecidableEq, Repr

namespace Channel

def expected (c : Channel) (window : Span) : Binary64 := c.frequency * window.seconds

def ofJson? (j : Json) : Option Channel := do
  match ← Json.slots? [["id"], ["frequency_hz"], ["unit"]] j with
  | [id, frequency, unit] =>
    let id ← Json.required? Json.string? id
    let frequency ← Json.required? Json.number? frequency
    let unit ← Json.required? Json.string? unit
    some ⟨id, frequency, unit⟩
  | _ => none

end Channel

structure SourceSpec where
  kind : String
  channels : List Channel
  deriving DecidableEq, Repr

namespace SourceSpec

def channel? (s : SourceSpec) (id : String) : Option Channel := s.channels.find? fun c => c.id == id

def ofJson? (j : Json) : Option SourceSpec := do
  match ← Json.slots? [["kind"], ["channels"]] j with
  | [kind, channels] =>
    let kind ← Json.required? Json.string? kind
    let channels ← Json.required? (Json.list? Channel.ofJson?) channels
    some ⟨kind, channels⟩
  | _ => none

end SourceSpec

inductive HealthState where
  | fine
  | ok
  | warning
  | disconnected
  | unknown
  deriving DecidableEq, Repr

namespace HealthState

def all : List HealthState := [fine, ok, warning, disconnected, unknown]

def name : HealthState → String
  | fine => "FINE"
  | ok => "OK"
  | warning => "WARNING"
  | disconnected => "DISCONNECTED"
  | unknown => "UNKNOWN"

/-- Place in the order from worst to best. -/
def grade : HealthState → Nat
  | unknown => 0
  | disconnected => 1
  | warning => 2
  | ok => 3
  | fine => 4

def fineAbove : Binary64 := Binary64.ofNat 95 / Binary64.ofNat 100

def okAbove : Binary64 := Binary64.ofNat 80 / Binary64.ofNat 100

def disconnectedAt : Binary64 := Binary64.zero false

def classify (completeness : Binary64) : HealthState :=
  if completeness.isNaN || completeness.lt disconnectedAt then unknown
  else if fineAbove < completeness then fine
  else if okAbove < completeness then ok
  else if disconnectedAt < completeness then warning
  else disconnected

def isHealthy : HealthState → Bool
  | fine | ok => true
  | _ => false

def ofName? (s : String) : Option HealthState := all.find? fun h => h.name == s

def ofJson? : Json → Option HealthState := Json.choice? ofName?

end HealthState
end Telemetry
