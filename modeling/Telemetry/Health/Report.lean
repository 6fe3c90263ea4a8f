import Telemetry.Health.Basic
import Telemetry.Time.Span

/-!
# Completeness reports

A channel's completeness is the part of the expected samples that arrived in a
window; a source's is the mean of its channels'.  Counts are given, or pulled
from storage one channel after the other until a pull fails.
-/
set_option autoImplicit false
namespace Telemetry

structure ChannelReport where
  channelId : String
  received : Int
  expected : Binary64
  completeness : Binary64
  state : HealthState
  loss : Binary64
  deriving DecidableEq, Repr

structure SourceReport where
  sourceId : String
  sourceKind : String
  window : Span
  state : HealthState
  totalReceived : Int
  averageLoss : Binary64
  channels : List ChannelReport
  deriving DecidableEq, Repr

/-- Samples received per channel id.  The entry put last counts. -/
structure Counts where
  entries : List (String × Int)
  deriving DecidableEq, Repr

namespace Counts

def empty : Counts := ⟨[]⟩

def put (c : Counts) (id : String) (n : Int) : Counts := ⟨(id, n) :: c.entries⟩

def get (c : Counts) (id : String) : Int := (c.entries.lookup id).getD 0

end Counts

namespace Completeness

/-- The part of the samples that did not arrive, between zero and one; one if unknown. -/
def lossOf (completeness : Binary64) : Binary64 :=
  if completeness.isNaN then Binary64.ofNat 1
  else
    let loss := Binary64.ofNat 1 - completeness
    if loss < Binary64.zero false then Binary64.zero false
    else if Binary64.ofNat 1 < loss then Binary64.ofNat 1
    else loss

/-- Received over expected samples; zero unless the expected number is positive and finite. -/
def ratio (received : Int) (expected : Binary64) : Binary64 :=
  if Binary64.zero false < expected ∧ expected.isFinite then Binary64.ofInt received / expected
  else Binary64.zero false

def channelReport (window : Span) (received : Int) (c : Channel) : ChannelReport :=
  let expected := c.expected window
  let completeness := ratio received expected
  { channelId := c.id
    received := received
    expected := expected
    completeness := completeness
    state := HealthState.classify completeness
    loss := lossOf completeness }

/-- Sum in order, from the zero that adds nothing to any number. -/
def sum (xs : List Binary64) : Binary64 := xs.foldl (· + ·) (Binary64.zero true)

def mean (xs : List Binary64) : Binary64 :=
  if xs.isEmpty then Binary64.zero false else sum xs / Binary64.ofNat xs.length

def evaluate (sourceId : String) (spec : SourceSpec) (window : Span) (counts : Counts) :
    SourceReport :=
  let channels := spec.channels.map fun c => channelReport window (counts.get c.id) c
  let completeness := mean (channels.map ChannelReport.completeness)
  { sourceId := sourceId
    sourceKind := spec.kind
    window := window
    state := HealthState.classify completeness
    totalReceived := (channels.map ChannelReport.received).foldr (· + ·) 0
    averageLoss := lossOf completeness
    channels := channels }

structure Query where
  sourceId : String
  channelId : String
  window : Span
  deriving DecidableEq, Repr

/-- What was asked, and the counts or the first failure. -/
structure Pulled (ε : Type) where
  queries : List Query
  outcome : Except ε Counts

def pull {ε : Type} (storage : Query → Except ε Int) (sourceId : String) (window : Span) :
    List Channel → Counts → Pulled ε
  | [], counts => ⟨[], .ok counts⟩
  | c :: rest, counts =>
    let query : Query := ⟨sourceId, c.id, window⟩
    match storage query with
    | .error e => ⟨[query], .error e⟩
    | .ok n =>
      let pulled := pull storage sourceId window rest (counts.put c.id n)
      ⟨query :: pulled.queries, pulled.outcome⟩

def evaluateFrom {ε : Type} (storage : Query → Except ε Int) (sourceId : String)
    (spec : SourceSpec) (window : Span) : List Query × Except ε SourceReport :=
  let pulled := pull storage sourceId window spec.channels Counts.empty
  (pulled.queries, pulled.outcome.map (evaluate sourceId spec window))

end Completeness

namespace ChannelReport

def integer64? : Json → Option Int := Json.integer? (-9223372036854775808) 9223372036854775807

def ofJson? (j : Json) : Option ChannelReport := do
  match ← Json.slots?
      [["channel_id"], ["received"], ["expected"], ["percentage"], ["state"], ["loss"]] j with
  | [id, received, expected, completeness, state, loss] =>
    let channelId ← Json.required? Json.string? id
    let received ← Json.required? integer64? received
    let expected ← Json.required? Json.number? expected
    let completeness ← Json.required? Json.number? completeness
    let state ← Json.required? HealthState.ofJson? state
    let loss ← Json.required? Json.number? loss
    some ⟨channelId, received, expected, completeness, state, loss⟩
  | _ => none

end ChannelReport

namespace SourceReport

def channel? (r : SourceReport) (id : String) : Option ChannelReport :=
  r.channels.find? fun c => c.channelId == id

def ofJson? (j : Json) : Option SourceReport := do
  match ← Json.slots? [["source_id"], ["source_kind"], ["window"], ["state"], ["total_received"],
      ["average_loss"], ["channels"]] j with
  | [id, kind, window, state, total, loss, channels] =>
    let sourceId ← Json.required? Json.string? id
    let sourceKind ← Json.required? Json.string? kind
    let window ← Json.required? Span.ofJson? window
    let state ← Json.required? HealthState.ofJson? state
    let totalReceived ← Json.required? ChannelReport.integer64? total
    let averageLoss ← Json.required? Json.number? loss
    let channels ← Json.required? (Json.list? ChannelReport.ofJson?) channels
    some ⟨sourceId, sourceKind, window, state, totalReceived, averageLoss, channels⟩
  | _ => none

end SourceReport
end Telemetry
