import Telemetry.Binary64.Basic
import Telemetry.Json.Printer
import Telemetry.Json.Reader
import Telemetry.Time.Instant
import Telemetry.Time.Timestamp

/-!
# Time spans

A half-open interval of instants.  Spans are built from two instants in order,
as the stretch of a given length before an end, or as such a stretch before the
last boundary of a grid.  In documents a span is two timestamps, which need not
be in order.
-/
set_option autoImplicit false
namespace Telemetry

/-- The instants from `start` on and before `stop`. -/
structure Span where
  start : Instant
  stop : Instant
  deriving DecidableEq, Repr

namespace Span

def between? (start stop : Instant) : Option Span :=
  if stop < start then none else some ⟨start, stop⟩

/-- The span of a length before an end.  A negative length counts as zero, and a start before the
earliest instant is the earliest instant. -/
def endingAt (stop : Instant) (length : Elapsed) : Span :=
  ⟨(stop.minus? ⟨max length.nanos 0⟩).getD Instant.earliest, stop⟩

/-- The last multiple of `grid` milliseconds that is not after `now`, or `now` if there is none or
`grid` is not positive. -/
def gridBoundary (now : Instant) (grid : Int) : Instant :=
  if 0 < grid then (Instant.ofEpochMillis? (now.epochMillis / grid * grid)).getD now else now

def trailing (now : Instant) (length grid : Elapsed) : Span :=
  endingAt (gridBoundary now grid.millis) length

def length (s : Span) : Elapsed := s.stop.since s.start

def millis (s : Span) : Int := s.length.millis

def seconds (s : Span) : Binary64 := Binary64.ofInt s.millis / Binary64.ofNat 1000

def contains (s : Span) (t : Instant) : Bool := s.start ≤ t && t < s.stop

/-! ## Documents -/

def instant? (j : Json) : Option Instant := (Json.string? j).bind Timestamp.parseLenient?

def ofJson? (j : Json) : Option Span := do
  match ← Json.slots? [["start"], ["end"]] j with
  | [start, stop] =>
    let start ← Json.required? instant? start
    let stop ← Json.required? instant? stop
    some ⟨start, stop⟩
  | _ => none

def toJson (s : Span) : Json :=
  Json.record [("start", Json.text s.start.text), ("end", Json.text s.stop.text)]

end Span

end Telemetry
