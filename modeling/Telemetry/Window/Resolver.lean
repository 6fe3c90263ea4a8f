import Telemetry.Binary64.Basic
import Telemetry.Binary64.Shortest
import Telemetry.Errors
import Telemetry.Settings.Window
import Telemetry.Time.Span
import Telemetry.Time.Timestamp
import Telemetry.Window.Bucket

/-!
# Resolving range queries

A range query has three parameters.  A blank one counts as absent; faults are
reported for the start first, then the end, then the bucket.

A resolver turns the parts that are given into a span and a bucket size.
Without a start, the span reaches back a fixed number of buckets, or of days
where no bucket is given either.  Without a bucket, the size is chosen whose
logarithm is nearest to that of the length which would make the wanted number
of buckets.  A resolution with more buckets than the budget is rejected.
-/
set_option autoImplicit false
namespace Telemetry

structure WindowRequest where
  start : Option Instant
  stop : Option Instant
  bucket : Option Bucket
  deriving DecidableEq, Repr

namespace WindowRequest

/-- A parameter without the blanks around it, unless nothing else is left. -/
def present (value : Option String) : Option String :=
  (value.map Text.trim).filter fun s => !s.isEmpty

def parseInstant (value : Option String) : Except WindowError (Option Instant) :=
  match present value with
  | none => .ok none
  | some raw =>
    match Timestamp.parse? raw with
    | some t => .ok (some t)
    | none => .error (.invalidTimestamp raw)

/-- The bucket named by a text, or an error that quotes the text as given. -/
def namedBucket (s : String) : Except WindowError Bucket :=
  match Bucket.ofRequest? s with
  | some b => .ok b
  | none => .error (.unknownBucket s)

def parseBucket (value : Option String) : Except WindowError (Option Bucket) :=
  match present value with
  | none => .ok none
  | some raw => (namedBucket raw).map some

def parse (start stop bucket : Option String) : Except WindowError WindowRequest := do
  let start ← parseInstant start
  let stop ← parseInstant stop
  let bucket ← parseBucket bucket
  return ⟨start, stop, bucket⟩

end WindowRequest

/-! ## Nearest elements -/

namespace Nearest

variable {α : Type}

/-- The better of a candidate and a later element: the later one only if its metric ranks lower. -/
def better (metric : α → Binary64) (best x : α) : α :=
  if (metric x).rank < (metric best).rank then x else best

def nearestBy (metric : α → Binary64) : List α → Option α
  | [] => none
  | x :: rest => some (rest.foldl (better metric) x)

end Nearest

/-! ## Resolutions -/

structure Resolution where
  span : Span
  bucket : Bucket
  deriving DecidableEq, Repr

namespace Resolution

def bucketCount (r : Resolution) : Nat := r.span.millis.toNat / r.bucket.millis

def demand (r : Resolution) : Binary64 := r.span.seconds / Binary64.ofNat r.bucket.seconds

def ofJson? (j : Json) : Option Resolution := do
  match ← Json.slots? [["span"], ["bucket"]] j with
  | [span, bucket] =>
    let span ← Json.required? Span.ofJson? span
    let bucket ← Json.required? Bucket.ofJson? bucket
    some ⟨span, bucket⟩
  | _ => none

def toJson (r : Resolution) : Json :=
  Json.record [("span", r.span.toJson), ("bucket", r.bucket.toJson)]

end Resolution

/-- The configured sizes, each once, shortest first. -/
def Bucket.table (sizes : List Bucket) : List Bucket := (Bucket.sort sizes).eraseReps

/-- Settings that have been validated, with the table of bucket sizes they name. -/
structure Resolver where
  settings : WindowSettings
  table : List Bucket
  deriving DecidableEq, Repr

namespace Resolver

def standard : Resolver := ⟨.standard, Bucket.all⟩

/-- The resolver of given settings.  A missing bucket size is reported before any other fault. -/
def ofSettings (s : WindowSettings) : Except WindowError Resolver :=
  let table := Bucket.table s.bucketSizes
  if table.isEmpty then .error .emptyBucketTable
  else match s.validate with
    | .error e => .error (.invalidConfig e.message)
    | .ok () => .ok ⟨s, table⟩

def smallest (r : Resolver) : Bucket := r.table.headD .tenSeconds

def logDistance (target : Binary64) (b : Bucket) : Binary64 :=
  ((Binary64.ofNat b.seconds).ln - target).abs

/-- The size of the table nearest on the logarithmic scale to the wanted part of a span; the shortest
one for an empty span, and the shorter of two equally near ones. -/
def deriveBucket (r : Resolver) (span : Span) : Bucket :=
  let seconds := span.seconds
  if seconds ≤ Binary64.zero false then r.smallest
  else
    let target := (seconds / Binary64.ofNat r.settings.windowCount.toNat).ln
    (Nearest.nearestBy (logDistance target) r.table).getD r.smallest

def spanFor (r : Resolver) (start : Option Instant) (stop : Instant) (bucket : Option Bucket) :
    Except WindowError Span :=
  match start, bucket with
  | some start, _ =>
    match Span.between? start stop with
    | some span => .ok span
    | none => .error (.invalidRange start stop)
  | none, some bucket =>
    .ok (Span.endingAt stop (Elapsed.ofSeconds (bucket.seconds * r.settings.windowCount.toNat)))
  | none, none => .ok (Span.endingAt stop (Elapsed.ofSeconds (r.settings.spanDays.toInt * 86400)))

def propose (r : Resolver) (start stop : Option Instant) (bucket : Option Bucket) (now : Instant) :
    Except WindowError Resolution :=
  (r.spanFor start (stop.getD now) bucket).map fun span =>
    ⟨span, bucket.getD (r.deriveBucket span)⟩

def tooFine (r : Resolver) (p : Resolution) : Bool :=
  Binary64.ofNat r.settings.maxBuckets.toNat < p.demand

def resolve (r : Resolver) (start stop : Option Instant) (bucket : Option Bucket) (now : Instant) :
    Except WindowError Resolution :=
  match r.propose start stop bucket now with
  | .error e => .error e
  | .ok p =>
    if r.tooFine p then
      .error (.resolutionTooFine (p.demand.ceilNat 18446744073709551615) r.settings.maxBuckets.toNat)
    else .ok p

def resolveLog (r : Resolver) (start stop : Option Instant) (bucket : Option Bucket)
    (now : Instant) : List Log.Line :=
  match r.propose start stop bucket now with
  | .error _ => []
  | .ok p =>
    if r.tooFine p then
      [⟨.trace, "rejecting " ++ p.bucket.token ++ " over " ++ p.span.seconds.text ++ " s: "
        ++ p.demand.wholeText ++ " buckets exceed " ++ toString r.settings.maxBuckets.toNat⟩]
    else []

def resolveRequest (r : Resolver) (q : WindowRequest) (now : Instant) :
    Except WindowError Resolution :=
  r.resolve q.start q.stop q.bucket now

end Resolver

end Telemetry
