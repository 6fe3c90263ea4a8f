import Telemetry.Errors
import Telemetry.Window.Bucket

/-!
# Window settings

How many buckets a range query may and should have, how far back it looks by
itself, and among which bucket sizes it chooses.
-/
set_option autoImplicit false
namespace Telemetry

structure WindowSettings where
  /-- Buckets that a derived resolution aims for. -/
  windowCount : UInt32
  /-- Most buckets in any resolution. -/
  maxBuckets : UInt64
  /-- Days that a query without start and bucket looks back. -/
  spanDays : Int64
  bucketSizes : List Bucket
  deriving DecidableEq, Repr

namespace WindowSettings

/-- The longest accepted look back, a century of 365-day years. -/
def maxSpanDays : Int64 := 36500

def standard : WindowSettings := ⟨100, 1000, 365, Bucket.all⟩

def validate (s : WindowSettings) : Except SettingsError Unit :=
  if s.maxBuckets = 0 then .error (.invalid "max_buckets must be positive")
  else if s.windowCount = 0 ∨ s.maxBuckets.toNat < s.windowCount.toNat then
    .error (.invalid ("default_window_count must be between 1 and max_buckets ("
      ++ toString s.maxBuckets.toNat ++ ")"))
  else if s.spanDays < 1 ∨ maxSpanDays < s.spanDays then
    .error (.invalid ("default_span_days must be between 1 and " ++ toString maxSpanDays.toInt))
  else if s.bucketSizes.isEmpty then .error (.invalid "bucket_sizes must not be empty")
  else .ok ()

def fields : List (List String) :=
  [["default_window_count"], ["max_buckets"], ["default_span_days"], ["bucket_sizes"]]

def ofJson? (j : Json) : Option WindowSettings := do
  match ← Json.slots? fields j with
  | [count, max, days, sizes] =>
    let windowCount ← Json.withDefault? standard.windowCount
      (fun j => (Json.integer? 0 4294967295 j).map fun i => UInt32.ofNat i.toNat) count
    let maxBuckets ← Json.withDefault? standard.maxBuckets
      (fun j => (Json.integer? 0 18446744073709551615 j).map fun i => UInt64.ofNat i.toNat) max
    let spanDays ← Json.withDefault? standard.spanDays
      (fun j => (Json.integer? (-9223372036854775808) 9223372036854775807 j).map Int64.ofInt) days
    let bucketSizes ← Json.withDefault? standard.bucketSizes (Json.list? Bucket.ofJson?) sizes
    some ⟨windowCount, maxBuckets, spanDays, bucketSizes⟩
  | _ => none

def toJson (s : WindowSettings) : Json :=
  Json.record [
    ("default_window_count", Json.int s.windowCount.toNat),
    ("max_buckets", Json.int s.maxBuckets.toNat),
    ("default_span_days", Json.int s.spanDays.toInt),
    ("bucket_sizes", .array (s.bucketSizes.map Bucket.toJson))]

end WindowSettings
end Telemetry
