import Telemetry.Text.Basic
import Telemetry.Json.Reader
import Telemetry.Json.Printer
import Telemetry.Time.Duration

/-!
# Bucket sizes

The lengths of time over which samples are aggregated, from ten seconds to a
week, each with its token.
-/
set_option autoImplicit false
namespace Telemetry

inductive Bucket where
  | tenSeconds
  | oneMinute
  | tenMinutes
  | oneHour
  | oneDay
  | oneWeek
  deriving DecidableEq, Repr, Ord

namespace Bucket

def all : List Bucket := [tenSeconds, oneMinute, tenMinutes, oneHour, oneDay, oneWeek]

def insert (b : Bucket) : List Bucket → List Bucket
  | [] => [b]
  | c :: rest => if (compare b c).isLE then b :: c :: rest else c :: insert b rest

def sort : List Bucket → List Bucket
  | [] => []
  | b :: rest => insert b (sort rest)

def seconds : Bucket → Nat
  | tenSeconds => 10
  | oneMinute => secondsPerMinute
  | tenMinutes => 10 * secondsPerMinute
  | oneHour => secondsPerHour
  | oneDay => secondsPerDay
  | oneWeek => secondsPerWeek

def millis (b : Bucket) : Nat := b.seconds * millisPerSecond

def token : Bucket → String
  | tenSeconds => "10s"
  | oneMinute => "1min"
  | tenMinutes => "10min"
  | oneHour => "1h"
  | oneDay => "1d"
  | oneWeek => "1w"

/-- The size named in a request: blanks around the token and the case of its letters do not count. -/
def ofRequest? (s : String) : Option Bucket :=
  all.find? fun b => Text.sameLetters b.token (Text.trim s)

def ofToken? (s : String) : Option Bucket := all.find? fun b => b.token == s

def ofJson? : Json → Option Bucket := Json.choice? ofToken?

def toJson (b : Bucket) : Json := Json.text b.token

end Bucket
end Telemetry
