/-!
# Durations and clocks

`Duration` is an unsigned length of time in whole nanoseconds, below `2 ^ 64`
seconds.  `Elapsed` is a signed length, the kind that separates two instants.
`Duration.text` writes a duration in its largest fitting unit.

Clocks read milliseconds in 64 bits.  A clock driven by hand is its own
reading; handles to it share that reading.
-/
set_option autoImplicit false
namespace Telemetry

abbrev millisPerSecond : Nat := 1000
abbrev secondsPerMinute : Nat := 60
abbrev secondsPerHour : Nat := 3600
abbrev secondsPerDay : Nat := 86400
abbrev secondsPerWeek : Nat := 604800

abbrev daysPerYear : Nat := 365

def nanosPerMilli : Nat := 1000000

def nanosPerSecond : Nat := 1000000000

structure Duration where
  nanos : Nat
  nanos_lt : nanos < 18446744073709551616 * 1000000000
  deriving DecidableEq, Repr

namespace Duration

def zero : Duration := ⟨0, by decide⟩

def longest : Duration := ⟨18446744073709551616 * 1000000000 - 1, by decide⟩

def ofNanos (n : Nat) : Duration :=
  if h : n < 18446744073709551616 * 1000000000 then ⟨n, h⟩ else longest

def ofMillis (ms : UInt64) : Duration :=
  ⟨ms.toNat * 1000000, by have := ms.toNat_lt; omega⟩

def ofSeconds (s : UInt64) : Duration :=
  ⟨s.toNat * 1000000000, by have := s.toNat_lt; omega⟩

def millis (d : Duration) : Nat := d.nanos / nanosPerMilli

/-- Whole milliseconds modulo `2 ^ 64`, the form in which durations are saved. -/
def savedMillis (d : Duration) : UInt64 := UInt64.ofNat d.millis

def isZero (d : Duration) : Bool := d.nanos == 0

def times? (d : Duration) (k : Nat) : Option Duration :=
  if h : d.nanos * k < 18446744073709551616 * 1000000000 then some ⟨d.nanos * k, h⟩ else none

instance : LE Duration := ⟨fun a b => a.nanos ≤ b.nanos⟩
instance : LT Duration := ⟨fun a b => a.nanos < b.nanos⟩
instance (a b : Duration) : Decidable (a ≤ b) := inferInstanceAs (Decidable (a.nanos ≤ b.nanos))
instance (a b : Duration) : Decidable (a < b) := inferInstanceAs (Decidable (a.nanos < b.nanos))
instance : Min Duration := ⟨fun a b => if a ≤ b then a else b⟩

/-- `fraction` of a unit of `10 ^ places` parts, without zeros at the end. -/
def fractionText (fraction places : Nat) : String :=
  let ds := Nat.toDigits 10 fraction
  let padded := List.replicate (places - ds.length) '0' ++ ds
  let kept := (padded.reverse.dropWhile (· == '0')).reverse
  if fraction = 0 then "" else String.ofList ('.' :: kept)

def text (d : Duration) : String :=
  let n := d.nanos
  if 1000000000 ≤ n then toString (n / 1000000000) ++ fractionText (n % 1000000000) 9 ++ "s"
  else if 1000000 ≤ n then toString (n / 1000000) ++ fractionText (n % 1000000) 6 ++ "ms"
  else if 1000 ≤ n then toString (n / 1000) ++ fractionText (n % 1000) 3 ++ "µs"
  else toString n ++ "ns"

theorem savedMillis_ofMillis (ms : UInt64) : (ofMillis ms).savedMillis = ms := by
  simp [savedMillis, ofMillis, millis, nanosPerMilli]

end Duration

structure Elapsed where
  nanos : Int
  deriving DecidableEq, Repr

namespace Elapsed

def zero : Elapsed := ⟨0⟩

/-- The longest signed length, `2 ^ 63 - 1` milliseconds. -/
def longest : Elapsed := ⟨9223372036854775807 * 1000000⟩

def ofMillis (ms : Int) : Elapsed := ⟨ms * 1000000⟩

/-- A length of `s` seconds, or the longest one where that is too long. -/
def ofSeconds (s : Int) : Elapsed := ⟨min (s * 1000000000) longest.nanos⟩

/-- Whole milliseconds, nearer to zero. -/
def millis (e : Elapsed) : Int := e.nanos.tdiv 1000000

def wholeSeconds (e : Elapsed) : Int := e.nanos.tdiv 1000000000

/-- The nanoseconds beyond the whole seconds, of the same sign. -/
def restNanos (e : Elapsed) : Int := e.nanos.tmod 1000000000

def ofDuration (d : Duration) : Elapsed := ⟨min d.nanos longest.nanos⟩

end Elapsed

/-! ## Clocks -/

inductive ClockKind where
  | manual
  | monotonic
  | wall
  deriving DecidableEq, Repr

/-- A wall clock can be set back, so ages taken by it can shift. -/
def ClockKind.isWall : ClockKind → Bool
  | .wall => true
  | _ => false

inductive ClockStep where
  | set (reading : UInt64)
  | advance (ms : UInt64)
  deriving DecidableEq, Repr

def ClockStep.apply (reading : UInt64) : ClockStep → UInt64
  | .set r => r
  | .advance ms => reading + ms

def ClockStep.readings (start : UInt64) : List ClockStep → List UInt64
  | [] => []
  | s :: rest => s.apply start :: readings (s.apply start) rest

end Telemetry
