import Telemetry.Errors
import Telemetry.Settings.Cache
import Telemetry.Time.Duration

/-!
# Snapshots of a catalog and calls to its cache

A snapshot is what one load delivered, arranged by key, with the time at which
it was put together.  It never changes; the cache swaps whole snapshots.  Calls
say what can be asked of a cache, when that needs a reload, and what comes back.
-/
set_option autoImplicit false
namespace Telemetry.Cache

def insert {κ ν : Type} [DecidableEq κ] (entries : List (κ × ν)) (key : κ) (value : ν) :
    List (κ × ν) :=
  entries.filter (fun e => e.1 ≠ key) ++ [(key, value)]

def indexOnto {κ ν : Type} [DecidableEq κ] (keyOf : ν → Option κ) :
    List (κ × ν) → List ν → Option (List (κ × ν))
  | entries, [] => some entries
  | entries, value :: rest =>
    match keyOf value with
    | some key => indexOnto keyOf (insert entries key value) rest
    | none => none

/-- Records by key.  Of records with the same key the last one counts. -/
def index {κ ν : Type} [DecidableEq κ] (keyOf : ν → Option κ) (records : List ν) :
    Option (List (κ × ν)) :=
  indexOnto keyOf [] records

structure Snapshot (κ ν : Type) where
  entries : List (κ × ν)
  /-- The clock's reading when the records had been arranged. -/
  fetchedAt : Nat
  /-- The number of the load that delivered the records. -/
  load : Nat
  deriving DecidableEq, Repr

namespace Snapshot

variable {κ ν : Type}

def lookup [DecidableEq κ] (s : Snapshot κ ν) (key : κ) : Option ν := s.entries.lookup key

/-- Milliseconds since the snapshot was fetched; none if the clock was set back since. -/
def age (s : Snapshot κ ν) (now : Nat) : Nat := now - s.fetchedAt

def isOlder (s : Snapshot κ ν) (now : Nat) (limit : Duration) : Bool := limit.millis ≤ s.age now

end Snapshot

/-! ## Calls -/

inductive Request (κ : Type) where
  | all
  | get (key : κ)
  | refresh
  deriving DecidableEq, Repr

inductive Need (κ : Type) where
  | always
  | stale
  /-- The snapshot is not new any more and lacks a key. -/
  | missing (key : κ)
  | empty
  deriving DecidableEq, Repr

def Request.need {κ : Type} : Request κ → Bool → Need κ
  | .all, _ => .stale
  | .get key, true => .missing key
  | .get _, false => .empty
  | .refresh, _ => .always

namespace Need

variable {κ ν : Type} [DecidableEq κ]

/-- The age from which a snapshot must be reloaded, or nothing if it serves at any age. -/
def limit? (settings : CacheSettings) (s : Snapshot κ ν) : Need κ → Option Duration
  | always => some Duration.zero
  | stale => some settings.invalidateAfter
  | missing key => if (s.lookup key).isSome then none else some settings.retryAfter
  | empty => none

def holds (settings : CacheSettings) (s : Snapshot κ ν) (now : Nat) (need : Need κ) : Bool :=
  match need.limit? settings s with
  | some limit => s.isOlder now limit
  | none => false

end Need

/-- By which way a snapshot came to be served. -/
inductive Route where
  | hit
  /-- It was the current one and too new to be reloaded for the key that it lacks. -/
  | lacking
  | reloaded
  /-- It was the current one while another call was reloading. -/
  | inFlight
  /-- It was the current one when the call's own reload failed. -/
  | fallback
  deriving DecidableEq, Repr

inductive Return (κ ν : Type) where
  | served (route : Route) (snapshot : Snapshot κ ν)
  | failed (error : CacheError)
  | crashed
  deriving DecidableEq, Repr

/-- The key that a request looks up in vain in what is served. -/
def Request.unmet? {κ ν : Type} [DecidableEq κ] : Request κ → Return κ ν → Option κ
  | .get key, .served _ s => if (s.lookup key).isSome then none else some key
  | _, _ => none

inductive Answer (κ ν : Type) where
  | entries (entries : List (κ × ν))
  | value (value : ν)
  | error (error : CacheError)
  | crashed
  deriving DecidableEq, Repr

def Request.answer {κ ν : Type} [DecidableEq κ] (keyText : κ → String) :
    Request κ → Return κ ν → Answer κ ν
  | _, .failed e => .error e
  | _, .crashed => .crashed
  | .get key, .served _ s =>
    match s.lookup key with
    | some value => .value value
    | none => .error (.notFound (keyText key))
  | _, .served _ s => .entries s.entries

end Telemetry.Cache
