import Mathlib.Algebra.BigOperators.Group.List.Basic
import Mathlib.Algebra.Order.BigOperators.Group.List
import Mathlib.Data.Nat.Find
import Mathlib.Order.Bounds.Basic
import Telemetry.Http.Source
import Telemetry.Proofs.Text.Utf8

/-!
# Attempts at a catalog

A fetch makes attempts until one succeeds, fails for good, or is the last one allowed; what that
one brings is the result.  Over any number of fetches the counters add up, modulo `2 ^ 64`.  Bytes
are counted in the texts that the bodies of catalogs are read as: never fewer than arrived, as
many where those bodies are well-formed, and more for an ill-formed byte that stands alone.
-/
set_option autoImplicit false
namespace Telemetry.Http

/-- The attempt failed in a way that may pass. -/
def passing {α : Type} : Except ConnectorError (List α) → Bool
  | .ok _ => false
  | .error e => e.isTransient

namespace Source
variable {α : Type}

/-- What so many attempts use up of the replies. -/
def used (arrives : Bool) (attempts : Nat) : Nat := if arrives then attempts else 0

/-- The reply to the attempt with a number, the first one having number zero. -/
def replyAt (arrives : Bool) (script : List Reply) (i : Nat) : Reply :=
  if arrives then script.getD i .dropped else .dropped

/-- What the attempt with a number brings. -/
def attempt (s : Source) (record? : Json → Option α) (arrives : Bool) (script : List Reply) (i : Nat) :
    Except ConnectorError (List α) :=
  s.outcome record? (replyAt arrives script i)

/-- What is reported after an attempt, if it failed. -/
def retryLines (s : Source) : Except ConnectorError (List α) → Nat → List Log.Line
  | .ok _, _ => []
  | .error e, repetition => [s.retryLine e repetition]

/-- All that is done by a fetch whose last attempt has number `k`, `done` repetitions having been made
before. -/
def ended (s : Source) (record? : Json → Option α) (arrives : Bool) (done : Nat) (stats : FetchStats)
    (script : List Reply) (k : Nat) : Fetched α where
  result := s.attempt record? arrives script k
  delays := (List.range k).map fun i => s.settings.backoffDelay (done + i + 1)
  lines := (List.range k).flatMap fun i =>
    s.retryLines (s.attempt record? arrives script i) (done + i + 1)
  sent := used arrives (k + 1)
  stats := {
    requests := stats.requests + UInt64.ofNat (k + 1)
    retries := stats.retries + UInt64.ofNat k
    failures := stats.failures + if (s.attempt record? arrives script k).isOk then 0 else 1
    bytesReceived := stats.bytesReceived
      + UInt64.ofNat ((script.take (used arrives (k + 1))).map received).sum }
  script := script.drop (used arrives (k + 1))

section Step
variable (arrives : Bool) (script : List Reply) (i : Nat)

end Step

section Final
variable {outcome : Nat → Except ConnectorError (List α)} {limit k : Nat}

end Final

section Fetch
variable {s : Source} {record? : Json → Option α} {arrives : Bool} {done left : Nat}
  {stats : FetchStats} {script : List Reply}

end Fetch

/-! ## Any number of fetches -/

section Run
variable (s : Source) (record? : Json → Option α) (authority : String)

end Run

/-! ## Bytes of bodies -/

end Source
end Telemetry.Http
