import Telemetry.Proofs.Cache.Moves

/-!
# Counters

A counter that grows with each move by what the moving call gains is the sum of
what all calls have gained.  So the snapshots counted as served stale are those
of calls that were served from a snapshot while or after another reload failed
to replace it.
-/
set_option autoImplicit false
namespace Telemetry.Cache

variable {κ ν : Type}

/-- What is served was not looked at for its age. -/
def Return.isStale : Return κ ν → Bool
  | .served .inFlight _ | .served .fallback _ => true
  | _ => false

def Phase.isStale : Phase κ ν → Bool
  | .leaving r | .returned r => r.isStale
  | _ => false

section Tally
variable [DecidableEq κ] {k : Cache κ ν} {now c : Nat} {request : Request κ} {e : Event κ ν}
  {p p' : Phase κ ν} {sh sh' : Shared κ ν} {count : Stats → Stats} {m after : State κ ν}

/-- Every move counts what the call gains by it. -/
def Tallies (k : Cache κ ν) (counter : Stats → Nat) (gain : Call κ ν → Nat) : Prop :=
  ∀ (now c : Nat) (request : Request κ) (e : Event κ ν) (p p' : Phase κ ν) (sh sh' : Shared κ ν)
    (count : Stats → Stats), Move k now c request e p sh p' sh' count → ∀ stats,
    counter (count stats) + gain ⟨request, p⟩ = counter stats + gain ⟨request, p'⟩

theorem tally_run {counter : Stats → Nat} {gain : Call κ ν → Nat}
    (tallies : Tallies k counter gain) (none : counter Stats.none = 0)
    (fresh : ∀ request, gain ⟨request, .start⟩ = 0) (start : Nat) (events : List (Event κ ν)) :
    counter (k.run (State.empty start) events).stats =
      total gain (k.run (State.empty start) events).calls := by
  refine run_keeps (k := k) (P := fun m => counter m.stats = total gain m.calls) ?_ ?_ events
  · intro m e after counted step
    cases step with
    | call request =>
        rw [total_append, ← counted]
        simp [total, fresh]
    | clock reading => exact counted
    | finish how lines running => exact counted
    | @move e c request p p' count after found move calls now stats =>
        have moved := tallies _ _ _ _ _ _ _ _ _ move m.stats
        have replaced := total_set ⟨request, p'⟩ gain found
        rw [calls, stats]
        omega
  · exact none

theorem countMissed_staleServed (request : Request κ) (r : Return κ ν) (s : Stats) :
    (countMissed request r s).staleServed = s.staleServed := by
  unfold countMissed
  split <;> rfl

theorem Look.staleServed (look : Look k now request sh p p' count) (stats : Stats) :
    (count stats).staleServed + p.isStale.toNat = stats.staleServed + p'.isStale.toNat := by
  cases look <;> simp [Phase.isStale, Return.isStale, countMissed_staleServed, countHit, countStale]

omit [DecidableEq κ] in
theorem countFallen_staleServed (previous : Option (Snapshot κ ν)) (e : CacheError)
    (stats : Stats) : (countFallen previous stats).staleServed =
      stats.staleServed + (fallen previous e).isStale.toNat := by
  cases previous <;> rfl

theorem tallies_staleServed (k : Cache κ ν) :
    Tallies k Stats.staleServed fun call => call.phase.isStale.toNat := by
  intro now c request e p p' sh sh' count move stats
  cases move with
  | look look => exact look.staleServed stats
  | enter from_ _ _ => rcases from_ with rfl | rfl <;> rfl
  | turnBack from_ _ _ => rcases from_ with rfl | rfl <;> rfl
  | refuse _ _ _ => exact countFallen_staleServed _ _ (countLoad stats)
  | fail _ _ => exact countFallen_staleServed _ _ stats
  | giveUp _ => exact countFallen_staleServed _ _ stats
  | leave => rw [countMissed_staleServed]; rfl
  | _ => rfl

omit [DecidableEq κ] in
theorem total_toNat (calls : List (Call κ ν)) (among : Call κ ν → Bool) :
    total (fun call => (among call).toNat) calls = calls.countP among := by
  induction calls with
  | nil => rfl
  | cons call rest ih =>
      rw [total, List.countP_cons, ih]
      cases among call <;> simp [Nat.add_comm]

/-- What is counted as served stale are the calls served while a reload is in flight or after
their own has failed. -/
theorem staleServed_run (k : Cache κ ν) (start : Nat) (events : List (Event κ ν)) :
    (k.run (State.empty start) events).stats.staleServed =
      (k.run (State.empty start) events).calls.countP fun call => call.phase.isStale := by
  rw [tally_run (tallies_staleServed k) rfl (fun _ => rfl), total_toNat]

end Tally
end Telemetry.Cache
