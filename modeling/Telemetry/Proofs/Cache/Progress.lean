import Telemetry.Cache.Settle
import Telemetry.Proofs.Cache.Flight

/-!
# Calls return

Every step of a call lowers the rank of the state, so that calls take boundedly
many steps in whatever order.  When none of them can take another, each has
returned, or one waits without a limit for a load that runs.
-/
set_option autoImplicit false
namespace Telemetry.Cache

variable {κ ν : Type}

/-- The event is a step of a call, and neither a new call nor one of the clock or a loader. -/
def Event.isOwn : Event κ ν → Bool
  | .step _ | .expire _ | .refuse .. => true
  | _ => false

section Machine
variable [DecidableEq κ] {k : Cache κ ν} {now c : Nat} {request : Request κ} {e : Event κ ν}
  {p p' : Phase κ ν} {sh sh' : Shared κ ν} {count : Stats → Stats} {m after : State κ ν}

theorem Look.rank_lt (look : Look k now request sh p p' count) : p'.rank < p.rank := by
  cases look <;> simp [Phase.rank]

theorem Move.rank_lt (move : Move k now c request e p sh p' sh' count) : p'.rank < p.rank := by
  cases move with
  | look look => exact look.rank_lt
  | enter from_ _ _ => rcases from_ with rfl | rfl <;> simp [Phase.rank]
  | turnBack from_ _ _ => rcases from_ with rfl | rfl <;> simp [Phase.rank]
  | _ => simp [Phase.rank]

theorem Step.rank_lt (step : Step k m e after) (own : e.isOwn = true) : after.rank < m.rank := by
  cases step with
  | @move e c request p p' count after found move calls now stats =>
      have replaced := total_set ⟨request, p'⟩ (fun call => call.phase.rank) found
      have less := move.rank_lt
      simp only at replaced
      rw [State.rank, State.rank, calls]
      omega
  | _ => cases own

/-- A call that cannot go on has returned, or waits for the gate or for a load. -/
theorem waits_of_advance?_none (stuck : k.advance? m c request p = none) :
    (p.inside = false ∧ m.gate.holder ≠ none) ∨
    (∃ load previous, p = .awaiting load previous ∧ ∀ how, m.loads[load]? ≠ some (.ended how)) ∨
    ∃ r, p = .returned r := by
  cases p with
  | queue need =>
      refine .inl ⟨rfl, ?_⟩
      intro free
      simp [advance?, free] at stuck
  | awaiting load previous =>
      refine .inr (.inl ⟨load, previous, rfl, ?_⟩)
      intro how ended
      simp [advance?, ended] at stuck
  | returned r => exact .inr (.inr ⟨r, rfl⟩)
  | _ =>
      simp only [advance?] at stuck
      repeat' split at stuck
      all_goals contradiction

omit [DecidableEq κ] in
theorem Coherent.runs_of_awaited (coherent : Coherent m) {i load : Nat}
    {previous : Option (Snapshot κ ν)}
    (found : m.calls[i]? = some ⟨request, .awaiting load previous⟩)
    (waits : ∀ how, m.loads[load]? ≠ some (.ended how)) : load ∈ m.running := by
  have pending : Pending m.loads load :=
    (coherent.flight.pending_iff load).mpr (.inr ⟨i, _, found, rfl⟩)
  obtain ⟨l, there, notReceived⟩ := pending
  have bound := (List.getElem?_eq_some_iff.mp there).1
  refine List.mem_filter.mpr ⟨List.mem_range.mpr bound, ?_⟩
  cases l with
  | running => rw [there]
  | ended how => exact absurd there (waits how)
  | received how => cases notReceived

/-- When no call can go on, and a call that waits for a load has a limit or the load has ended,
every call has returned. -/
theorem Coherent.returned_of_stuck (coherent : Coherent m)
    (stuck : ∀ e : Event κ ν, e.isOwn = true → k.next? m e = none)
    (ends : m.running = [] ∨ k.settings.loadTimeout.isSome = true) {i : Nat} {call : Call κ ν}
    (found : m.calls[i]? = some call) : ∃ r, call.phase = .returned r := by
  have cannot : ∀ {i : Nat} {call : Call κ ν}, m.calls[i]? = some call →
      k.advance? m i call.request call.phase = none := by
    intro i call found
    simpa [next?, found] using stuck (.step i) rfl
  have noneAwaits : ∀ {i load : Nat} {request : Request κ} {previous : Option (Snapshot κ ν)},
      m.calls[i]? = some ⟨request, .awaiting load previous⟩ →
      ¬ ∀ how, m.loads[load]? ≠ some (.ended how) := by
    intro i load request previous found waits
    rcases ends with noneRuns | limited
    · have runs := coherent.runs_of_awaited found waits
      rw [noneRuns] at runs
      cases runs
    · obtain ⟨limit, limited⟩ := Option.isSome_iff_exists.mp limited
      have expired := stuck (.expire i) rfl
      simp [next?, found, expire?, limited] at expired
  rcases waits_of_advance?_none (cannot found) with ⟨_, taken⟩ | ⟨load, previous, awaits, waits⟩ | done
  · -- the gate's holder is stuck as well, and cannot be
    obtain ⟨holder, holds⟩ := Option.ne_none_iff_exists'.mp taken
    obtain ⟨other, foundOther, inside⟩ := coherent.guarded.held holder holds
    rcases waits_of_advance?_none (cannot foundOther) with
      ⟨outside, _⟩ | ⟨load, previous, awaits, waits⟩ | ⟨r, returned⟩
    · rw [inside] at outside
      cases outside
    · obtain ⟨request, phase⟩ := other
      subst awaits
      exact absurd waits (noneAwaits foundOther)
    · rw [returned] at inside
      cases inside
  · obtain ⟨request, phase⟩ := call
    subst awaits
    exact absurd waits (noneAwaits found)
  · exact done

end Machine
end Telemetry.Cache
