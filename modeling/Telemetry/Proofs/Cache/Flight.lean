import Mathlib.Data.List.Perm.Subperm
import Telemetry.Proofs.Cache.Moves

/-!
# The gate and the load in flight

The gate is held by exactly the call that is between taking it and giving it
back.  A load whose outcome has not been received is the last one that was
started, and it is claimed: either it is parked, or the call that holds the gate
waits for it, and never both.  `single_flight` follows: a load is started only
when every earlier one has been received, each by one call.
-/
set_option autoImplicit false
namespace Telemetry.Cache

variable {κ ν : Type}

/-- The call holds the gate. -/
def Phase.inside : Phase κ ν → Bool
  | .inspect _ | .recheck .. | .load _ | .awaiting .. | .collected .. | .publish .. | .leaving _ => true
  | _ => false

/-- The load for which the call waits. -/
def Phase.awaited? : Phase κ ν → Option Nat
  | .awaiting n _ => some n
  | _ => none

theorem inside_of_awaited? {p : Phase κ ν} {load : Nat} (h : p.awaited? = some load) :
    p.inside = true := by
  cases p <;> first | rfl | simp [Phase.awaited?] at h

/-- No caller has taken notice of the load's end. -/
def Load.isPending : Load ν → Bool
  | .received _ => false
  | _ => true

def Pending (loads : List (Load ν)) (load : Nat) : Prop :=
  ∃ l, loads[load]? = some l ∧ l.isPending = true

theorem pending_append_running {loads : List (Load ν)} {i : Nat} :
    Pending (loads ++ [.running]) i ↔ Pending loads i ∨ i = loads.length := by
  rcases Nat.lt_trichotomy i loads.length with less | equal | more
  · simp [Pending, List.getElem?_append_left less, Nat.ne_of_lt less]
  · simp [Pending, equal, Load.isPending]
  · have out : loads[i]? = none := List.getElem?_eq_none (Nat.le_of_lt more)
    have out' : (loads ++ [Load.running])[i]? = none :=
      List.getElem?_eq_none (by simp; omega)
    simp [Pending, out, out', Nat.ne_of_gt more]

theorem pending_set {loads : List (Load ν)} {load i : Nat} {l : Load ν}
    (inside : load < loads.length) :
    Pending (loads.set load l) i ↔ if i = load then l.isPending = true else Pending loads i := by
  by_cases same : i = load
  · subst same
    simp [Pending, inside]
  · simp [Pending, List.getElem?_set_ne (Ne.symm same), same]

section Gate
variable [DecidableEq κ] {k : Cache κ ν} {now c : Nat} {request : Request κ} {e : Event κ ν}
  {p p' : Phase κ ν} {sh sh' : Shared κ ν} {count : Stats → Stats} {calls : List (Call κ ν)}

theorem Look.inside (look : Look k now request sh p p' count) : p'.inside = p.inside := by
  cases look <;> rfl

theorem Look.awaited? (look : Look k now request sh p p' count) :
    p.awaited? = none ∧ p'.awaited? = none := by
  cases look <;> exact ⟨rfl, rfl⟩

/-- What a move can do to the gate. -/
inductive Passage (c : Nat) (p p' : Phase κ ν) (sh sh' : Shared κ ν) : Prop where
  | stays : sh'.gate.holder = sh.gate.holder → p'.inside = p.inside → Passage c p p' sh sh'
  | enters : sh.gate.holder = none → sh'.gate.holder = some c → p'.inside = true →
      Passage c p p' sh sh'
  | leaves : p.inside = true → sh'.gate.holder = none → p'.inside = false → Passage c p p' sh sh'

theorem Move.passage (move : Move k now c request e p sh p' sh' count) :
    Passage c p p' sh sh' := by
  cases move with
  | look look => exact .stays rfl look.inside
  | enter _ free _ => exact .enters free rfl rfl
  | turnBack _ free _ => exact .enters free rfl rfl
  | resume _ => exact .stays rfl rfl
  | begin _ _ => exact .stays rfl rfl
  | refuse _ _ _ => exact .stays rfl rfl
  | receive _ => exact .stays rfl rfl
  | fail _ _ => exact .stays rfl rfl
  | giveUp _ => exact .stays rfl rfl
  | die _ _ => exact .leaves rfl rfl rfl
  | nameless _ _ => exact .leaves rfl rfl rfl
  | keyless _ => exact .leaves rfl rfl rfl
  | install => exact .stays rfl rfl
  | leave => exact .leaves rfl rfl rfl

/-- The gate's holder is the call inside. -/
structure Guarded (sh : Shared κ ν) (calls : List (Call κ ν)) : Prop where
  gated : ∀ i call, calls[i]? = some call → call.phase.inside = true → sh.gate.holder = some i
  held : ∀ i, sh.gate.holder = some i → ∃ call, calls[i]? = some call ∧ call.phase.inside = true

omit [DecidableEq κ] in
theorem Guarded.alone (guarded : Guarded sh calls) {i j : Nat} {a b : Call κ ν}
    (foundA : calls[i]? = some a) (foundB : calls[j]? = some b)
    (insideA : a.phase.inside = true) (insideB : b.phase.inside = true) : i = j := by
  have holds := guarded.gated i a foundA insideA
  rw [guarded.gated j b foundB insideB] at holds
  exact (Option.some.inj holds).symm

theorem Guarded.move (guarded : Guarded sh calls) (found : calls[c]? = some ⟨request, p⟩)
    (move : Move k now c request e p sh p' sh' count) :
    Guarded sh' (calls.set c ⟨request, p'⟩) := by
  have there := (List.getElem?_eq_some_iff.mp found).1
  have self : (calls.set c ⟨request, p'⟩)[c]? = some ⟨request, p'⟩ := List.getElem?_set_self there
  cases move.passage with
  | stays holder inside =>
      constructor
      · intro i call at_ callInside
        rw [holder]
        rcases set_cases at_ with ⟨rfl, rfl⟩ | ⟨_, before⟩
        · exact guarded.gated i _ found (inside ▸ callInside)
        · exact guarded.gated i call before callInside
      · intro i holds
        rw [holder] at holds
        obtain ⟨call, before, callInside⟩ := guarded.held i holds
        by_cases same : i = c
        · subst same
          rw [found] at before
          cases before
          exact ⟨_, self, inside.trans callInside⟩
        · exact ⟨call, by rw [List.getElem?_set_ne (Ne.symm same), before], callInside⟩
  | enters free holder inside =>
      constructor
      · intro i call at_ callInside
        rcases set_cases at_ with ⟨rfl, rfl⟩ | ⟨_, before⟩
        · exact holder
        · have holds := guarded.gated i call before callInside
          rw [free] at holds
          cases holds
      · intro i holds
        rw [holder] at holds
        cases holds
        exact ⟨_, self, inside⟩
  | leaves inside holder outside =>
      constructor
      · intro i call at_ callInside
        rcases set_cases at_ with ⟨rfl, rfl⟩ | ⟨other, before⟩
        · rw [outside] at callInside
          cases callInside
        · exact absurd (guarded.alone before found callInside inside) other
      · intro i holds
        rw [holder] at holds
        cases holds

theorem Guarded.step {m after : State κ ν} (guarded : Guarded m.shared m.calls)
    (step : Step k m e after) : Guarded after.shared after.calls := by
  cases step with
  | call request =>
      constructor
      · intro i call at_ inside
        rcases append_cases at_ with ⟨_, rfl⟩ | before
        · cases inside
        · exact guarded.gated i call before inside
      · intro i holds
        obtain ⟨call, before, inside⟩ := guarded.held i holds
        have there := (List.getElem?_eq_some_iff.mp before).1
        exact ⟨call, by rw [List.getElem?_append_left there, before], inside⟩
  | clock reading => exact ⟨guarded.gated, guarded.held⟩
  | finish how lines running => exact ⟨guarded.gated, guarded.held⟩
  | move found move calls now stats =>
      rw [calls]
      exact guarded.move found move

end Gate

/-! ## The load in flight -/

/-- Some call waits for the load. -/
def Awaits (calls : List (Call κ ν)) (load : Nat) : Prop :=
  ∃ (i : Nat) (call : Call κ ν), calls[i]? = some call ∧ call.phase.awaited? = some load

section Flight
variable [DecidableEq κ] {k : Cache κ ν} {now c : Nat} {request : Request κ} {e : Event κ ν}
  {p p' : Phase κ ν} {sh sh' : Shared κ ν} {count : Stats → Stats} {calls : List (Call κ ν)}

omit [DecidableEq κ] in
theorem Guarded.awaits_iff (guarded : Guarded sh calls) (found : calls[c]? = some ⟨request, p⟩)
    (inside : p.inside = true) (load : Nat) : Awaits calls load ↔ p.awaited? = some load := by
  constructor
  · rintro ⟨i, call, there, awaited⟩
    have same := guarded.alone there found (inside_of_awaited? awaited) inside
    subst same
    rw [found] at there
    cases there
    exact awaited
  · intro awaited
    exact ⟨c, _, found, awaited⟩

omit [DecidableEq κ] in
theorem Guarded.awaits_set_iff (guarded : Guarded sh calls)
    (found : calls[c]? = some ⟨request, p⟩) (inside : p.inside = true) (load : Nat) :
    Awaits (calls.set c ⟨request, p'⟩) load ↔ p'.awaited? = some load := by
  constructor
  · rintro ⟨i, call, there, awaited⟩
    rcases set_cases there with ⟨rfl, rfl⟩ | ⟨other, before⟩
    · exact awaited
    · exact absurd (guarded.alone before found (inside_of_awaited? awaited) inside) other
  · intro awaited
    have bound := (List.getElem?_eq_some_iff.mp found).1
    exact ⟨c, _, List.getElem?_set_self bound, awaited⟩

omit [DecidableEq κ] in
theorem awaits_set_of_none (found : calls[c]? = some ⟨request, p⟩) (before : p.awaited? = none)
    (after : p'.awaited? = none) (load : Nat) :
    Awaits (calls.set c ⟨request, p'⟩) load ↔ Awaits calls load := by
  constructor
  · rintro ⟨i, call, there, awaited⟩
    rcases set_cases there with ⟨rfl, rfl⟩ | ⟨_, there⟩
    · simp [after] at awaited
    · exact ⟨i, call, there, awaited⟩
  · rintro ⟨i, call, there, awaited⟩
    by_cases same : i = c
    · subst same
      rw [found] at there
      cases there
      simp [before] at awaited
    · exact ⟨i, call, by rw [List.getElem?_set_ne (Ne.symm same), there], awaited⟩

/-- What a move can do to the load in flight. -/
inductive Handover (p p' : Phase κ ν) (sh sh' : Shared κ ν) : Prop where
  | keeps : sh'.loads = sh.loads → sh'.parked = sh.parked → p.awaited? = none →
      p'.awaited? = none → Handover p p' sh sh'
  | resumes {load} : sh.parked = some load → sh'.parked = none → sh'.loads = sh.loads →
      p.inside = true → p.awaited? = none → p'.awaited? = some load → Handover p p' sh sh'
  | starts : sh.parked = none → sh'.parked = none → sh'.loads = sh.loads ++ [.running] →
      p.inside = true → p.awaited? = none → p'.awaited? = some sh.loads.length →
      Handover p p' sh sh'
  | receives {load how} : sh.loads[load]? = some (.ended how) →
      sh'.loads = sh.loads.set load (.received how) → sh'.parked = sh.parked →
      p.awaited? = some load → p'.awaited? = none → Handover p p' sh sh'
  | parks {load} : sh'.parked = some load → sh'.loads = sh.loads → p.awaited? = some load →
      p'.awaited? = none → Handover p p' sh sh'

theorem Move.handover (move : Move k now c request e p sh p' sh' count) :
    Handover p p' sh sh' := by
  cases move with
  | look look => exact .keeps rfl rfl look.awaited?.1 look.awaited?.2
  | enter from_ _ _ => rcases from_ with rfl | rfl <;> exact .keeps rfl rfl rfl rfl
  | turnBack from_ _ _ => rcases from_ with rfl | rfl <;> exact .keeps rfl rfl rfl rfl
  | resume parked => exact .resumes parked rfl rfl rfl rfl rfl
  | begin parked _ => exact .starts parked parked rfl rfl rfl rfl
  | refuse _ _ _ => exact .keeps rfl rfl rfl rfl
  | receive ended => exact .receives ended rfl rfl rfl rfl
  | fail ended _ => exact .receives ended rfl rfl rfl rfl
  | giveUp _ => exact .parks rfl rfl rfl rfl
  | die ended _ => exact .receives ended rfl rfl rfl rfl
  | nameless _ _ => exact .keeps rfl rfl rfl rfl
  | keyless _ => exact .keeps rfl rfl rfl rfl
  | install => exact .keeps rfl rfl rfl rfl
  | leave => exact .keeps rfl rfl rfl rfl

/-- Exactly the parked or awaited load is pending, never two, and it is the last. -/
structure InFlight (sh : Shared κ ν) (calls : List (Call κ ν)) : Prop where
  pending_iff : ∀ load, Pending sh.loads load ↔ sh.parked = some load ∨ Awaits calls load
  last : ∀ load, Pending sh.loads load → load + 1 = sh.loads.length
  apart : ∀ parked load, sh.parked = some parked → ¬ Awaits calls load

omit [DecidableEq κ] in
theorem InFlight.none_pending (flight : InFlight sh calls) (guarded : Guarded sh calls)
    (found : calls[c]? = some ⟨request, p⟩) (inside : p.inside = true)
    (idle : p.awaited? = none) (unparked : sh.parked = none) (load : Nat) :
    ¬ Pending sh.loads load := by
  rw [flight.pending_iff, unparked, guarded.awaits_iff found inside, idle]
  simp

theorem InFlight.move (flight : InFlight sh calls) (guarded : Guarded sh calls)
    (found : calls[c]? = some ⟨request, p⟩)
    (move : Move k now c request e p sh p' sh' count) :
    InFlight sh' (calls.set c ⟨request, p'⟩) := by
  cases move.handover with
  | keeps loads parked before after =>
      constructor <;> intros <;> simp only [loads, parked, awaits_set_of_none found before after] at *
      · exact flight.pending_iff _
      · exact flight.last _ ‹_›
      · exact flight.apart _ _ ‹_›
  | @resumes waiting parked unparked loads inside before after =>
      have awaits : ∀ load, Awaits (calls.set c ⟨request, p'⟩) load ↔ load = waiting := by
        intro load
        rw [guarded.awaits_set_iff found inside, after]
        exact ⟨fun h => (Option.some.inj h).symm, fun h => congrArg some h.symm⟩
      have free : ∀ load, ¬ Awaits calls load := fun load => flight.apart waiting load parked
      constructor
      · intro load
        rw [loads, flight.pending_iff, parked, unparked, awaits]
        simp [free, eq_comm]
      · rw [loads]
        exact flight.last
      · intro held load h
        simp [unparked] at h
  | starts parked unparked loads inside before after =>
      have awaits : ∀ load, Awaits (calls.set c ⟨request, p'⟩) load ↔ load = sh.loads.length := by
        intro load
        rw [guarded.awaits_set_iff found inside, after]
        exact ⟨fun h => (Option.some.inj h).symm, fun h => congrArg some h.symm⟩
      have settled := flight.none_pending guarded found inside before parked
      constructor
      · intro load
        rw [loads, pending_append_running, unparked, awaits]
        simp [settled]
      · intro load pending
        rw [loads, pending_append_running] at pending
        rcases pending with pending | rfl
        · exact absurd pending (settled load)
        · simp [loads]
      · intro held load h
        simp [unparked] at h
  | @receives received how ended loads parked before after =>
      have inside := inside_of_awaited? before
      have bound := (List.getElem?_eq_some_iff.mp ended).1
      have awaits : ∀ load, ¬ Awaits (calls.set c ⟨request, p'⟩) load := by
        intro load
        rw [guarded.awaits_set_iff found inside, after]
        simp
      have pending : Awaits calls received := (guarded.awaits_iff found inside received).mpr before
      have unparked : ∀ load, sh.parked ≠ some load := fun load h =>
        flight.apart load received h pending
      have settled : ∀ load, ¬ Pending sh'.loads load := by
        intro load
        rw [loads, pending_set bound]
        split
        · simp [Load.isPending]
        · rename_i other
          rw [flight.pending_iff, guarded.awaits_iff found inside, before]
          rintro (h | h)
          · exact unparked load h
          · exact other (Option.some.inj h).symm
      constructor
      · intro load
        simp [settled, parked, unparked, awaits]
      · intro load h
        exact absurd h (settled load)
      · intro held load _
        exact awaits load
  | @parks left parked loads before after =>
      have inside := inside_of_awaited? before
      have pending : Awaits calls left := (guarded.awaits_iff found inside left).mpr before
      have unparked : ∀ load, sh.parked ≠ some load := fun load h =>
        flight.apart load left h pending
      have awaits : ∀ load, ¬ Awaits (calls.set c ⟨request, p'⟩) load := by
        intro load
        rw [guarded.awaits_set_iff found inside, after]
        simp
      constructor
      · intro load
        rw [loads, flight.pending_iff, guarded.awaits_iff found inside, before, parked]
        simp [unparked, awaits]
      · rw [loads]
        exact flight.last
      · intro held load _
        exact awaits load

theorem InFlight.step {m after : State κ ν} (flight : InFlight m.shared m.calls)
    (guarded : Guarded m.shared m.calls) (step : Step k m e after) :
    InFlight after.shared after.calls := by
  cases step with
  | call request =>
      have awaits : ∀ load, Awaits (m.calls ++ [⟨request, .start⟩]) load ↔ Awaits m.calls load := by
        intro load
        constructor
        · rintro ⟨i, call, there, awaited⟩
          rcases append_cases there with ⟨_, rfl⟩ | before
          · simp [Phase.awaited?] at awaited
          · exact ⟨i, call, before, awaited⟩
        · rintro ⟨i, call, there, awaited⟩
          have bound := (List.getElem?_eq_some_iff.mp there).1
          exact ⟨i, call, by rw [List.getElem?_append_left bound, there], awaited⟩
      constructor
      · intro load
        rw [awaits]
        exact flight.pending_iff load
      · exact flight.last
      · intro parked load h
        rw [awaits]
        exact flight.apart parked load h
  | clock reading => exact ⟨flight.pending_iff, flight.last, flight.apart⟩
  | @finish load how lines running =>
      have bound := (List.getElem?_eq_some_iff.mp running).1
      have pending : ∀ i, Pending (m.loads.set load (.ended how)) i ↔ Pending m.loads i := by
        intro i
        rw [pending_set bound]
        split
        · rename_i same
          subst same
          simp [Load.isPending, Pending, running]
        · rfl
      constructor
      · intro i
        exact (pending i).trans (flight.pending_iff i)
      · intro i h
        have := flight.last i ((pending i).mp h)
        simpa [State.shared] using this
      · exact flight.apart
  | move found move calls now stats =>
      rw [calls]
      exact flight.move guarded found move

/-- What holds of the gate and the loads in every state that can be reached. -/
structure Coherent (m : State κ ν) : Prop where
  guarded : Guarded m.shared m.calls
  flight : InFlight m.shared m.calls

theorem Coherent.step {m after : State κ ν} (coherent : Coherent m) (step : Step k m e after) :
    Coherent after :=
  ⟨coherent.guarded.step step, coherent.flight.step coherent.guarded step⟩

omit [DecidableEq κ] in
theorem coherent_empty (start : Nat) : Coherent (State.empty start : State κ ν) := by
  refine ⟨⟨?_, ?_⟩, ⟨?_, ?_, ?_⟩⟩ <;> simp [State.empty, State.shared, Pending, Awaits]

theorem coherent_run (k : Cache κ ν) (start : Nat) (events : List (Event κ ν)) :
    Coherent (k.run (State.empty start) events) :=
  run_keeps (fun _ _ _ coherent step => coherent.step step) (coherent_empty start) events

end Flight
end Telemetry.Cache
