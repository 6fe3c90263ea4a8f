import Telemetry.Proofs.Cache.Freshness
import Telemetry.Proofs.Cache.Progress

/-!
# Behind a poisoned gate

A call that takes a poisoned gate turns back.  So the snapshot and the loads stay as they are,
and each call is either served at once, since it needs no reload, or comes to the gate and fails
there, unless it finds the gate taken by another that turns back.
-/
set_option autoImplicit false
namespace Telemetry.Cache

variable {κ ν : Type}

/-- The call has taken a poisoned gate and is to give it back. -/
def Phase.turnsBack : Phase κ ν → Bool
  | .leaving (.failed .lockPoisoned) => true
  | _ => false

/-- Another call than `c` has the gate, and turns back. -/
def Passing (c : Nat) (m : State κ ν) : Prop :=
  ∃ (i : Nat) (call : Call κ ν), i ≠ c ∧ m.gate.holder = some i ∧ m.calls[i]? = some call ∧
    call.phase.turnsBack = true

section Machine
variable [DecidableEq κ] {k : Cache κ ν} {now c : Nat} {request : Request κ} {e : Event κ ν}
  {p p' : Phase κ ν} {sh sh' : Shared κ ν} {count : Stats → Stats} {m m₁ after : State κ ν}
  {later more : List (Event κ ν)} {s : Snapshot κ ν} {loads : List (Load ν)}
  {snapshot : Option (Snapshot κ ν)}

/-- The snapshot serves the request at this time without a reload. -/
def sheltered (k : Cache κ ν) (snapshot : Option (Snapshot κ ν)) (request : Request κ) (now : Nat) :
    Bool :=
  match request, snapshot with
  | .all, some s => s.age now < k.settings.invalidateAfter.millis
  | .get key, some s => (s.lookup key).isSome || s.age now < k.settings.retryAfter.millis
  | _, _ => false

theorem sheltered_some (kind : request ≠ .refresh) :
    k.sheltered (some s) request now = !(request.need true).holds k.settings s now := by
  have younger (limit : Nat) : decide (s.age now < limit) = !decide (limit ≤ s.age now) := by
    rw [← decide_not]
    exact decide_eq_decide.mpr Nat.not_le.symm
  cases request with
  | all => exact younger _
  | get key =>
      cases found : (s.lookup key).isSome <;>
        simp [sheltered, Request.need, Need.holds, Need.limit?, Snapshot.isOlder, found, younger]
  | refresh => exact absurd rfl kind

theorem sheltered_none : k.sheltered none request now = false := by
  cases request <;> rfl

/-! ## Nothing shared changes -/

theorem Move.barred (move : Move k now c request e p sh p' sh' count)
    (poisoned : sh.gate.poisoned = true) (turned : p.inside = true → p.turnsBack = true) :
    sh'.snapshot = sh.snapshot ∧ sh'.loads = sh.loads ∧
      (p'.inside = true → p'.turnsBack = true) := by
  cases move with
  | look look =>
      refine ⟨rfl, rfl, fun inside => ?_⟩
      cases look <;> first
        | cases turned rfl
        | cases inside
  | enter _ _ clean => cases clean.symm.trans poisoned
  | turnBack _ _ _ => exact ⟨rfl, rfl, fun _ => rfl⟩
  | leave => exact ⟨rfl, rfl, nofun⟩
  | _ => cases turned rfl

/-- The gate is poisoned, and nobody is inside but to turn back. -/
structure Barred (snapshot : Option (Snapshot κ ν)) (loads : List (Load ν)) (m : State κ ν) : Prop where
  poisoned : m.gate.poisoned = true
  snapshot_eq : m.snapshot = snapshot
  loads_eq : m.loads = loads
  turned : ∀ (i : Nat) (call : Call κ ν), m.calls[i]? = some call → call.phase.inside = true →
    call.phase.turnsBack = true

theorem Barred.step (barred : Barred snapshot loads m) (done : .running ∉ loads)
    (step : Step k m e after) : Barred snapshot loads after := by
  have poisoned := step.poisoned barred.poisoned
  cases step with
  | call request =>
      refine ⟨poisoned, barred.snapshot_eq, barred.loads_eq, ?_⟩
      intro i call there inside
      rcases append_cases there with ⟨_, rfl⟩ | before
      · cases inside
      · exact barred.turned i call before inside
  | clock reading => exact ⟨poisoned, barred.snapshot_eq, barred.loads_eq, barred.turned⟩
  | finish how lines running =>
      rw [barred.loads_eq] at running
      exact absurd (List.mem_of_getElem? running) done
  | move found move calls now stats =>
      obtain ⟨snapshot, loads, turned⟩ := move.barred barred.poisoned (barred.turned _ _ found)
      refine ⟨poisoned, snapshot.trans barred.snapshot_eq, loads.trans barred.loads_eq, ?_⟩
      intro i call there inside
      rw [calls] at there
      rcases set_cases there with ⟨rfl, rfl⟩ | ⟨_, before⟩
      · exact turned inside
      · exact barred.turned i call before inside

/-! ## What becomes of a call -/

/-- At some time while call `c` had not returned. -/
def During (k : Cache κ ν) (m₁ : State κ ν) (later : List (Event κ ν)) (c : Nat)
    (Q : State κ ν → Prop) : Prop :=
  ∃ earlier, earlier <+: later ∧ (∃ call, (k.run m₁ earlier).calls[c]? = some call ∧
    call.phase.hasReturned = false) ∧ Q (k.run m₁ earlier)

/-- At some time while call `c` had not returned, its request needed a reload. -/
def Unsheltered (k : Cache κ ν) (m₁ : State κ ν) (later : List (Event κ ν)) (c : Nat)
    (request : Request κ) : Prop :=
  During k m₁ later c fun m => k.sheltered m₁.snapshot request m.now = false

theorem During.grow {Q : State κ ν → Prop} (during : During k m₁ later c Q)
    (longer : later <+: more) : During k m₁ more c Q := by
  obtain ⟨earlier, early, there, holds⟩ := during
  exact ⟨earlier, early.trans longer, there, holds⟩

theorem Unsheltered.grow (unsheltered : Unsheltered k m₁ later c request)
    (longer : later <+: more) : Unsheltered k m₁ more c request :=
  During.grow unsheltered longer

/-- How a call comes back from behind the poisoned gate. -/
inductive Rebuffed (k : Cache κ ν) (m₁ : State κ ν) (later : List (Event κ ν)) (c : Nat)
    (request : Request κ) : Return κ ν → Prop where
  /-- The snapshot served the request without a reload. -/
  | sheltered {route : Route} {s : Snapshot κ ν} : route = .hit ∨ route = .lacking → m₁.snapshot = some s →
      During k m₁ later c (fun m => k.sheltered m₁.snapshot request m.now = true) →
      Rebuffed k m₁ later c request (.served route s)
  | failed : Unsheltered k m₁ later c request →
      Rebuffed k m₁ later c request (.failed .lockPoisoned)
  /-- It found the gate taken by a call that was on its way out. -/
  | overtaken {s : Snapshot κ ν} : request ≠ .refresh → m₁.snapshot = some s →
      Unsheltered k m₁ later c request →
      During k m₁ later c (Passing c) → Rebuffed k m₁ later c request (.served .inFlight s)

theorem Rebuffed.grow {r : Return κ ν} (rebuffed : Rebuffed k m₁ later c request r)
    (longer : later <+: more) : Rebuffed k m₁ more c request r := by
  cases rebuffed with
  | sheltered route there during => exact .sheltered route there (during.grow longer)
  | failed during => exact .failed (during.grow longer)
  | overtaken kind there during passing =>
      exact .overtaken kind there (during.grow longer) (passing.grow longer)

/-- What has become of a call that was made after the gate was poisoned. -/
def Told (k : Cache κ ν) (m₁ : State κ ν) (later : List (Event κ ν)) (c : Nat)
    (request : Request κ) : Phase κ ν → Prop
  | .start => True
  | .judge need s => request ≠ .refresh ∧ m₁.snapshot = some s ∧ need = request.need true
  | .approach _ => request ≠ .refresh ∧
    Unsheltered k m₁ later c request
  | .occupied _ => request ≠ .refresh ∧
    Unsheltered k m₁ later c request ∧
    During k m₁ later c (Passing c)
  | .queue _ => Unsheltered k m₁ later c request
  | .leaving r => r = .failed .lockPoisoned ∧ Rebuffed k m₁ later c request r
  | .returned r => Rebuffed k m₁ later c request r
  | _ => False

theorem Told.grow (told : Told k m₁ later c request p) (longer : later <+: more) :
    Told k m₁ more c request p := by
  cases p with
  | start => trivial
  | judge need s => exact told
  | approach need => exact ⟨told.1, told.2.grow longer⟩
  | occupied need => exact ⟨told.1, told.2.1.grow longer, told.2.2.grow longer⟩
  | queue need =>
      have unsheltered : Unsheltered k m₁ later c request := told
      exact unsheltered.grow longer
  | leaving r => exact ⟨told.1, told.2.grow longer⟩
  | returned r =>
      have rebuffed : Rebuffed k m₁ later c request r := told
      exact rebuffed.grow longer
  | _ => exact told.elim

/-- What holds now holds at some time during a call that has not returned. -/
theorem during_now {Q : State κ ν → Prop} (found : (k.run m₁ later).calls[c]? = some ⟨request, p⟩)
    (inside : p.hasReturned = false) (holds : Q (k.run m₁ later)) :
    During k m₁ (later ++ [e]) c Q :=
  ⟨later, List.prefix_append _ _, ⟨_, found, inside⟩, holds⟩

omit [DecidableEq κ] in
theorem Barred.passing (barred : Barred snapshot loads m) (guarded : Guarded m.shared m.calls)
    (found : m.calls[c]? = some ⟨request, p⟩) (outside : p.inside = false) {holder : Nat}
    (taken : m.gate.holder = some holder) : Passing c m := by
  obtain ⟨call, there, inside⟩ := guarded.held holder taken
  refine ⟨holder, call, ?_, taken, there, barred.turned holder call there inside⟩
  rintro rfl
  rw [found] at there
  cases there
  rw [outside] at inside
  cases inside

theorem Look.told (look : Look k m.now request m.shared p p' count) (same : m = k.run m₁ later)
    (barred : Barred m₁.snapshot loads m) (guarded : Guarded m.shared m.calls)
    (found : m.calls[c]? = some ⟨request, p⟩) (told : Told k m₁ later c request p) :
    Told k m₁ (later ++ [e]) c request p' := by
  have longer : later <+: later ++ [e] := List.prefix_append _ _
  have now {Q : State κ ν → Prop} (inside : p.hasReturned = false) (holds : Q m) :
      During k m₁ (later ++ [e]) c Q := by
    subst same
    exact during_now found inside holds
  have current {s? : Option (Snapshot κ ν)} (there : m.shared.snapshot = s?) : m₁.snapshot = s? :=
    barred.snapshot_eq.symm.trans there
  cases look with
  | force kind =>
      subst kind
      have unsheltered : Unsheltered k m₁ (later ++ [e]) c .refresh := now rfl rfl
      exact unsheltered
  | lack kind bare =>
      refine ⟨kind, now rfl ?_⟩
      rw [current bare]
      exact sheltered_none
  | @present s kind there unlimited =>
      refine .sheltered (.inl rfl) (current there) (now rfl ?_)
      rw [current there, sheltered_some kind, Need.holds, unlimited]
      rfl
  | see kind there _ => exact ⟨kind, current there, rfl⟩
  | old holds =>
      obtain ⟨kind, there, rfl⟩ := told
      refine ⟨kind, now rfl ?_⟩
      rw [there, sheltered_some kind, holds]
      rfl
  | lacking young =>
      obtain ⟨kind, there, same⟩ := told
      refine .sheltered (.inr rfl) there (now rfl ?_)
      rw [there, sheltered_some kind, ← same, young]
      rfl
  | young _ young =>
      obtain ⟨kind, there, rfl⟩ := told
      refine .sheltered (.inl rfl) there (now rfl ?_)
      rw [there, sheltered_some kind, young]
      rfl
  | taken holder =>
      exact ⟨told.1, told.2.grow longer, now rfl (barred.passing guarded found rfl holder)⟩
  | overtaken there =>
      exact .overtaken told.1 (current there) (told.2.1.grow longer) (told.2.2.grow longer)
  | wait _ => exact told.2.1.grow longer
  | _ => exact told.elim

theorem Move.told (move : Move k m.now c request e p m.shared p' sh' count)
    (same : m = k.run m₁ later) (barred : Barred m₁.snapshot loads m)
    (guarded : Guarded m.shared m.calls) (found : m.calls[c]? = some ⟨request, p⟩)
    (told : Told k m₁ later c request p) : Told k m₁ (later ++ [e]) c request p' := by
  have longer : later <+: later ++ [e] := List.prefix_append _ _
  cases move with
  | look look => exact look.told same barred guarded found told
  | enter _ _ clean => cases clean.symm.trans barred.poisoned
  | turnBack from_ _ _ =>
      rcases from_ with rfl | rfl
      · exact ⟨rfl, .failed (told.2.grow longer)⟩
      · have unsheltered : Unsheltered k m₁ later c request := told
        exact ⟨rfl, .failed (unsheltered.grow longer)⟩
  | leave => exact told.2.grow longer
  | _ => exact told.elim

/-! ## Along a run -/

/-- Behind a poisoned gate nothing shared changes, and what becomes of later calls can be told. -/
structure Behind (k : Cache κ ν) (m₁ : State κ ν) (later : List (Event κ ν)) (m : State κ ν) : Prop where
  coherent : Coherent m
  barred : Barred m₁.snapshot m₁.loads m
  told : ∀ (i : Nat) (call : Call κ ν), m₁.calls.length ≤ i → m.calls[i]? = some call →
    Told k m₁ later i call.request call.phase

theorem Behind.step (behind : Behind k m₁ later m) (same : m = k.run m₁ later)
    (done : .running ∉ m₁.loads) (step : Step k m e after) : Behind k m₁ (later ++ [e]) after := by
  refine ⟨behind.coherent.step step, behind.barred.step done step, ?_⟩
  intro i call late there
  rcases step.call_cases there with fresh | before | ⟨p, count, before, move, _⟩
  · rw [fresh]
    trivial
  · exact (behind.told i call late before).grow (List.prefix_append _ _)
  · exact move.told same behind.barred behind.coherent.guarded before (behind.told i _ late before)

theorem behind_run (coherent : Coherent m₁) (barred : Barred m₁.snapshot m₁.loads m₁)
    (done : .running ∉ m₁.loads) (later : List (Event κ ν)) :
    Behind k m₁ later (k.run m₁ later) := by
  refine run_history (P := fun later m => Behind k m₁ later m) ?_ ?_ ?_ later
  · refine ⟨coherent, barred, ?_⟩
    intro i call late there
    exact absurd (List.getElem?_eq_some_iff.mp there).1 (Nat.not_lt_of_le late)
  · intro events e _ behind
    exact ⟨behind.coherent, behind.barred, fun i call late there =>
      (behind.told i call late there).grow (List.prefix_append _ _)⟩
  · intro events e after next behind
    exact behind.step rfl done (step_of_next? next)

end Machine
end Telemetry.Cache
