import Telemetry.Proofs.Cache.Counters
import Telemetry.Proofs.Cache.Freshness
import Telemetry.Proofs.Cache.Spacing

/-!
# Counters add up

What a call has counted can be told from its request and its phase, so all counters are sums
over the calls.  Once every call has returned, each has counted one of a hit and a load, or it
was served by a route that counts neither.
-/
set_option autoImplicit false
namespace Telemetry.Cache

variable {κ ν : Type}

def Request.isGet : Request κ → Bool
  | .get _ => true
  | _ => false

def Answer.isNotFound : Answer κ ν → Bool
  | .error (.notFound _) => true
  | _ => false

/-- The answer is that the catalog could not be loaded. -/
def Answer.isOutage : Answer κ ν → Bool
  | .error (.unavailable _) | .error (.timeout _) => true
  | _ => false

/-- The call has returned, and in such a way. -/
def Call.returnedAs (among : Request κ → Return κ ν → Bool) (call : Call κ ν) : Bool :=
  match call.phase with
  | .returned r => among call.request r
  | _ => false

def Return.route? : Return κ ν → Option Route
  | .served route _ => some route
  | _ => none

/-- The call's own reload has failed. -/
def Return.hasFailed : Return κ ν → Bool
  | .served .fallback _ => true
  | .failed e => isLoadError e
  | _ => false

/-- The call had begun a reload. -/
def Return.hasBegun : Return κ ν → Bool
  | .crashed | .served .reloaded _ => true
  | r => r.hasFailed

def Phase.hasFailed : Phase κ ν → Bool
  | .leaving r | .returned r => r.hasFailed
  | _ => false

def Phase.hasBegun : Phase κ ν → Bool
  | .awaiting .. | .collected .. | .publish .. => true
  | .leaving r | .returned r => r.hasBegun
  | _ => false

def Phase.route? : Phase κ ν → Option Route
  | .leaving r | .returned r => r.route?
  | _ => none

def Stats.add (a b : Stats) : Stats :=
  ⟨a.loads + b.loads, a.loadFailures + b.loadFailures, a.staleServed + b.staleServed,
    a.hits + b.hits, a.misses + b.misses⟩

section Tally
variable [DecidableEq κ] {k : Cache κ ν} {now c : Nat} {request : Request κ} {e : Event κ ν}
  {p p' : Phase κ ν} {sh sh' : Shared κ ν} {count : Stats → Stats} {m after : State κ ν}

/-- The call has returned without the key that it looked for. -/
def Phase.hasMissed (request : Request κ) : Phase κ ν → Bool
  | .returned r => (request.unmet? r).isSome
  | _ => false

/-- What the call has counted so far. -/
def Call.counted (call : Call κ ν) : Stats :=
  ⟨call.phase.hasBegun.toNat, call.phase.hasFailed.toNat, call.phase.isStale.toNat,
    (decide (call.phase.route? = some .hit)).toNat, (call.phase.hasMissed call.request).toNat⟩

theorem countMissed_eq (request : Request κ) (r : Return κ ν) (stats : Stats) :
    countMissed request r stats = stats.add ⟨0, 0, 0, 0, (request.unmet? r).isSome.toNat⟩ := by
  unfold countMissed
  cases request.unmet? r <;> rfl

omit [DecidableEq κ] in
theorem countFallen_eq (previous : Option (Snapshot κ ν)) (stats : Stats) :
    countFallen previous stats = stats.add ⟨0, 1, previous.isSome.toNat, 0, 0⟩ := by
  cases previous <;> rfl

theorem counted_fallen {previous : Option (Snapshot κ ν)} {error : CacheError}
    (kind : isLoadError error = true) : (⟨request, .leaving (fallen previous error)⟩ : Call κ ν).counted =
      ⟨1, 1, previous.isSome.toNat, 0, 0⟩ := by
  cases previous with
  | some s => rfl
  | none =>
      simp [Call.counted, fallen, Phase.hasBegun, Return.hasBegun, Phase.hasFailed, Return.hasFailed,
        Phase.isStale, Return.isStale, Phase.route?, Return.route?, Phase.hasMissed, kind]

theorem counted_crashed :
    (⟨request, .returned .crashed⟩ : Call κ ν).counted = ⟨1, 0, 0, 0, 0⟩ := by
  cases request <;> rfl

theorem Look.counted (look : Look k now request sh p p' count) (stats : Stats) :
    (count stats).add (⟨request, p⟩ : Call κ ν).counted =
      stats.add (⟨request, p'⟩ : Call κ ν).counted := by
  cases look with
  | present _ _ _ =>
      simp only [countMissed_eq]
      rfl
  | lacking _ =>
      simp only [countMissed_eq]
      rfl
  | young _ _ =>
      simp only [countMissed_eq]
      rfl
  | overtaken _ =>
      simp only [countMissed_eq]
      rfl
  | _ => rfl

theorem Move.counted (move : Move k now c request e p sh p' sh' count) (stats : Stats) :
    (count stats).add (⟨request, p⟩ : Call κ ν).counted =
      stats.add (⟨request, p'⟩ : Call κ ν).counted := by
  cases move with
  | look look => exact look.counted stats
  | enter from_ _ _ => rcases from_ with rfl | rfl <;> rfl
  | turnBack from_ _ _ => rcases from_ with rfl | rfl <;> rfl
  | refuse _ _ _ =>
      simp only [countFallen_eq]
      rw [counted_fallen rfl]
      rfl
  | fail _ error =>
      rw [counted_fallen (isLoadError_of_loadError? error), countFallen_eq]
      rfl
  | giveUp _ =>
      simp only [countFallen_eq]
      rw [counted_fallen rfl]
      rfl
  | die _ _ => rw [counted_crashed]; rfl
  | nameless _ _ => rw [counted_crashed]; rfl
  | keyless _ => rw [counted_crashed]; rfl
  | leave =>
      simp only [countMissed_eq]
      rfl
  | _ => rfl

/-- Every counter is the sum of what all calls have counted. -/
theorem counted_run (k : Cache κ ν) (start : Nat) (events : List (Event κ ν)) (counter : Stats → Nat)
    (additive : ∀ a b, counter (a.add b) = counter a + counter b) (none : counter Stats.none = 0) :
    counter (k.run (State.empty start) events).stats =
      total (fun call => counter call.counted) (k.run (State.empty start) events).calls := by
  refine tally_run ?_ none (fun _ => none) start events
  intro now c request e p p' sh sh' count move stats
  rw [← additive, ← additive, move.counted]

/-! ## Calls that have returned -/

/-- A call that crashed has left the gate poisoned. -/
def Warned (poisoned : Bool) : Phase κ ν → Prop
  | .leaving .crashed => False
  | .returned .crashed => poisoned = true
  | _ => True

theorem Move.warned (move : Move k now c request e p sh p' sh' count)
    (warned : Warned sh.gate.poisoned p) : Warned sh'.gate.poisoned p' := by
  cases move with
  | look look => cases look <;> trivial
  | @refuse _ previous _ _ _ _ => cases previous <;> trivial
  | @fail _ _ _ previous _ _ _ => cases previous <;> trivial
  | @giveUp _ _ previous _ _ => cases previous <;> trivial
  | die _ _ => exact rfl
  | nameless _ _ => exact rfl
  | keyless _ => exact rfl
  | @leave r _ =>
      cases r with
      | crashed => exact warned.elim
      | _ => trivial
  | _ => trivial

omit [DecidableEq κ] in
theorem Warned.grow {before after : Bool} (warned : Warned before p)
    (grows : before = true → after = true) : Warned after p := by
  unfold Warned at warned ⊢
  split at warned
  · exact warned
  · exact grows warned
  · trivial

theorem Step.warned (step : Step k m e after)
    (warned : ∀ call ∈ m.calls, Warned m.gate.poisoned call.phase) :
    ∀ call ∈ after.calls, Warned after.gate.poisoned call.phase := by
  intro call among
  obtain ⟨i, there⟩ := List.mem_iff_getElem?.mp among
  rcases step.call_cases there with fresh | before | ⟨p, count, before, move, _⟩
  · rw [fresh]
    trivial
  · exact (warned call (List.mem_of_getElem? before)).grow step.poisoned
  · exact move.warned (warned _ (List.mem_of_getElem? before))

/-- A call that is served a snapshot without its key was asked for a key that the snapshot lacks. -/
def Lacks (k : Cache κ ν) (request : Request κ) : Phase κ ν → Prop
  | .judge need s => need = request.need true ∧ (need.limit? k.settings s).isSome = true
  | .returned (.served .lacking s) => ∃ key, request = .get key ∧ s.lookup key = none
  | .leaving (.served .lacking _) => False
  | _ => True

theorem Look.lacks (look : Look k now request sh p p' count) (lacks : Lacks k request p) :
    Lacks k request p' := by
  cases look with
  | see _ _ limited => exact ⟨rfl, limited⟩
  | @lacking key s _ =>
      obtain ⟨need, limited⟩ := lacks
      cases request with
      | get key' =>
          cases need
          refine ⟨key, rfl, ?_⟩
          simpa [Need.limit?] using limited
      | _ => cases need
  | _ => trivial

theorem Move.lacks (move : Move k now c request e p sh p' sh' count) (lacks : Lacks k request p) :
    Lacks k request p' := by
  cases move with
  | look look => exact look.lacks lacks
  | @refuse reason previous _ _ _ _ => cases previous <;> trivial
  | @fail _ _ _ previous _ _ _ => cases previous <;> trivial
  | @giveUp _ _ previous _ _ => cases previous <;> trivial
  | @leave r _ =>
      cases r with
      | served route s =>
          cases route with
          | lacking => exact lacks.elim
          | _ => trivial
      | _ => trivial
  | _ => trivial

theorem Step.lacks (step : Step k m e after)
    (lacks : ∀ call ∈ m.calls, Lacks k call.request call.phase) :
    ∀ call ∈ after.calls, Lacks k call.request call.phase := by
  intro call among
  obtain ⟨i, there⟩ := List.mem_iff_getElem?.mp among
  rcases step.call_cases there with fresh | before | ⟨p, count, before, move, _⟩
  · rw [fresh]
    trivial
  · exact lacks call (List.mem_of_getElem? before)
  · exact move.lacks (lacks _ (List.mem_of_getElem? before))

/-- What a call has counted, once it has returned through a clean gate. -/
structure Balanced (k : Cache κ ν) (call : Call κ ν) : Prop where
  hits : call.counted.hits + call.counted.loads +
    (call.returnedAs fun _ r => r.route? = some .inFlight).toNat +
    (call.returnedAs fun request r => request.isGet && decide (r.route? = some .lacking) &&
      (request.answer k.keyText r).isNotFound).toNat = 1
  loads : call.counted.loads =
    (decide (call.phase.route? = some .reloaded)).toNat + call.counted.loadFailures
  staleServed : call.counted.staleServed +
    (call.returnedAs fun request r => (request.answer k.keyText r).isOutage).toNat =
    (call.returnedAs fun _ r => r.route? = some .inFlight).toNat + call.counted.loadFailures
  misses : call.counted.misses = (call.returnedAs fun request r =>
    request.isGet && (request.answer k.keyText r).isNotFound).toNat

theorem unmet?_served (k : Cache κ ν) (request : Request κ) (route : Route) (s : Snapshot κ ν) :
    (request.unmet? (.served route s)).isSome =
      (request.isGet && (request.answer k.keyText (.served route s)).isNotFound) := by
  cases request with
  | get key => cases found : s.lookup key <;>
      simp [Request.unmet?, Request.answer, Request.isGet, Answer.isNotFound, found]
  | _ => rfl

theorem not_outage_of_served (k : Cache κ ν) (request : Request κ) (route : Route)
    (s : Snapshot κ ν) : (request.answer k.keyText (.served route s)).isOutage = false := by
  cases request with
  | get key => cases found : s.lookup key <;> simp [Request.answer, Answer.isOutage, found]
  | _ => rfl

theorem balanced_of_returned {r : Return κ ν} (sound : Sound k sh (.returned r))
    (lacks : Lacks k request (.returned r)) (clean : sh.gate.poisoned = false) (whole : r ≠ .crashed) :
    Balanced k ⟨request, .returned r⟩ := by
  cases r with
  | served route s =>
      have missed := unmet?_served k request route s
      have outage := not_outage_of_served k request route s
      have looked : route = .lacking → (request.unmet? (.served route s)).isSome = true := by
        rintro rfl
        obtain ⟨key, rfl, absent⟩ := lacks
        simp [Request.unmet?, absent]
      cases route <;> constructor <;>
        simp_all [Call.counted, Call.returnedAs, Phase.hasBegun, Return.hasBegun, Phase.hasFailed,
          Return.hasFailed, Phase.isStale, Return.isStale, Phase.route?, Return.route?, Phase.hasMissed]
  | failed error =>
      have kind : isLoadError error = true := by
        rcases sound with ⟨_, poisoned⟩ | kind
        · cases clean.symm.trans poisoned
        · exact kind
      have answer : request.answer k.keyText (.failed error : Return κ ν) = .error error := by
        cases request <;> rfl
      have met : request.unmet? (.failed error : Return κ ν) = none := by
        cases request <;> rfl
      cases error with
      | unavailable | timeout =>
          constructor <;> simp [Call.counted, Call.returnedAs, Phase.hasBegun, Return.hasBegun,
            Phase.hasFailed, Return.hasFailed, Phase.isStale, Return.isStale, Phase.route?,
            Return.route?, Phase.hasMissed, answer, met, Answer.isOutage, Answer.isNotFound, isLoadError]
      | _ => cases kind
  | crashed => exact absurd rfl whole

/-! ## Sums over all calls -/

omit [DecidableEq κ] in
theorem total_congr {f g : Call κ ν → Nat} {calls : List (Call κ ν)}
    (same : ∀ call ∈ calls, f call = g call) : total f calls = total g calls := by
  induction calls with
  | nil => rfl
  | cons call rest ih =>
      rw [List.forall_mem_cons] at same
      rw [total, total, same.1, ih same.2]

omit [DecidableEq κ] in
theorem total_add (f g : Call κ ν → Nat) (calls : List (Call κ ν)) :
    total (fun call => f call + g call) calls = total f calls + total g calls := by
  induction calls with
  | nil => rfl
  | cons call rest ih =>
      simp only [total, ih]
      omega

omit [DecidableEq κ] in
theorem total_one (calls : List (Call κ ν)) : total (fun _ => 1) calls = calls.length := by
  induction calls with
  | nil => rfl
  | cons call rest ih => rw [total, ih, List.length_cons, Nat.add_comm]

/-! ## What was installed -/

theorem Move.installed (move : Move k now c request e p sh p' sh' count) :
    (decide (p'.route? = some .reloaded)).toNat =
      (decide (p.route? = some .reloaded)).toNat + p.isPublish.toNat := by
  cases move with
  | look look => cases look <;> rfl
  | enter from_ _ _ => rcases from_ with rfl | rfl <;> rfl
  | turnBack from_ _ _ => rcases from_ with rfl | rfl <;> rfl
  | @refuse reason previous _ _ _ _ => cases previous <;> rfl
  | @fail _ _ _ previous _ _ _ => cases previous <;> rfl
  | @giveUp _ _ previous _ _ => cases previous <;> rfl
  | _ => rfl

theorem Move.noted (move : Move k now c request e p sh p' sh' count)
    (found : m.calls[c]? = some ⟨request, p⟩) :
    (installation? m e).toList.length = p.isPublish.toNat := by
  have own : (installation? m (.step c)).toList.length = p.isPublish.toNat := by
    cases p <;> simp [installation?, found, Phase.isPublish]
  cases move with
  | refuse _ _ _ => rfl
  | giveUp _ => rfl
  | _ => exact own

/-- The installations of a run are as many as the calls that reloaded. -/
theorem installations_run (k : Cache κ ν) (start : Nat) (events : List (Event κ ν)) :
    (k.record installation? (State.empty start) events).length =
      total (fun call => (decide (call.phase.route? = some .reloaded)).toNat)
        (k.run (State.empty start) events).calls := by
  refine record_run
    (P := fun notes m => notes.length =
      total (fun call => (decide (call.phase.route? = some .reloaded)).toNat) m.calls) ?_ rfl events
    (heeds_true k (State.empty start) events)
  intro notes m e after counted _ next
  rw [List.length_append]
  cases step_of_next? next with
  | call request =>
      rw [total_append]
      exact counted
  | clock reading => exact counted
  | finish how lines running => exact counted
  | @move e c request p p' count after found move calls now stats =>
      have moved := move.installed
      have replaced := total_set ⟨request, p'⟩
        (fun call => (decide (call.phase.route? = some .reloaded)).toNat) found
      simp only at replaced
      have noted := move.noted found
      rw [calls]
      omega

/-- Once every call has returned, and none through a poisoned gate, the counters add up: each call
was a hit, began a load, or was served by one of the two routes that count neither; each load was
installed or failed; and each snapshot served stale stands for a load in flight or a failed one. -/
theorem counters_add_up (k : Cache κ ν) (start : Nat) (events : List (Event κ ν))
    (clean : (k.run (State.empty start) events).gate.poisoned = false)
    (returned : ∀ call ∈ (k.run (State.empty start) events).calls, call.phase.hasReturned = true) :
    let m := k.run (State.empty start) events
    let inFlight := m.calls.countP (Call.returnedAs fun _ r => r.route? = some .inFlight)
    let lacking := m.calls.countP (Call.returnedAs fun request r =>
      request.isGet && decide (r.route? = some .lacking) && (request.answer k.keyText r).isNotFound)
    let outages := m.calls.countP (Call.returnedAs fun request r =>
      (request.answer k.keyText r).isOutage)
    m.stats.hits + m.stats.loads + inFlight + lacking = m.calls.length ∧
    m.stats.loads =
      (k.record installation? (State.empty start) events).length + m.stats.loadFailures ∧
    m.stats.staleServed + outages = inFlight + m.stats.loadFailures ∧
    m.stats.misses = m.calls.countP (Call.returnedAs fun request r =>
      request.isGet && (request.answer k.keyText r).isNotFound) := by
  intro m inFlight lacking outages
  have sourced := (consistent_run k start events).sourced
  have lacks : ∀ call ∈ m.calls, Lacks k call.request call.phase :=
    run_keeps (P := fun m => ∀ call ∈ m.calls, Lacks k call.request call.phase)
      (fun _ _ _ lacks step => step.lacks lacks) (by simp [State.empty]) events
  have warned : ∀ call ∈ m.calls, Warned m.gate.poisoned call.phase :=
    run_keeps (P := fun m => ∀ call ∈ m.calls, Warned m.gate.poisoned call.phase)
      (fun _ _ _ warned step => step.warned warned) (by simp [State.empty]) events
  have balanced : ∀ call ∈ m.calls, Balanced k call := by
    intro call among
    obtain ⟨i, there⟩ := List.mem_iff_getElem?.mp among
    obtain ⟨request, phase⟩ := call
    cases phase with
    | returned r =>
        refine balanced_of_returned (sourced.sound i _ there) (lacks _ among) clean ?_
        rintro rfl
        cases clean.symm.trans (warned _ among)
    | _ => cases returned _ among
  have hits := counted_run k start events Stats.hits (fun _ _ => rfl) rfl
  have loads := counted_run k start events Stats.loads (fun _ _ => rfl) rfl
  have failures := counted_run k start events Stats.loadFailures (fun _ _ => rfl) rfl
  have stale := counted_run k start events Stats.staleServed (fun _ _ => rfl) rfl
  have misses := counted_run k start events Stats.misses (fun _ _ => rfl) rfl
  have installed := installations_run k start events
  have each := total_congr fun call among => (balanced call among).hits
  have begun := total_congr fun call among => (balanced call among).loads
  have served := total_congr fun call among => (balanced call among).staleServed
  have missed := total_congr fun call among => (balanced call among).misses
  simp only [total_add, total_one, total_toNat] at each begun served missed
  refine ⟨?_, ?_, ?_, ?_⟩
  · rw [hits, loads]
    exact each
  · rw [loads, failures, installed, total_toNat]
    exact begun
  · rw [stale, failures]
    exact served
  · rw [misses]
    exact missed

end Tally

/-- One call lacks its key, one is a hit, and one is served while the load of another hangs. -/
def busy : List (Event Nat Nat) :=
  [.call (.get 9), .step 1, .step 1, .call .all, .step 2, .step 2, .clock 300, .call .refresh] ++
    List.replicate 5 (.step 3) ++ .call .all :: List.replicate 4 (.step 4) ++ [.expire 3, .step 3]

theorem busy_adds_up :
    let m := plainCache.run (State.empty 0) (supply ++ busy)
    m.stats = ⟨2, 1, 2, 1, 1⟩ ∧
      m.stats.misses = m.calls.countP (Call.returnedAs fun request r =>
        request.isGet && (request.answer plainCache.keyText r).isNotFound) := by
  intro m
  have balance := counters_add_up plainCache 0 (supply ++ busy) (by decide +kernel) (by decide +kernel)
  exact ⟨by decide +kernel, balance.2.2.2⟩

end Telemetry.Cache
