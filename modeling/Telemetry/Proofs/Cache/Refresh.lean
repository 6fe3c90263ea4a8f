import Telemetry.Proofs.Cache.Freshness
import Telemetry.Proofs.Cache.History

/-!
# Forced refreshes

A call that reloads is launched with a load: one that is started for it, unless
an earlier call has given up waiting for a load that is still parked; then the
call takes that one over.  A refresh that comes back has been launched exactly
once, and what it brings back from its reload is what that load delivered.
-/
set_option autoImplicit false
namespace Telemetry.Cache

variable {κ ν : Type}

/-- A call that reloads has got a load to wait for. -/
structure Launch (κ : Type) where
  call : Nat
  request : Request κ
  load : Nat
  /-- The load was started for the call, and not taken over. -/
  own : Bool
  deriving DecidableEq, Repr

/-- The launch that an event brings about. -/
def launch? (k : Cache κ ν) (m : State κ ν) : Event κ ν → Option (Launch κ)
  | .step c =>
    match m.calls[c]? with
    | some ⟨request, .load _⟩ =>
      match m.parked with
      | some load => some ⟨c, request, load, false⟩
      | none => if k.lacksWorker then none else some ⟨c, request, m.loads.length, true⟩
    | _ => none
  | _ => none

/-- The load that a call gives up waiting for. -/
def givenUp? (m : State κ ν) : Event κ ν → Option Nat
  | .expire c =>
    match m.calls[c]? with
    | some call => call.phase.awaited?
    | none => none
  | _ => none

/-- The call is about to reload. -/
def Phase.isLoad : Phase κ ν → Bool
  | .load _ => true
  | _ => false

/-- Loads can be started. -/
def spawns (_ : State κ ν) : Event κ ν → Bool
  | .refuse .. => false
  | _ => true

def Launch.isRefresh [DecidableEq κ] (l : Launch κ) : Bool := l.request = .refresh

def Call.isRefresh [DecidableEq κ] (call : Call κ ν) : Bool := call.request = .refresh

section Launches
variable {k : Cache κ ν} {m : State κ ν} {e : Event κ ν} {c : Nat} {request : Request κ}
  {p : Phase κ ν} {l : Launch κ}

theorem launch?_eq_some (launched : k.launch? m e = some l) :
    e = .step l.call ∧ (∃ previous, m.calls[l.call]? = some ⟨l.request, .load previous⟩) ∧
    (l.own = false ∧ m.parked = some l.load ∨ l.own = true ∧ m.parked = none ∧
      k.lacksWorker = false ∧ l.load = m.loads.length) := by
  unfold launch? at launched
  split at launched
  · split at launched
    · next found =>
      split at launched
      · next parked =>
        cases Option.some.inj launched
        exact ⟨rfl, ⟨_, found⟩, .inl ⟨rfl, parked⟩⟩
      · next parked =>
        split at launched
        · cases launched
        · next has =>
          cases Option.some.inj launched
          exact ⟨rfl, ⟨_, found⟩, .inr ⟨rfl, parked, by simpa using has, rfl⟩⟩
    · cases launched
  · cases launched

theorem launch?_eq_none (found : m.calls[c]? = some ⟨request, p⟩)
    (idle : p.isLoad = false) : k.launch? m (.step c) = none := by
  cases p with
  | load previous => cases idle
  | _ => simp [launch?, found]

end Launches

/-! ## What a refresh has been launched with -/

/-- What is brought back from a reload is what the load delivered. -/
def Return.DrawsOn (load : Nat) : Return κ ν → Prop
  | .served route s => (Return.served route s).isStale = false → s.load = load
  | _ => True

/-- How far a refresh has got, and the launches that it has had. -/
def Asked (launches : List (Launch κ)) : Phase κ ν → Prop
  | .start | .load _ => launches = []
  | .queue need | .inspect need | .recheck need _ => need = .always ∧ launches = []
  | .awaiting load _ | .collected load _ _ => ∃ l, launches = [l] ∧ load = l.load
  | .publish s _ => ∃ l, launches = [l] ∧ s.load = l.load
  | .leaving r | .returned r => ∃ l, launches = [l] ∧ r.DrawsOn l.load
  | _ => False

/-- The refresh has been launched. -/
def Phase.isLaunched : Phase κ ν → Bool
  | .awaiting .. | .collected .. | .publish .. | .leaving _ | .returned _ => true
  | _ => false

theorem drawsOn_fallen (load : Nat) (previous : Option (Snapshot κ ν)) (e : CacheError) :
    (fallen previous e).DrawsOn load := by
  cases previous with
  | some s => exact nofun
  | none => trivial

section Machine
variable [DecidableEq κ] {k : Cache κ ν} {start now c : Nat} {request : Request κ}
  {e : Event κ ν} {p p' : Phase κ ν} {sh sh' : Shared κ ν} {count : Stats → Stats}
  {m after : State κ ν} {launches : List (Launch κ)} {events : List (Event κ ν)}

theorem Look.asked (look : Look k now .refresh sh p p' count) (asked : Asked launches p) :
    Asked launches p' := by
  cases look with
  | force _ => exact ⟨rfl, asked⟩
  | lack kind _ => exact absurd rfl kind
  | present kind _ _ => exact absurd rfl kind
  | see kind _ _ => exact absurd rfl kind
  | bare _ => exact asked.2
  | filled _ unlimited =>
      rw [asked.1] at unlimited
      cases unlimited
  | review _ _ => exact asked
  | confirm _ => exact asked.2
  | @lapse need s young =>
      rw [asked.1, holds_always] at young
      cases young
  | arrange _ => exact asked
  | _ => exact asked.elim

theorem Look.not_load (look : Look k now request sh p p' count) : p.isLoad = false := by
  cases look <;> rfl

theorem Move.asked (move : Move k m.now c .refresh e p m.shared p' sh' count)
    (found : m.calls[c]? = some ⟨.refresh, p⟩) (spawned : spawns m e = true)
    (clean : sh'.gate.poisoned = false) (asked : Asked launches p) :
    Asked (launches ++ (k.launch? m e).toList) p' := by
  have idle : p.isLoad = false → launches ++ (k.launch? m (.step c)).toList = launches := by
    intro other
    rw [launch?_eq_none found other, Option.toList_none, List.append_nil]
  cases move with
  | look look => rw [idle look.not_load]; exact look.asked asked
  | enter from_ _ _ =>
      rcases from_ with rfl | rfl
      · exact asked.elim
      · rw [idle rfl]
        exact asked
  | turnBack _ _ _ => cases clean
  | @resume load previous _ parked =>
      change m.parked = some load at parked
      have launched : k.launch? m (.step c) = some ⟨c, .refresh, load, false⟩ := by
        simp [launch?, found, parked]
      have none : launches = [] := asked
      rw [launched, none]
      exact ⟨_, rfl, rfl⟩
  | @begin previous _ parked has =>
      change m.parked = none at parked
      have launched : k.launch? m (.step c) = some ⟨c, .refresh, m.loads.length, true⟩ := by
        simp [launch?, found, parked, has]
      have none : launches = [] := asked
      rw [launched, none]
      exact ⟨_, rfl, rfl⟩
  | refuse _ _ _ => cases spawned
  | receive _ =>
      rw [idle rfl]
      exact asked
  | fail _ _ =>
      obtain ⟨l, own, _⟩ := asked
      rw [idle rfl]
      exact ⟨l, own, drawsOn_fallen _ _ _⟩
  | giveUp _ =>
      obtain ⟨l, own, _⟩ := asked
      exact ⟨l, by simp [own, launch?], drawsOn_fallen _ _ _⟩
  | die _ _ => cases clean
  | nameless _ _ => cases clean
  | keyless _ => cases clean
  | install =>
      obtain ⟨l, own, same⟩ := asked
      rw [idle rfl]
      exact ⟨l, own, fun _ => same⟩
  | leave =>
      rw [idle rfl]
      exact asked

/-! ## Along a run -/

/-- A launch at a move is one of the call that moves. -/
theorem Move.launch_eq (move : Move k m.now c request e p m.shared p' sh' count)
    (found : m.calls[c]? = some ⟨request, p⟩) {l : Launch κ} (launched : l ∈ (k.launch? m e).toList) :
    l.call = c ∧ l.request = request := by
  obtain ⟨rfl, ⟨previous, there⟩, _⟩ := launch?_eq_some (Option.mem_toList.mp launched)
  have same := move.eq_of_step
  subst same
  rw [found] at there
  cases there
  exact ⟨rfl, rfl⟩

theorem Step.loads_length (step : Step k m e after) :
    after.loads.length = m.loads.length + (k.launch? m e).toList.countP Launch.own := by
  cases step with
  | call request => rfl
  | clock reading => rfl
  | finish how lines running => exact List.length_set
  | @move e c request p p' count after found move calls still stats =>
      generalize shared : after.shared = sh' at move
      have same : after.loads = sh'.loads := congrArg Shared.loads shared
      have idle : p.isLoad = false → k.launch? m (.step c) = none := launch?_eq_none found
      rw [same]
      cases move with
      | look look => rw [idle look.not_load]; rfl
      | enter from_ _ _ => rcases from_ with rfl | rfl <;> rw [idle rfl] <;> rfl
      | turnBack from_ _ _ => rcases from_ with rfl | rfl <;> rw [idle rfl] <;> rfl
      | @resume load previous _ parked =>
          change m.parked = some load at parked
          simp [launch?, found, parked, State.shared]
      | @begin previous _ parked has =>
          change m.parked = none at parked
          simp [launch?, found, parked, has, State.shared]
      | @nameless previous _ parked lacks =>
          change m.parked = none at parked
          simp [launch?, found, parked, lacks, State.shared]
      | refuse _ _ _ => rfl
      | giveUp _ => rfl
      | receive _ => rw [idle rfl]; exact List.length_set
      | fail _ _ => rw [idle rfl]; exact List.length_set
      | die _ _ => rw [idle rfl]; exact List.length_set
      | _ => rw [idle rfl]; rfl

omit [DecidableEq κ] in
theorem Asked.length_eq (asked : Asked launches p) : launches.length = p.isLaunched.toNat := by
  cases p with
  | start => rw [show launches = [] from asked]; rfl
  | load previous => rw [show launches = [] from asked]; rfl
  | queue need => rw [asked.2]; rfl
  | inspect need => rw [asked.2]; rfl
  | recheck need s => rw [asked.2]; rfl
  | judge need s => exact asked.elim
  | approach need => exact asked.elim
  | occupied need => exact asked.elim
  | _ =>
      obtain ⟨l, own, _⟩ := asked
      rw [own]
      rfl

/-- The launches so far are those of calls that were made, and each refresh has had its own. -/
structure Accompanied (k : Cache κ ν) (launches : List (Launch κ)) (m : State κ ν) : Prop where
  called : ∀ l ∈ launches, l.call < m.calls.length
  asked : ∀ (i : Nat) (call : Call κ ν), m.calls[i]? = some call → call.request = .refresh →
    Asked (launches.filter fun l => l.call = i) call.phase
  tally : launches.countP Launch.isRefresh =
    total (fun call => (call.isRefresh && call.phase.isLaunched).toNat) m.calls

theorem Accompanied.call (accompanied : Accompanied k launches m) (request : Request κ) :
    Accompanied k launches { m with calls := m.calls ++ [⟨request, .start⟩] } := by
  refine ⟨?_, ?_, ?_⟩
  · intro l among
    have before := accompanied.called l among
    simp only [List.length_append]
    omega
  · intro i call there kind
    rcases append_cases there with ⟨rfl, rfl⟩ | before
    · have none : (launches.filter fun l => l.call = m.calls.length) = [] := by
        rw [List.filter_eq_nil_iff]
        intro l among
        simp [Nat.ne_of_lt (accompanied.called l among)]
      exact none
    · exact accompanied.asked i call before kind
  · rw [accompanied.tally, total_append]
    simp [total, Phase.isLaunched]

theorem Accompanied.move (accompanied : Accompanied k launches m)
    (found : m.calls[c]? = some ⟨request, p⟩)
    (move : Move k m.now c request e p m.shared p' sh' count) (spawned : spawns m e = true)
    (clean : sh'.gate.poisoned = false) (calls : after.calls = m.calls.set c ⟨request, p'⟩) :
    Accompanied k (launches ++ (k.launch? m e).toList) after := by
  have bound := (List.getElem?_eq_some_iff.mp found).1
  have ofMover := fun {l} => move.launch_eq found (l := l)
  have asked : request = .refresh →
      Asked ((launches.filter fun l => l.call = c) ++ (k.launch? m e).toList) p' := by
    rintro rfl
    exact move.asked found spawned clean (accompanied.asked c _ found rfl)
  refine ⟨?_, ?_, ?_⟩
  · intro l among
    rw [calls, List.length_set]
    rcases List.mem_append.mp among with before | last
    · exact accompanied.called l before
    · rw [(ofMover last).1]
      exact bound
  · intro i call there kind
    rw [calls] at there
    rw [List.filter_append]
    rcases set_cases there with ⟨rfl, rfl⟩ | ⟨other, before⟩
    · have own : ((k.launch? m e).toList.filter fun l => l.call = i) = (k.launch? m e).toList := by
        rw [List.filter_eq_self]
        intro l among
        simp [(ofMover among).1]
      rw [own]
      exact asked kind
    · have none : ((k.launch? m e).toList.filter fun l => l.call = i) = [] := by
        rw [List.filter_eq_nil_iff]
        intro l among
        simp [(ofMover among).1, Ne.symm other]
      rw [none, List.append_nil]
      exact accompanied.asked i call before kind
  · have replaced := total_set ⟨request, p'⟩
      (fun call : Call κ ν => (call.isRefresh && call.phase.isLaunched).toNat) found
    have refreshes (q : Phase κ ν) :
        Call.isRefresh ⟨request, q⟩ = decide (request = .refresh) := rfl
    rw [List.countP_append, accompanied.tally, calls]
    -- a launch at the move is the mover's, so it tells only if the mover is a refresh
    by_cases kind : request = .refresh
    · subst kind
      have before := Asked.length_eq (p := p) (accompanied.asked c _ found rfl)
      have then_ := (asked rfl).length_eq
      have all : (k.launch? m e).toList.countP Launch.isRefresh = (k.launch? m e).toList.length := by
        rw [List.countP_eq_length]
        intro l among
        simp [Launch.isRefresh, (ofMover among).2]
      rw [List.length_append] at then_
      simp only [refreshes, decide_true, Bool.true_and] at replaced
      omega
    · have none : (k.launch? m e).toList.countP Launch.isRefresh = 0 := by
        rw [List.countP_eq_zero]
        intro l among
        simp [Launch.isRefresh, (ofMover among).2, kind]
      simp only [refreshes, kind, decide_false, Bool.false_and, Bool.toNat_false] at replaced
      omega

theorem Accompanied.step (accompanied : Accompanied k launches m) (spawned : spawns m e = true)
    (step : Step k m e after) (clean : after.gate.poisoned = false) :
    Accompanied k (launches ++ (k.launch? m e).toList) after := by
  cases step with
  | call request =>
      change Accompanied k (launches ++ []) _
      rw [List.append_nil]
      exact accompanied.call request
  | clock reading =>
      change Accompanied k (launches ++ []) _
      rw [List.append_nil]
      exact ⟨accompanied.called, accompanied.asked, accompanied.tally⟩
  | finish how lines running =>
      change Accompanied k (launches ++ []) _
      rw [List.append_nil]
      exact ⟨accompanied.called, accompanied.asked, accompanied.tally⟩
  | move found move calls still stats => exact accompanied.move found move spawned clean calls

theorem accompanied_run (k : Cache κ ν) (start : Nat) (events : List (Event κ ν))
    (spawned : k.heeds spawns (State.empty start) events = true)
    (clean : (k.run (State.empty start) events).gate.poisoned = false) :
    Accompanied k (k.record k.launch? (State.empty start) events)
      (k.run (State.empty start) events) := by
  refine record_run
    (P := fun launches m => m.gate.poisoned = false → Accompanied k launches m)
    ?_ ?_ events spawned clean
  · intro launches m e after accompanied spawned next clean
    have step := step_of_next? next
    exact (accompanied (step.clean clean)).step spawned step clean
  · intro _
    exact ⟨nofun, nofun, rfl⟩

/-- The loads are those that were started for a launch, each for one. -/
theorem owned_run (k : Cache κ ν) (start : Nat) (events : List (Event κ ν)) :
    ((k.record k.launch? (State.empty start) events).filter Launch.own).map Launch.load =
      List.range (k.run (State.empty start) events).loads.length := by
  refine record_run
    (P := fun launches m => (launches.filter Launch.own).map Launch.load = List.range m.loads.length)
    ?_ rfl events (heeds_true k (State.empty start) events)
  intro launches m e after numbered _ next
  rw [(step_of_next? next).loads_length, List.filter_append, List.map_append, numbered]
  cases launched : k.launch? m e with
  | none => simp
  | some l =>
      obtain ⟨_, _, ⟨taken, _⟩ | ⟨own, _, _, last⟩⟩ := launch?_eq_some launched
      · simp [taken]
      · simp [own, last, List.range_succ]

/-! ## When the load of a launch was started -/

theorem Step.calls_length_le (step : Step k m e after) : m.calls.length ≤ after.calls.length := by
  cases step with
  | call request => simp
  | clock reading => exact Nat.le_refl _
  | finish how lines running => exact Nat.le_refl _
  | move found move calls still stats => rw [calls, List.length_set]

theorem lengths_le_run (k : Cache κ ν) (m : State κ ν) (events : List (Event κ ν)) :
    m.calls.length ≤ (k.run m events).calls.length ∧
      m.loads.length ≤ (k.run m events).loads.length := by
  refine run_keeps
    (P := fun later => m.calls.length ≤ later.calls.length ∧ m.loads.length ≤ later.loads.length)
    ?_ ⟨Nat.le_refl _, Nat.le_refl _⟩ events
  rintro later e after ⟨calls, loads⟩ step
  rw [step.loads_length]
  exact ⟨Nat.le_trans calls step.calls_length_le, Nat.le_trans loads (Nat.le_add_right _ _)⟩

/-- A load started for a call is newer than all loads that there were before the call. -/
theorem loads_le_of_own {before early : List (Event κ ν)} {l : Launch κ}
    (launched : k.launch? (k.run (State.empty start) before) e = some l) (own : l.own = true)
    (prefix_ : before <+: events) (earlier : early <+: events)
    (uncalled : (k.run (State.empty start) early).calls.length ≤ l.call) :
    (k.run (State.empty start) early).loads.length ≤ l.load := by
  obtain ⟨_, ⟨previous, found⟩, ⟨taken, _⟩ | ⟨_, _, _, last⟩⟩ := launch?_eq_some launched
  · cases own.symm.trans taken
  · have called := (List.getElem?_eq_some_iff.mp found).1
    rw [last]
    rcases List.prefix_or_prefix_of_prefix earlier prefix_ with ⟨rest, rfl⟩ | ⟨rest, rfl⟩
    · rw [run_append]
      exact (lengths_le_run k _ rest).2
    · rw [run_append] at uncalled
      have grown := (lengths_le_run k (k.run (State.empty start) before) rest).1
      omega

/-! ## Where a parked load comes from -/

theorem Step.parked (step : Step k m e after) {load : Nat} (parked : after.parked = some load) :
    m.parked = some load ∨ givenUp? m e = some load := by
  cases step with
  | call request => exact .inl parked
  | clock reading => exact .inl parked
  | finish how lines running => exact .inl parked
  | @move e c request p p' count after found move calls still stats =>
      generalize shared : after.shared = sh' at move
      have same : after.parked = sh'.parked := congrArg Shared.parked shared
      rw [same] at parked
      cases move with
      | giveUp _ => exact .inr (by simpa [givenUp?, found, Phase.awaited?] using parked)
      | resume _ => cases parked
      | _ => exact .inl parked

theorem givenUp_of_parked (unparked : m.parked = none) (events : List (Event κ ν)) {load : Nat}
    (parked : (k.run m events).parked = some load) : load ∈ k.record givenUp? m events := by
  have known : ∀ load, (k.run m events).parked = some load → load ∈ k.record givenUp? m events := by
    refine record_run (P := fun notes m => ∀ load, m.parked = some load → load ∈ notes) ?_
      (by simp [unparked]) events (heeds_true k m events)
    intro notes m e after known _ next load parked
    rcases (step_of_next? next).parked parked with before | noted
    · exact List.mem_append_left _ (known load before)
    · exact List.mem_append_right _ (Option.mem_toList.mpr noted)
  exact known load parked

/-- A launch without a load of its own finds one parked that an earlier call gave up. -/
theorem parked_of_not_own {l : Launch κ} {start : Nat}
    (launched : l ∈ k.record k.launch? (State.empty start) events) (taken : l.own = false) :
    ∃ before, before <+: events ∧ (k.run (State.empty start) before).parked = some l.load ∧
      l.load ∈ k.record givenUp? (State.empty start) before := by
  obtain ⟨before, e, early, noted⟩ := exists_of_mem_record launched
  obtain ⟨_, _, ⟨_, parked⟩ | ⟨own, _⟩⟩ := launch?_eq_some noted
  · exact ⟨before, (List.prefix_append before [e]).trans early, parked,
      givenUp_of_parked rfl before parked⟩
  · cases own.symm.trans taken

omit [DecidableEq κ] in
theorem countP_split (launches : List (Launch κ)) (among that : Launch κ → Bool) :
    launches.countP among = launches.countP (fun l => among l && that l) +
      launches.countP (fun l => among l && !that l) := by
  rw [List.countP_eq_countP_filter_add launches among that, List.countP_filter, List.countP_filter]

/-- With loads that can be started and no crash: a refresh that returns has been launched once.  If a
load was started for it, then after the call was made; if not, one that had been given up was parked
when it came to reload.  What it brings back, unless counted as stale, is what that load delivered.
So refreshes add as many loads as there are of them, but for those that took one over. -/
theorem refreshes_load (k : Cache κ ν) (start : Nat) (events : List (Event κ ν))
    (spawned : k.heeds spawns (State.empty start) events = true)
    (clean : (k.run (State.empty start) events).gate.poisoned = false) :
    let m := k.run (State.empty start) events
    let launches := k.record k.launch? (State.empty start) events
    (∀ c r, m.calls[c]? = some ⟨.refresh, .returned r⟩ →
      ∃ l, launches.filter (fun l => l.call = c) = [l] ∧
        (l.own = true → ∀ before, before <+: events →
          (k.run (State.empty start) before).calls.length ≤ c →
          (k.run (State.empty start) before).loads.length ≤ l.load) ∧
        (l.own = false → ∃ before, before <+: events ∧
          (k.run (State.empty start) before).parked = some l.load ∧
          l.load ∈ k.record givenUp? (State.empty start) before) ∧
        ∀ route s, r = .served route s → (Return.served route s).isStale = false →
          s.load = l.load ∧ Genuine k m.loads s) ∧
    m.stats.staleServed = m.calls.countP (fun call => call.phase.isStale) ∧
    (launches.filter Launch.own).map Launch.load = List.range m.loads.length ∧
    ((∀ call ∈ m.calls, call.isRefresh = true → call.phase.hasReturned = true) →
      m.loads.length + launches.countP (fun l => l.isRefresh && !l.own) =
        m.calls.countP Call.isRefresh + launches.countP (fun l => !l.isRefresh && l.own)) ∧
    (k.record givenUp? (State.empty start) events = [] → ∀ l ∈ launches, l.own = true) := by
  intro m launches
  have accompanied : Accompanied k launches m := accompanied_run k start events spawned clean
  refine ⟨?_, staleServed_run k start events, owned_run k start events, ?_, ?_⟩
  · intro c r found
    obtain ⟨l, own, draws⟩ := accompanied.asked c _ found rfl
    have among : l ∈ launches ∧ l.call = c := by
      have member : l ∈ launches.filter fun l => l.call = c := by simp [own]
      simpa using List.mem_filter.mp member
    refine ⟨l, own, ?_, parked_of_not_own among.1, ?_⟩
    · intro started before early uncalled
      obtain ⟨before', e, early', noted⟩ := exists_of_mem_record among.1
      rw [← among.2] at uncalled
      exact loads_le_of_own noted started ((List.prefix_append before' [e]).trans early') early
        uncalled
    · rintro route s rfl fresh
      obtain ⟨genuine, _⟩ := (consistent_run k start events).sourced.sound c _ found
      exact ⟨draws fresh, genuine⟩
  · intro returned
    have launched : launches.countP Launch.isRefresh = m.calls.countP Call.isRefresh := by
      rw [accompanied.tally, total_toNat]
      apply List.countP_congr
      intro call among
      constructor
      · intro both
        exact (Bool.and_eq_true_iff.mp both).1
      · intro refreshes
        have done := returned call among refreshes
        obtain ⟨request, p⟩ := call
        cases p with
        | returned r => simpa [Phase.isLaunched] using refreshes
        | _ => cases done
    have loads : launches.countP Launch.own = m.loads.length := by
      have numbered := congrArg List.length (owned_run k start events)
      rwa [List.length_map, ← List.countP_eq_length_filter, List.length_range] at numbered
    -- both counts share the launches of refreshes that got loads of their own
    have refreshes := countP_split launches Launch.isRefresh Launch.own
    have owned := countP_split launches Launch.own Launch.isRefresh
    simp only [Bool.and_comm] at refreshes owned ⊢
    omega
  · intro patient l launched
    by_contra taken
    rw [Bool.not_eq_true] at taken
    obtain ⟨before, early, _, givenUp⟩ := parked_of_not_own launched taken
    obtain ⟨rest, rfl⟩ := early
    rw [record_append] at patient
    rw [(List.append_eq_nil_iff.mp patient).1] at givenUp
    cases givenUp

end Machine

/-- A second load is asked for and delivered. -/
def forced : List (Event Nat Nat) :=
  .call .refresh :: List.replicate 5 (.step 1) ++
    .finish 1 (.delivered [8]) [] :: List.replicate 4 (.step 1)

theorem forced_loads_anew :
    let events := supply ++ forced
    let m := plainCache.run (State.empty 0) events
    plainCache.heeds spawns (State.empty 0) events = true ∧ m.gate.poisoned = false ∧
    m.calls[1]? = some ⟨.refresh, .returned (.served .reloaded ⟨[(8, 8)], 0, 1⟩)⟩ ∧
    ∃ l, (plainCache.record plainCache.launch? (State.empty 0) events).filter (fun l => l.call = 1) =
        [l] ∧ l.own = true ∧ (plainCache.run (State.empty 0) supply).loads.length ≤ 1 ∧
      1 = l.load := by
  intro events m
  have spawned : plainCache.heeds spawns (State.empty 0) events = true := by decide +kernel
  have clean : m.gate.poisoned = false := by decide +kernel
  have found : m.calls[1]? = some ⟨.refresh, .returned (.served .reloaded ⟨[(8, 8)], 0, 1⟩)⟩ := by
    decide +kernel
  obtain ⟨launched, _, _, _, own⟩ := refreshes_load plainCache 0 events spawned clean
  obtain ⟨l, once, after, _, draws⟩ := launched 1 _ found
  have among : l ∈ plainCache.record plainCache.launch? (State.empty 0) events := by
    have member : l ∈ (plainCache.record plainCache.launch? (State.empty 0) events).filter
        fun l => l.call = 1 := by simp [once]
    exact List.mem_of_mem_filter member
  have started : l.own = true := own (by decide +kernel) l among
  have newer := after started supply (List.prefix_append _ _) (by decide +kernel)
  obtain ⟨load, _⟩ := draws _ _ rfl rfl
  rw [← load] at newer
  exact ⟨spawned, clean, found, l, once, started, newer, load⟩

/-- A load is given up and then ends, and a refresh comes. -/
def outdated : List (Event Nat Nat) :=
  .call .all :: List.replicate 4 (.step 0) ++ [.expire 0, .step 0, .finish 0 (.delivered [7]) []]

/-- The refresh starts no load, and brings back one that was there before it. -/
theorem outdated_refreshed :
    let before := plainCache.run (State.empty 0) outdated
    let events := outdated ++ .call .refresh :: List.replicate 8 (.step 1)
    let m := plainCache.run (State.empty 0) events
    plainCache.heeds spawns (State.empty 0) events = true ∧ m.gate.poisoned = false ∧
    before.calls.length = 1 ∧
    m.calls[1]? = some ⟨.refresh, .returned (.served .reloaded ⟨[(7, 7)], 0, 0⟩)⟩ ∧
    m.stats.staleServed = 0 ∧ before.loads.length = 1 ∧ m.loads.length = 1 := by
  decide +kernel

end Telemetry.Cache
