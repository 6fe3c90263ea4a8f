import Telemetry.Proofs.Cache.DeadLoads
import Telemetry.Proofs.Cache.Poisoned
import Telemetry.Proofs.Cache.Refresh

/-!
# Loads that die

Without a timeout a load that dies takes its caller with it and leaves the gate poisoned: what
is installed stays, and no load is started any more.  With a timeout it is a load that failed.
-/
set_option autoImplicit false
namespace Telemetry.Cache

variable {κ ν : Type}

/-! ## The call that waits for a dead load -/

section Waiting
variable [DecidableEq κ] {k : Cache κ ν} {start now c i load : Nat} {request : Request κ}
  {e : Event κ ν} {p p' : Phase κ ν} {sh sh' : Shared κ ν} {count : Stats → Stats}
  {m m₀ m₁ after : State κ ν} {previous : Option (Snapshot κ ν)} {events : List (Event κ ν)}

/-- The call waits for a load that has died. -/
structure Bereft (c : Nat) (request : Request κ) (load : Nat) (previous : Option (Snapshot κ ν))
    (m : State κ ν) : Prop where
  awaits : m.calls[c]? = some ⟨request, .awaiting load previous⟩
  died : m.loads[load]? = some (.ended .died)

/-- Without a timeout nobody gives up a load. -/
theorem Move.unparked (move : Move k now c request e p sh p' sh' count)
    (unlimited : k.settings.loadTimeout = none) (unparked : sh.parked = none) :
    sh'.parked = none := by
  cases move with
  | giveUp limited => exact absurd (unlimited.symm.trans limited) nofun
  | resume _ => rfl
  | _ => exact unparked

theorem unparked_run (unlimited : k.settings.loadTimeout = none) :
    (k.run (State.empty start) events).parked = none := by
  refine run_keeps (P := fun m => m.shared.parked = none) ?_ rfl events
  intro m e after unparked step
  cases step with
  | move found move calls now stats => exact move.unparked unlimited unparked
  | _ => exact unparked

theorem exists_bereft (unlimited : k.settings.loadTimeout = none)
    (died : (k.run (State.empty start) events).loads[load]? = some (.ended .died)) :
    ∃ c request previous, Bereft c request load previous (k.run (State.empty start) events) := by
  have pending : Pending (k.run (State.empty start) events).loads load := ⟨_, died, rfl⟩
  rcases ((coherent_run k start events).flight.pending_iff load).mp pending with
    parked | ⟨c, ⟨request, p⟩, found, awaited⟩
  · exact absurd ((unparked_run unlimited).symm.trans parked) nofun
  · cases p with
    | awaiting load' previous =>
        cases Option.some.inj awaited
        exact ⟨c, request, previous, found, died⟩
    | _ => cases awaited

/-- From outside a gate that is taken, a call changes nothing shared. -/
theorem Move.shared_eq (move : Move k now c request e p sh p' sh' count)
    (outside : p.inside = false) (taken : sh.gate.holder = some i) : sh' = sh := by
  cases move with
  | look _ => rfl
  | enter _ free _ => exact absurd (free.symm.trans taken) nofun
  | turnBack _ free _ => exact absurd (free.symm.trans taken) nofun
  | _ => cases outside

theorem Step.call_rank (step : Step k m e after) (found : m.calls[i]? = some ⟨request, p⟩) :
    ∃ p', after.calls[i]? = some ⟨request, p'⟩ ∧ p'.rank ≤ p.rank := by
  rcases step.call_next found with same | ⟨p', count, there, move⟩
  · exact ⟨p, same, Nat.le_refl _⟩
  · exact ⟨p', there, Nat.le_of_lt move.rank_lt⟩

omit [DecidableEq κ] in
theorem Bereft.unparked (bereft : Bereft c request load previous m) (coherent : Coherent m) :
    m.parked = none := by
  cases parked : m.parked with
  | none => rfl
  | some other =>
      exact absurd ⟨c, _, bereft.awaits, rfl⟩ (coherent.flight.apart other load parked)

/-- Since `m₀` the call has waited and nothing shared has changed, or the call has gone on. -/
def Vigil (m₀ : State κ ν) (c : Nat) (request : Request κ) (load : Nat)
    (previous : Option (Snapshot κ ν)) (m : State κ ν) : Prop :=
  (m.calls[c]? = some ⟨request, .awaiting load previous⟩ ∧ m.shared = m₀.shared) ∨
  ∃ p, m.calls[c]? = some ⟨request, p⟩ ∧ p.rank < (Phase.awaiting load previous : Phase κ ν).rank

theorem Bereft.step (bereft : Bereft c request load previous m) (coherent : Coherent m)
    (step : Step k m e after) : Vigil m c request load previous after := by
  cases step with
  | call other =>
      have bound := (List.getElem?_eq_some_iff.mp bereft.awaits).1
      exact .inl ⟨(List.getElem?_append_left bound).trans bereft.awaits, rfl⟩
  | clock reading => exact .inl ⟨bereft.awaits, rfl⟩
  | @finish running how lines runs =>
      -- no other load is pending
      have lastRunning := coherent.flight.last running ⟨_, runs, rfl⟩
      have lastDead := coherent.flight.last load ⟨_, bereft.died, rfl⟩
      have same : running = load := by omega
      rw [same, bereft.died] at runs
      cases runs
  | @move e mover other p p' count after found move calls now stats =>
      have bound := (List.getElem?_eq_some_iff.mp bereft.awaits).1
      by_cases same : mover = c
      · subst same
        rw [bereft.awaits] at found
        cases found
        exact .inr ⟨p', by rw [calls, List.getElem?_set_self bound], move.rank_lt⟩
      · have holds := coherent.guarded.gated c _ bereft.awaits rfl
        have outside : p.inside = false := by
          by_contra inside
          rw [Bool.not_eq_false] at inside
          exact same (coherent.guarded.alone found bereft.awaits inside rfl)
        refine .inl ⟨?_, move.shared_eq outside holds⟩
        rw [calls, List.getElem?_set_ne same, bereft.awaits]

theorem Bereft.run (bereft : Bereft c request load previous m₀) (coherent : Coherent m₀)
    (waits : (k.run m₀ events).calls[c]? = some ⟨request, .awaiting load previous⟩) :
    Bereft c request load previous (k.run m₀ events) ∧ Coherent (k.run m₀ events) ∧
      (k.run m₀ events).shared = m₀.shared := by
  have kept : Coherent (k.run m₀ events) ∧ Vigil m₀ c request load previous (k.run m₀ events) := by
    refine run_keeps (P := fun m => Coherent m ∧ Vigil m₀ c request load previous m) ?_
      ⟨coherent, .inl ⟨bereft.awaits, rfl⟩⟩ events
    rintro m e after ⟨coherent, ⟨awaits, same⟩ | ⟨p, there, later⟩⟩ step
    · have died : m.loads = m₀.loads := congrArg Shared.loads same
      have still : Bereft c request load previous m := ⟨awaits, died ▸ bereft.died⟩
      refine ⟨coherent.step step, ?_⟩
      rcases still.step coherent step with ⟨awaits, shared⟩ | past
      · exact .inl ⟨awaits, shared.trans same⟩
      · exact .inr past
    · obtain ⟨p', there, less⟩ := step.call_rank there
      exact ⟨coherent.step step, .inr ⟨p', there, Nat.lt_of_le_of_lt less later⟩⟩
  obtain ⟨coherent, ⟨_, same⟩ | ⟨p, there, later⟩⟩ := kept
  · have died : (k.run m₀ events).loads = m₀.loads := congrArg Shared.loads same
    exact ⟨⟨waits, died ▸ bereft.died⟩, coherent, same⟩
  · -- calls only come down in rank, so this one cannot have come back to waiting
    rw [waits] at there
    cases there
    exact absurd later (Nat.lt_irrefl _)

/-! ## When the call goes on -/

theorem Bereft.next?_unlimited (bereft : Bereft c request load previous m)
    (unlimited : k.settings.loadTimeout = none) :
    k.next? m (.step c) =
      some (crash { m with loads := m.loads.set load (.received .died) } c) := by
  simp [next?, advance?, bereft.awaits, bereft.died, receive, unlimited]

theorem Bereft.next?_limited {limit : Duration} (bereft : Bereft c request load previous m)
    (limited : k.settings.loadTimeout = some limit) :
    k.next? m (.step c) =
      some (fallBack k { m with loads := m.loads.set load (.received .died) } c previous
        (.unavailable "loader thread exited without a result")) := by
  simp [next?, advance?, bereft.awaits, bereft.died, receive, limited]

omit [DecidableEq κ] in
theorem Coherent.idle (coherent : Coherent m) (free : m.gate.holder = none)
    (unparked : m.parked = none) : .running ∉ m.loads := by
  intro runs
  obtain ⟨load, runs⟩ := List.mem_iff_getElem?.mp runs
  rcases (coherent.flight.pending_iff load).mp ⟨_, runs, rfl⟩ with parked | ⟨i, call, found, awaited⟩
  · exact absurd (unparked.symm.trans parked) nofun
  · have holds := coherent.guarded.gated i call found (inside_of_awaited? awaited)
    exact absurd (free.symm.trans holds) nofun

omit [DecidableEq κ] in
/-- Nobody is inside after a crash. -/
theorem Coherent.barred_crash (coherent : Coherent (crash m c)) :
    Barred m.snapshot m.loads (crash m c) := by
  refine ⟨rfl, rfl, rfl, ?_⟩
  intro i call found inside
  exact absurd (coherent.guarded.gated i call found inside) nofun

/-- How a call goes on that waits for a gate when that is poisoned. -/
inductive Bounced : Phase κ ν → Prop where
  | queue (need : Need κ) : Bounced (.queue need)
  | leaving : Bounced (.leaving (.failed .lockPoisoned))
  | returned : Bounced (.returned (.failed .lockPoisoned))

theorem Move.bounced (move : Move k now c request e p sh p' sh' count)
    (poisoned : sh.gate.poisoned = true) (bounced : Bounced p) : Bounced p' := by
  cases bounced with
  | queue need =>
      cases move with
      | look look => cases look
      | enter _ _ clean => cases clean.symm.trans poisoned
      | turnBack _ _ _ => exact .leaving
  | leaving =>
      cases move with
      | look look => cases look
      | enter from_ _ _ => rcases from_ with h | h <;> cases h
      | turnBack from_ _ _ => rcases from_ with h | h <;> cases h
      | leave => exact .returned
  | returned => exact move.not_returned.elim

theorem bounced_run (poisoned : m₁.gate.poisoned = true) (found : m₁.calls[i]? = some ⟨request, p⟩)
    (bounced : Bounced p) (later : List (Event κ ν)) :
    ∃ p', (k.run m₁ later).calls[i]? = some ⟨request, p'⟩ ∧ Bounced p' := by
  have kept : (k.run m₁ later).gate.poisoned = true ∧
      ∃ p', (k.run m₁ later).calls[i]? = some ⟨request, p'⟩ ∧ Bounced p' := by
    refine run_keeps (P := fun m => m.gate.poisoned = true ∧
      ∃ p', m.calls[i]? = some ⟨request, p'⟩ ∧ Bounced p') ?_ ⟨poisoned, p, found, bounced⟩ later
    rintro m e after ⟨poisoned, p, found, bounced⟩ step
    refine ⟨step.poisoned poisoned, ?_⟩
    rcases step.call_next found with same | ⟨p', count, there, move⟩
    · exact ⟨p, same, bounced⟩
    · exact ⟨p', there, move.bounced poisoned bounced⟩
  exact kept.2

/-! ## Answers from the snapshot -/

/-- What a call is answered that needs no gate, when nothing else happens. -/
def alone? (k : Cache κ ν) (m : State κ ν) (request : Request κ) : Option (Answer κ ν) :=
  let c := m.calls.length
  k.answer? (k.run m [.call request, .step c, .step c]) c

/-- A request that the snapshot serves is answered from it, whatever the gate is like. -/
theorem alone?_eq {s : Snapshot κ ν} (there : m.snapshot = some s)
    (safe : k.sheltered (some s) request m.now = true) :
    k.alone? m request = some (request.answer k.keyText (.served .hit s)) := by
  unfold alone?
  cases request with
  | refresh => cases safe
  | all =>
      have young : Need.stale.holds k.settings s m.now = false := by
        simpa [sheltered_some, Request.need] using safe
      simp [run, next?, advance?, there, Request.need, Need.limit?, State.goto, young, conclude,
        Request.unmet?, State.count, answer?]
  | get key =>
      cases found : s.lookup key with
      | some value =>
          simp [run, next?, advance?, there, Request.need, Need.limit?, State.goto, found, conclude,
            Request.unmet?, State.count, answer?]
      | none =>
          have young : (Need.missing key).holds k.settings s m.now = false := by
            simpa [sheltered_some, Request.need] using safe
          simp [run, next?, advance?, there, Request.need, Need.limit?, State.goto, found, young,
            conclude, Request.unmet?, State.count, State.report, answer?, Request.answer]

/-! ## Ever after -/

/-- What there is to say of a cache in state `m`, after `later`, since a call crashed in `m₁`. -/
structure Shut (k : Cache κ ν) (m₁ : State κ ν) (later : List (Event κ ν)) (m : State κ ν) : Prop where
  snapshot_eq : m.snapshot = m₁.snapshot
  /-- No load was started. -/
  loads_eq : m.loads = m₁.loads
  rebuffed : ∀ (i : Nat) (request : Request κ) (r : Return κ ν), m₁.calls.length ≤ i →
    m.calls[i]? = some ⟨request, .returned r⟩ → Rebuffed k m₁ later i request r
  /-- A call that waited for the gate comes back with nothing else. -/
  queued : ∀ (i : Nat) (request : Request κ) (need : Need κ) (r : Return κ ν),
    m₁.calls[i]? = some ⟨request, .queue need⟩ → m.calls[i]? = some ⟨request, .returned r⟩ →
    r = .failed .lockPoisoned
  /-- What needs no reload is answered as in any state with that snapshot at that time. -/
  answers : ∀ request, k.sheltered m₁.snapshot request m.now = true → ∃ s, m₁.snapshot = some s ∧
    ∀ m' : State κ ν, m'.snapshot = some s → m'.now = m.now →
      k.alone? m' request = some (request.answer k.keyText (.served .hit s))
  advances : ∀ e after, e.isOwn = true → k.next? m e = some after → after.rank < m.rank
  returns : (∀ e, e.isOwn = true → k.next? m e = none) →
    ∀ (i : Nat) (call : Call κ ν), m.calls[i]? = some call → ∃ r, call.phase = .returned r

theorem Behind.shut {later : List (Event κ ν)} (poisoned : m₁.gate.poisoned = true)
    (done : .running ∉ m₁.loads) (behind : Behind k m₁ later (k.run m₁ later)) :
    Shut k m₁ later (k.run m₁ later) where
  snapshot_eq := behind.barred.snapshot_eq
  loads_eq := behind.barred.loads_eq
  rebuffed i request r late found := behind.told i _ late found
  queued i request need r waited found := by
    obtain ⟨p, there, bounced⟩ := bounced_run (k := k) poisoned waited (.queue need) later
    rw [found] at there
    cases there
    cases bounced
    rfl
  answers request safe := by
    cases there : m₁.snapshot with
    | none =>
        rw [there, sheltered_none] at safe
        cases safe
    | some s =>
        rw [there] at safe
        exact ⟨s, rfl, fun m' present time => alone?_eq present (time ▸ safe)⟩
  advances e after own next := (step_of_next? next).rank_lt own
  returns stuck i call found := by
    refine behind.coherent.returned_of_stuck stuck (.inl ?_) found
    rw [List.eq_nil_iff_forall_not_mem]
    intro load runs
    obtain ⟨_, runs⟩ := List.mem_filter.mp runs
    split at runs
    · rename_i there
      rw [behind.barred.loads_eq] at there
      exact done (List.mem_of_getElem? there)
    · cases runs

/-- Once the call has noticed that its load died, the cache is shut for good. -/
theorem Bereft.shut (bereft : Bereft c request load previous m) (coherent : Coherent m)
    (unlimited : k.settings.loadTimeout = none)
    (next : k.next? m (.step c) = some m₁) (later : List (Event κ ν)) :
    Shut k m₁ later (k.run m₁ later) := by
  have coherent₁ := coherent.step (step_of_next? next)
  rw [bereft.next?_unlimited unlimited] at next
  cases next
  have done := coherent₁.idle rfl (bereft.unparked coherent)
  exact (behind_run coherent₁ coherent₁.barred_crash done later).shut rfl done

/-- A call that is to reload can start a load, or take over one that was given up since `m₁`. -/
def Reloads (k : Cache κ ν) (m₁ : State κ ν) (later : List (Event κ ν)) (m : State κ ν) : Prop :=
  ∀ (i : Nat) (request : Request κ) (previous : Option (Snapshot κ ν)),
    m.calls[i]? = some ⟨request, .load previous⟩ →
    (∃ after, k.next? m (.step i) = some after ∧ after.loads = m.loads ++ [.running]) ∨
    ∃ parked, m.parked = some parked ∧ parked ∈ k.record givenUp? m₁ later

theorem reloads_run (named : k.lacksWorker = false) (unparked : m₁.parked = none)
    (later : List (Event κ ν)) : Reloads k m₁ later (k.run m₁ later) := by
  intro i request previous found
  cases parked : (k.run m₁ later).parked with
  | none =>
      refine .inl ⟨beginLoad k (k.run m₁ later) i previous, by simp only [next?, found, advance?], ?_⟩
      simp [beginLoad, announce, State.count, State.report, State.goto, parked, named]
  | some load => exact .inr ⟨load, rfl, givenUp_of_parked unparked later parked⟩

/-- Where a load was started, a worker can be named. -/
theorem named_of_load (there : load < (k.run (State.empty start) events).loads.length) :
    k.lacksWorker = false := by
  have among : load ∈ ((k.record k.launch? (State.empty start) events).filter Launch.own).map
      Launch.load := by
    rw [owned_run]
    exact List.mem_range.mpr there
  obtain ⟨l, among, _⟩ := List.mem_map.mp among
  obtain ⟨launched, own⟩ := List.mem_filter.mp among
  obtain ⟨before, e, _, noted⟩ := exists_of_mem_record launched
  obtain ⟨_, _, ⟨taken, _⟩ | ⟨_, _, named, _⟩⟩ := launch?_eq_some noted
  · cases own.symm.trans taken
  · exact named

theorem Bereft.shuts (bereft : Bereft c request load previous m₀) (coherent : Coherent m₀)
    (unlimited : k.settings.loadTimeout = none) {between : List (Event κ ν)}
    (waits : (k.run m₀ between).calls[c]? = some ⟨request, .awaiting load previous⟩) :
    let m₁ := k.run m₀ (between ++ [.step c])
    (k.run m₀ between).snapshot = m₀.snapshot ∧ m₁.snapshot = m₀.snapshot ∧
    m₁.loads.length = m₀.loads.length ∧ k.answer? m₁ c = some .crashed ∧
    ∀ later, Shut k m₁ later (k.run m₁ later) := by
  intro m₁
  obtain ⟨bereft, coherent, same⟩ := bereft.run coherent waits
  have next := bereft.next?_unlimited unlimited
  have first : m₁ = _ := run_snoc next
  have snapshot_eq : (k.run m₀ between).snapshot = m₀.snapshot := congrArg Shared.snapshot same
  have loads_eq : (k.run m₀ between).loads = m₀.loads := congrArg Shared.loads same
  refine ⟨snapshot_eq, ?_, ?_, ?_, ?_⟩
  · rw [first]
    exact snapshot_eq
  · rw [first, ← loads_eq]
    exact List.length_set
  · have there : m₁.calls[c]? = some ⟨request, .returned .crashed⟩ := by
      rw [first]
      simp [crash, State.goto, bereft.awaits]
    exact answer?_of_crashed k there
  · intro later
    exact bereft.shut coherent unlimited (next.trans (congrArg some first.symm)) later

theorem Bereft.fails {limit : Duration} (bereft : Bereft c request load previous m₀)
    (coherent : Coherent m₀) (limited : k.settings.loadTimeout = some limit)
    (named : k.lacksWorker = false) {between : List (Event κ ν)}
    (waits : (k.run m₀ between).calls[c]? = some ⟨request, .awaiting load previous⟩) :
    let m₁ := k.run m₀ (between ++ [.step c])
    m₁.snapshot = m₀.snapshot ∧ m₁.gate = m₀.gate ∧
    m₁.calls[c]? = some ⟨request, .leaving (fallen previous
      (.unavailable "loader thread exited without a result"))⟩ ∧
    ∀ later, Reloads k m₁ later (k.run m₁ later) := by
  intro m₁
  obtain ⟨bereft, coherent, same⟩ := bereft.run coherent waits
  have first : m₁ = _ := run_snoc (bereft.next?_limited limited)
  have snapshot_eq : (k.run m₀ between).snapshot = m₀.snapshot := congrArg Shared.snapshot same
  have gate_eq : (k.run m₀ between).gate = m₀.gate := congrArg Shared.gate same
  obtain ⟨shared, calls, _, _⟩ := goes_fallBack k
    { k.run m₀ between with loads := (k.run m₀ between).loads.set load (.received .died) } c previous
    (.unavailable "loader thread exited without a result")
  rw [← first] at shared calls
  refine ⟨(congrArg Shared.snapshot shared).trans snapshot_eq,
    (congrArg Shared.gate shared).trans gate_eq, ?_, ?_⟩
  · rw [calls, List.getElem?_modify_eq, bereft.awaits]
    rfl
  · exact reloads_run named ((congrArg Shared.parked shared).trans (bereft.unparked coherent))

/-- Without a timeout, a loader that dies takes the call that waits for it with it and shuts the
cache: what is installed stays and is served to whom it serves without a reload, everybody else is
turned back from the gate, and nothing is loaded again.  With a timeout its death is a failure like
another, and nothing keeps the next reload from the loader but a load given up since. -/
theorem dead_load_contained (k : Cache κ ν) (start load : Nat) (before : List (Event κ ν))
    (died : (k.run (State.empty start) before).loads[load]? = some (.ended .died)) :
    let m₀ := k.run (State.empty start) before
    (k.settings.loadTimeout = none → ∃ c request previous,
      m₀.calls[c]? = some ⟨request, .awaiting load previous⟩ ∧
      ∀ between, (k.run m₀ between).calls[c]? = some ⟨request, .awaiting load previous⟩ →
        let m₁ := k.run m₀ (between ++ [.step c])
        (k.run m₀ between).snapshot = m₀.snapshot ∧ m₁.snapshot = m₀.snapshot ∧
        m₁.loads.length = m₀.loads.length ∧ k.answer? m₁ c = some .crashed ∧
        ∀ later, Shut k m₁ later (k.run m₁ later)) ∧
    (∀ limit, k.settings.loadTimeout = some limit →
      (∀ events, k.run (State.empty start) (events.map Event.ordinary) =
        (k.run (State.empty start) events).ordinary) ∧
      ∀ c request previous between, m₀.calls[c]? = some ⟨request, .awaiting load previous⟩ →
        (k.run m₀ between).calls[c]? = some ⟨request, .awaiting load previous⟩ →
        let m₁ := k.run m₀ (between ++ [.step c])
        m₁.snapshot = m₀.snapshot ∧ m₁.gate = m₀.gate ∧
        m₁.calls[c]? = some ⟨request, .leaving (fallen previous
          (.unavailable "loader thread exited without a result"))⟩ ∧
        ∀ later, Reloads k m₁ later (k.run m₁ later)) := by
  intro m₀
  have coherent : Coherent m₀ := coherent_run k start before
  constructor
  · intro unlimited
    obtain ⟨c, request, previous, bereft⟩ := exists_bereft unlimited died
    exact ⟨c, request, previous, bereft.awaits,
      fun between waits => bereft.shuts coherent unlimited waits⟩
  · intro limit limited
    refine ⟨fun events => run_ordinary limited (State.empty start) events, ?_⟩
    intro c request previous between awaits waits
    have named := named_of_load (k := k) (List.getElem?_eq_some_iff.mp died).1
    exact Bereft.fails ⟨awaits, died⟩ coherent limited named waits

end Waiting

/-- A cache of numbers that waits for its loads itself. -/
def patientCache : Cache Nat Nat :=
  { plainCache with settings := ⟨Duration.ofMillis 300, Duration.ofMillis 150, none⟩ }

/-- The load of a second call dies. -/
def fatal : List (Event Nat Nat) :=
  .call .refresh :: List.replicate 5 (.step 1) ++ [.finish 1 .died []]

theorem fatal_contained :
    let patient := patientCache.run (State.empty 0) (supply ++ fatal)
    let plain := plainCache.run (State.empty 0) (supply ++ fatal)
    patient.loads[1]? = some (.ended .died) ∧ plain.loads[1]? = some (.ended .died) ∧
    (∃ c, let m₁ := patientCache.run patient [.step c]
      patientCache.answer? m₁ c = some .crashed ∧ m₁.snapshot = some ⟨[(7, 7)], 0, 0⟩ ∧
      ∀ later, Shut patientCache m₁ later (patientCache.run m₁ later)) ∧
    let m₁ := plainCache.run plain [.step 1]
    m₁.calls[1]? = some ⟨.refresh, .leaving (.served .fallback ⟨[(7, 7)], 0, 0⟩)⟩ ∧
    ∀ later, Reloads plainCache m₁ later (plainCache.run m₁ later) := by
  intro patient plain
  have died : patient.loads[1]? = some (.ended .died) := by decide +kernel
  have died' : plain.loads[1]? = some (.ended .died) := by decide +kernel
  refine ⟨died, died', ?_, ?_⟩
  · obtain ⟨c, request, previous, awaits, contained⟩ :=
      (dead_load_contained patientCache 0 1 (supply ++ fatal) died).1 rfl
    obtain ⟨_, snapshot_eq, _, crashed, shut⟩ := contained [] awaits
    have there : patient.snapshot = some ⟨[(7, 7)], 0, 0⟩ := by decide +kernel
    exact ⟨c, crashed, snapshot_eq.trans there, shut⟩
  · have awaits : plain.calls[1]? = some ⟨.refresh, .awaiting 1 (some ⟨[(7, 7)], 0, 0⟩)⟩ := by
      decide +kernel
    obtain ⟨_, contained⟩ := (dead_load_contained plainCache 0 1 (supply ++ fatal) died').2 _ rfl
    obtain ⟨_, _, leaving, reloads⟩ := contained 1 _ _ [] awaits awaits
    exact ⟨leaving, reloads⟩

/-- Two calls find the catalog outdated, and one of them the other at the gate. -/
def jostle : List (Event Nat Nat) :=
  [.step 1, .clock 300, .call .all, .call .all, .step 2, .step 2, .step 3, .step 3, .step 2, .step 3,
    .step 3]

/-- A load that was given up dies, and a refresh comes. -/
def parkedDeath : List (Event Nat Nat) :=
  .call .all :: List.replicate 4 (.step 0) ++ [.expire 0, .step 0, .finish 0 .died [], .call .refresh]
    ++ List.replicate 7 (.step 1)

/-- Behind a poisoned gate an outdated catalog can be served, and one that is younger than its limit
can be refused; and with a timeout a later reload may have no load of its own. -/
theorem poison_exceptions :
    (let m := patientCache.run (State.empty 0) (supply ++ fatal ++ jostle)
     m.gate.poisoned = true ∧ m.age? = some 300 ∧
     patientCache.answer? m 3 = some (.entries [(7, 7)])) ∧
    (let m := plainCache.run (State.empty 0) parkedDeath
     plainCache.answer? m 1 =
       some (.error (.unavailable "loader thread exited without a result")) ∧ m.loads.length = 1) ∧
    (let k := { patientCache with
       settings := ⟨Duration.ofNanos 500000, Duration.ofMillis 150, none⟩ }
     let m := k.run (State.empty 0) (supply ++ fatal ++ .step 1 :: .call .all :: List.replicate 4 (.step 2))
     m.age? = some 0 ∧ Duration.zero < k.settings.invalidateAfter ∧
     k.answer? m 2 = some (.error .lockPoisoned)) := by
  refine ⟨?_, ?_, ?_⟩ <;> decide +kernel

end Telemetry.Cache
