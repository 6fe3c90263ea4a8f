import Telemetry.Proofs.Cache.Installed
import Telemetry.Proofs.Cache.Progress
import Telemetry.Proofs.Cache.SingleFlight

/-!
# Serving through outages

A reload fails when its load fails, dies, takes too long or cannot be started.
The call then serves the snapshot that it had seen in the gate, which is still
the current one; only without one it reports the failure, and then there has
never been a snapshot.  So once a load is installed no call fails any more,
unless a call crashed and left the gate poisoned.
-/
set_option autoImplicit false
namespace Telemetry.Cache

variable {κ ν : Type} [DecidableEq κ]

/-- The answer carries what was asked for, or says of the key that it is not in the catalog. -/
def Serves (k : Cache κ ν) (answer : Answer κ ν) : Request κ → Prop
  | .get key => (∃ value, answer = .value value) ∨ answer = .error (.notFound (k.keyText key))
  | _ => ∃ entries, answer = .entries entries

theorem serves_served (k : Cache κ ν) (request : Request κ) (route : Route) (s : Snapshot κ ν) :
    Serves k (request.answer k.keyText (.served route s)) request := by
  cases request with
  | all => exact ⟨_, rfl⟩
  | refresh => exact ⟨_, rfl⟩
  | get key =>
      cases found : s.lookup key with
      | some value => exact .inl ⟨value, by simp [Request.answer, found]⟩
      | none => exact .inr (by simp [Request.answer, found])

section Machine
variable {k : Cache κ ν} {now c : Nat} {request : Request κ} {e : Event κ ν} {p p' : Phase κ ν}
  {sh sh' : Shared κ ν} {count : Stats → Stats} {m after : State κ ν}

/-! ## A poisoned gate -/

/-- Only a call that crashed can have left the gate poisoned. -/
def Blamed (m : State κ ν) : Prop :=
  m.gate.poisoned = true →
    ∃ (i : Nat) (request : Request κ), m.calls[i]? = some ⟨request, .returned .crashed⟩

theorem Move.poisons (move : Move k now c request e p sh p' sh' count)
    (poisoned : sh'.gate.poisoned = true) :
    sh.gate.poisoned = true ∨ p' = .returned .crashed := by
  cases move with
  | enter _ _ _ => cases poisoned
  | turnBack _ _ before => exact .inl before
  | die _ _ => exact .inr rfl
  | nameless _ _ => exact .inr rfl
  | keyless _ => exact .inr rfl
  | _ => exact .inl poisoned

theorem Blamed.step (blamed : Blamed m) (step : Step k m e after) : Blamed after := by
  intro poisoned
  have keeps : m.gate.poisoned = true →
      ∃ (i : Nat) (request : Request κ), after.calls[i]? = some ⟨request, .returned .crashed⟩ := by
    intro before
    obtain ⟨i, request, crashed⟩ := blamed before
    exact ⟨i, request, step.returned crashed⟩
  cases step with
  | call request => exact keeps poisoned
  | clock reading => exact keeps poisoned
  | finish how lines running => exact keeps poisoned
  | @move e c request p p' count after found move calls now stats =>
      rcases move.poisons poisoned with before | crashed
      · exact keeps before
      · have bound := (List.getElem?_eq_some_iff.mp found).1
        exact ⟨c, request, by rw [calls, List.getElem?_set_self bound, crashed]⟩

theorem clean_of_no_crash (k : Cache κ ν) (start : Nat) (events : List (Event κ ν))
    (whole : ∀ c, k.answer? (k.run (State.empty start) events) c ≠ some .crashed) :
    (k.run (State.empty start) events).gate.poisoned = false := by
  have blamed : Blamed (k.run (State.empty start) events) :=
    run_keeps (fun _ _ _ blamed step => blamed.step step) (by simp [Blamed, State.empty]) events
  by_contra dirty
  rw [Bool.not_eq_false] at dirty
  obtain ⟨i, request, crashed⟩ := blamed dirty
  exact whole i (answer?_of_crashed k crashed)

/-! ## After the first installation -/

/-- There is a snapshot, and among the calls in question none has failed but for the gate. -/
structure Supplied (asked : Nat → Prop) (m : State κ ν) : Prop where
  installed : m.snapshot ≠ none
  spared : ∀ i request e, asked i → m.calls[i]? = some ⟨request, .returned (.failed e)⟩ →
    m.gate.poisoned = true

theorem Supplied.step {asked : Nat → Prop} (supplied : Supplied asked m)
    (consistent : Consistent k m) (step : Step k m e after) : Supplied asked after := by
  constructor
  · rcases consistent.snapshot step with same | ⟨s, swapped, _⟩
    · rw [same]
      exact supplied.installed
    · simp [swapped]
  · intro i request error among there
    rcases step.call_cases there with fresh | before | ⟨p, count, before, move, _⟩
    · cases fresh
    · exact step.poisoned (supplied.spared i request error among before)
    · -- a call fails only as it leaves the gate, where it had known of no snapshot
      generalize shared : after.shared = sh' at move
      cases move with
      | look look => cases look
      | leave =>
          rcases consistent.sourced.sound i _ before with ⟨_, poisoned⟩ | ⟨_, bare⟩
          · exact step.poisoned poisoned
          · exact absurd bare supplied.installed

/-- Of the calls that had not returned when there was a snapshot, none fails but for the gate. -/
theorem poisoned_of_failed {earlier later : List (Event κ ν)} {start : Nat} {error : CacheError}
    (installed : (k.run (State.empty start) earlier).snapshot ≠ none)
    (unanswered : k.answer? (k.run (State.empty start) earlier) c = none)
    (failed : (k.run (State.empty start) (earlier ++ later)).calls[c]? =
      some ⟨request, .returned (.failed error)⟩) :
    (k.run (State.empty start) (earlier ++ later)).gate.poisoned = true := by
  let m₀ := k.run (State.empty start) earlier
  let asked := fun i => k.answer? m₀ i = none
  have first : Supplied asked m₀ := by
    refine ⟨installed, ?_⟩
    intro i request e among failed
    change k.answer? m₀ i = none at among
    rw [answer?_of_returned k failed] at among
    cases among
  have last := run_keeps (k := k) (P := fun m => Consistent k m ∧ Supplied asked m)
    (fun _ _ _ holds step => ⟨holds.1.step step, holds.2.step holds.1 step⟩)
    ⟨consistent_run k start earlier, first⟩ later
  rw [run_append] at failed ⊢
  exact last.2.spared c request error unanswered failed

/-! ## Before the first installation -/

/-- The error is that of a reload of call `c`. -/
inductive Reported (k : Cache κ ν) (events : List (Event κ ν)) (received : List Receipt)
    (loads : List (Load ν)) (c : Nat) : CacheError → Prop where
  /-- Its load failed or died. -/
  | failed {load reading how e} : ⟨load, c, reading⟩ ∈ received →
      loads[load]? = some (.received how) → loadError? k.settings how = some e →
      Reported k events received loads c e
  /-- It gave up waiting. -/
  | expired {limit} : .expire c ∈ events → k.settings.loadTimeout = some limit →
      Reported k events received loads c (.timeout limit)
  /-- No load could be started for it. -/
  | refused {reason} : .refuse c reason ∈ events →
      Reported k events received loads c (.unavailable reason)

omit [DecidableEq κ] in
theorem Reported.ne_notFound {events : List (Event κ ν)} {received : List Receipt}
    {loads : List (Load ν)} {error : CacheError} (reported : Reported k events received loads c error)
    (key : String) : error ≠ .notFound key := by
  rintro rfl
  cases reported with
  | failed _ _ error => simpa [isLoadError] using isLoadError_of_loadError? error

omit [DecidableEq κ] in
theorem Reported.grow {events events' : List (Event κ ν)} {received received' : List Receipt}
    {loads loads' : List (Load ν)} {error : CacheError}
    (reported : Reported k events received loads c error)
    (longer : events ⊆ events') (more : received ⊆ received') (keeps : Keeps loads loads') :
    Reported k events' received' loads' c error := by
  cases reported with
  | failed there ended error => exact .failed (more there) (keeps _ _ ended) error
  | expired there limited => exact .expired (longer there) limited
  | refused there => exact .refused (longer there)

/-- The error that the call has come back with, or is about to. -/
def Phase.error? : Phase κ ν → Option CacheError
  | .leaving (.failed e) | .returned (.failed e) => some e
  | _ => none

def Accounted (k : Cache κ ν) (events : List (Event κ ν)) (received : List Receipt)
    (m : State κ ν) : Prop :=
  ∀ (i : Nat) (call : Call κ ν) (error : CacheError), m.calls[i]? = some call →
    call.phase.error? = some error → error = .lockPoisoned ∨
    Reported k events received m.loads i error

theorem Look.error? (look : Look k now request sh p p' count) : p'.error? = none := by
  cases look <;> rfl

omit [DecidableEq κ] in
theorem error?_fallen {previous : Option (Snapshot κ ν)} {e error : CacheError}
    (h : (Phase.leaving (fallen previous e)).error? = some error) : error = e := by
  cases previous with
  | some s => cases h
  | none => exact (Option.some.inj h).symm

omit [DecidableEq κ] in
theorem error?_returned (r : Return κ ν) :
    (Phase.returned r).error? = (Phase.leaving r).error? := by
  cases r <;> rfl

/-- A call that is about to fail has learnt so from its load, its limit or the gate. -/
theorem Accounted.own {events : List (Event κ ν)} {received : List Receipt} {error : CacheError}
    (accounted : Accounted k events received m) (found : m.calls[c]? = some ⟨request, p⟩)
    (move : Move k m.now c request e p m.shared p' sh' count)
    (frame : Reported k events received m.loads c error →
      Reported k (events ++ [e]) (received ++ (receipt? m e).toList) sh'.loads c error)
    (erred : p'.error? = some error) : error = .lockPoisoned ∨
      Reported k (events ++ [e]) (received ++ (receipt? m e).toList) sh'.loads c error := by
  cases move with
  | look look =>
      rw [look.error?] at erred
      cases erred
  | turnBack _ _ _ => exact .inl (Option.some.inj erred).symm
  | refuse _ _ _ =>
      cases error?_fallen erred
      exact .inr (.refused (by simp))
  | @fail load how _ previous _ ended error =>
      cases error?_fallen erred
      have bound := (List.getElem?_eq_some_iff.mp ended).1
      change m.loads[load]? = some (.ended how) at ended
      have receipt : receipt? m (.step c) = some ⟨load, c, m.now⟩ := by
        simp [receipt?, found, ended]
      have there : ⟨load, c, m.now⟩ ∈ received ++ (receipt? m (.step c)).toList := by
        simp [receipt]
      exact .inr (.failed there (List.getElem?_set_self bound) error)
  | giveUp limited =>
      cases error?_fallen erred
      exact .inr (.expired (by simp) limited)
  | @leave r _ =>
      rw [error?_returned] at erred
      exact (accounted c _ error found erred).imp_right frame
  | _ => cases erred

theorem Accounted.step {events : List (Event κ ν)} {received : List Receipt}
    (accounted : Accounted k events received m) (step : Step k m e after) :
    Accounted k (events ++ [e]) (received ++ (receipt? m e).toList) after := by
  intro i call error there erred
  have frame : ∀ {i}, Reported k events received m.loads i error →
      Reported k (events ++ [e]) (received ++ (receipt? m e).toList) after.loads i error :=
    fun reported => reported.grow (List.subset_append_left _ _) (List.subset_append_left _ _)
      step.keeps_loads
  rcases step.call_cases there with fresh | before | ⟨p, count, before, move, _⟩
  · rw [fresh] at erred
    cases erred
  · exact (accounted i call error before erred).imp_right frame
  · exact accounted.own before move frame erred

theorem accounted_run (k : Cache κ ν) (start : Nat) (events : List (Event κ ν)) :
    Accounted k events (k.receipts (State.empty start) events) (k.run (State.empty start) events) := by
  refine run_history (m := State.empty start)
    (P := fun events m => Accounted k events (k.receipts (State.empty start) events) m) ?_ ?_ ?_ events
  · simp [Accounted, State.empty]
  · intro events e stuck accounted i call error found erred
    rw [receipts_snoc, receipt?_of_next?_none stuck]
    refine (accounted i call error found erred).imp_right fun reported => ?_
    exact reported.grow (List.subset_append_left _ _) (List.subset_append_left _ _) fun _ _ h => h
  · intro events e after next accounted
    rw [receipts_snoc]
    exact accounted.step (step_of_next? next)

/-- Without a snapshot and with a clean gate, what has returned has failed, and for its own reason. -/
theorem reported_of_bare {events : List (Event κ ν)} {start : Nat} {r : Return κ ν}
    (bare : (k.run (State.empty start) events).snapshot = none)
    (clean : (k.run (State.empty start) events).gate.poisoned = false)
    (found : (k.run (State.empty start) events).calls[c]? = some ⟨request, .returned r⟩)
    (whole : r ≠ .crashed) : ∃ error, r = .failed error ∧
      Reported k events (k.receipts (State.empty start) events)
        (k.run (State.empty start) events).loads c error := by
  have sound := (consistent_run k start events).sourced.sound c _ found
  cases r with
  | served route s =>
      obtain ⟨_, current, there, _⟩ := sound
      cases bare.symm.trans there
  | failed error =>
      refine ⟨error, rfl, (accounted_run k start events c _ error found rfl).resolve_left ?_⟩
      rintro rfl
      rcases sound with ⟨_, poisoned⟩ | wrong
      · cases clean.symm.trans poisoned
      · cases wrong
  | crashed => exact absurd rfl whole

/-! ## Failed reloads -/

/-- The call is reloading and has seen `previous` in the gate, or it is past its reload. -/
def Recalls (previous : Option (Snapshot κ ν)) : Phase κ ν → Prop
  | .load seen | .awaiting _ seen | .collected _ _ seen | .publish _ seen => seen = previous
  | .leaving (.served .reloaded _) | .returned _ => True
  | .leaving (.served route s) => route = .fallback ∧ previous = some s
  | .leaving (.failed e) => isLoadError e = true ∧ previous = none
  | _ => False

omit [DecidableEq κ] in
theorem recalls_fallen {previous seen : Option (Snapshot κ ν)} {e : CacheError}
    (recalls : seen = previous) (kind : isLoadError e = true) :
    Recalls previous (.leaving (fallen seen e)) := by
  subst recalls
  cases seen with
  | some s => exact ⟨rfl, rfl⟩
  | none => exact ⟨kind, rfl⟩

theorem Move.recalls {previous : Option (Snapshot κ ν)}
    (move : Move k now c request e p sh p' sh' count) (recalls : Recalls previous p) :
    Recalls previous p' := by
  cases move with
  | look look =>
      cases look with
      | arrange _ => exact recalls
      | _ => exact recalls.elim
  | enter from_ _ _ => rcases from_ with rfl | rfl <;> exact recalls.elim
  | turnBack from_ _ _ => rcases from_ with rfl | rfl <;> exact recalls.elim
  | resume _ => exact recalls
  | begin _ _ => exact recalls
  | refuse _ _ _ => exact recalls_fallen recalls rfl
  | receive _ => exact recalls
  | fail _ error => exact recalls_fallen recalls (isLoadError_of_loadError? error)
  | giveUp _ => exact recalls_fallen recalls rfl
  | _ => trivial

theorem Step.recalls {previous : Option (Snapshot κ ν)} {i : Nat} (step : Step k m e after)
    (holds : ∃ call, m.calls[i]? = some call ∧ Recalls previous call.phase) :
    ∃ call, after.calls[i]? = some call ∧ Recalls previous call.phase := by
  obtain ⟨call, there, recalls⟩ := holds
  have bound := (List.getElem?_eq_some_iff.mp there).1
  cases step with
  | call request => exact ⟨call, by rw [List.getElem?_append_left bound, there], recalls⟩
  | clock reading => exact ⟨call, there, recalls⟩
  | finish how lines running => exact ⟨call, there, recalls⟩
  | @move e c request p p' count after found move calls now stats =>
      rw [calls]
      by_cases same : i = c
      · subst same
        rw [found] at there
        cases there
        exact ⟨_, List.getElem?_set_self bound, move.recalls recalls⟩
      · exact ⟨call, by rw [List.getElem?_set_ne (Ne.symm same), there], recalls⟩

/-- Until it installs a snapshot, a call that reloads leaves the current one as it was. -/
theorem snapshot_of_recalls {previous : Option (Snapshot κ ν)} (recalls : Recalls previous p)
    (sound : Sound k sh p) (inside : p.inside = true)
    (uninstalled : ∀ s, p ≠ .leaving (.served .reloaded s)) : sh.snapshot = previous := by
  cases p with
  | load seen => exact sound.trans recalls
  | awaiting load seen => exact sound.trans recalls
  | collected load records seen => exact sound.1.trans recalls
  | publish s seen => exact sound.1.trans recalls
  | leaving r =>
      cases r with
      | served route s =>
          cases route with
          | reloaded => exact absurd rfl (uninstalled s)
          | _ => exact sound.trans recalls.2.symm
      | failed e =>
          rcases sound with ⟨rfl, _⟩ | ⟨_, bare⟩
          · cases recalls.1
          · exact bare.trans recalls.2.symm
      | crashed => exact recalls.elim
  | inspect need => exact recalls.elim
  | recheck need s => exact recalls.elim
  | _ => cases inside

theorem snapshot_while_reloading {earlier later : List (Event κ ν)} {start : Nat}
    {before after : Call κ ν} {previous : Option (Snapshot κ ν)}
    (there : (k.run (State.empty start) earlier).calls[c]? = some before)
    (loads : before.phase = .load previous)
    (found : (k.run (State.empty start) (earlier ++ later)).calls[c]? = some after)
    (inside : after.phase.inside = true)
    (uninstalled : ∀ s, after.phase ≠ .leaving (.served .reloaded s)) :
    (k.run (State.empty start) (earlier ++ later)).snapshot =
      (k.run (State.empty start) earlier).snapshot := by
  have first : ∃ call, (k.run (State.empty start) earlier).calls[c]? = some call ∧
      Recalls previous call.phase := ⟨before, there, by rw [loads]; rfl⟩
  have last := run_keeps (k := k) (fun _ _ _ holds step => step.recalls holds) first later
  rw [← run_append] at last
  obtain ⟨call, foundAgain, recalls⟩ := last
  cases found.symm.trans foundAgain
  have seen := (consistent_run k start earlier).sourced.sound c _ there
  rw [loads] at seen
  have sound := (consistent_run k start (earlier ++ later)).sourced.sound c _ found
  have unchanged := snapshot_of_recalls recalls sound inside uninstalled
  exact unchanged.trans seen.symm

/-- Without a crash: once a load is installed, no call that is still to return fails; before that,
every call that returns reports what became of its own reload; a reload leaves the snapshot as it
was unless it installs another; and calls do return, within boundedly many steps of their own. -/
theorem stale_on_error (k : Cache κ ν) (start : Nat) (earlier later : List (Event κ ν))
    (whole : ∀ c, k.answer? (k.run (State.empty start) (earlier ++ later)) c ≠ some .crashed) :
    let m₀ := k.run (State.empty start) earlier
    let m := k.run (State.empty start) (earlier ++ later)
    let received := k.receipts (State.empty start) (earlier ++ later)
    (m₀.snapshot ≠ none → ∀ c answer, k.answer? m₀ c = none → k.answer? m c = some answer →
      ∃ call, m.calls[c]? = some call ∧ Serves k answer call.request) ∧
    (m.snapshot = none → ∀ c answer, k.answer? m c = some answer →
      ∃ error, answer = .error error ∧ Reported k (earlier ++ later) received m.loads c error ∧
        ∀ key, error ≠ .notFound key) ∧
    (∀ (c : Nat) (before after : Call κ ν) previous, m₀.calls[c]? = some before →
      before.phase = .load previous → m.calls[c]? = some after → after.phase.inside = true →
      (∀ s, after.phase ≠ .leaving (.served .reloaded s)) → m.snapshot = m₀.snapshot) ∧
    (∀ e after, e.isOwn = true → k.next? m e = some after → after.rank < m.rank) ∧
    ((∀ e, e.isOwn = true → k.next? m e = none) →
      m.running = [] ∨ k.settings.loadTimeout.isSome = true →
      ∀ c, c < m.calls.length → (k.answer? m c).isSome = true) := by
  intro m₀ m received
  have clean : m.gate.poisoned = false := clean_of_no_crash k start (earlier ++ later) whole
  have noCrash : ∀ {c : Nat} {request : Request κ} {r : Return κ ν},
      m.calls[c]? = some ⟨request, .returned r⟩ → r ≠ .crashed := by
    rintro c request r found rfl
    exact whole c (answer?_of_crashed k found)
  refine ⟨?_, ?_, ?_, ?_, ?_⟩
  · intro installed c answer unanswered answered
    obtain ⟨request, r, found, rfl⟩ := answer?_eq_some answered
    refine ⟨_, found, ?_⟩
    cases r with
    | served route s => exact serves_served k request route s
    | failed error =>
        have poisoned : m.gate.poisoned = true := poisoned_of_failed installed unanswered found
        cases clean.symm.trans poisoned
    | crashed => exact absurd rfl (noCrash found)
  · intro bare c answer answered
    obtain ⟨request, r, found, rfl⟩ := answer?_eq_some answered
    obtain ⟨error, rfl, reported⟩ := reported_of_bare bare clean found (noCrash found)
    exact ⟨error, by cases request <;> rfl, reported, reported.ne_notFound⟩
  · intro c before after previous there loads found inside uninstalled
    exact snapshot_while_reloading there loads found inside uninstalled
  · intro e after own next
    exact (step_of_next? next).rank_lt own
  · intro stuck ends c bound
    obtain ⟨r, returned⟩ := (coherent_run k start (earlier ++ later)).returned_of_stuck stuck ends
      (List.getElem?_eq_getElem bound)
    have found : m.calls[c]? = some ⟨m.calls[c].request, .returned r⟩ := by
      rw [List.getElem?_eq_getElem bound, ← returned]
    rw [answer?_of_returned k found]
    rfl

end Machine

/-- The load of a second call hangs beyond the limit. -/
def outage : List (Event Nat Nat) :=
  .call .refresh :: List.replicate 5 (.step 1) ++ [.expire 1, .step 1]

theorem refresh_survives_outage :
    plainCache.answer? (plainCache.run (State.empty 0) (supply ++ outage)) 1 =
      some (.entries [(7, 7)]) ∧
    Serves plainCache (.entries [(7, 7)]) .refresh := by
  have whole : ∀ c, plainCache.answer? (plainCache.run (State.empty 0) (supply ++ outage)) c ≠
      some .crashed := by
    intro c
    match c with
    | 0 => decide +kernel
    | 1 => decide +kernel
    | _ + 2 => exact nofun
  have answered : plainCache.answer? (plainCache.run (State.empty 0) (supply ++ outage)) 1 =
      some (.entries [(7, 7)]) := by decide +kernel
  obtain ⟨call, found, serves⟩ := (stale_on_error plainCache 0 supply outage whole).1
    (by decide +kernel) 1 _ (by decide +kernel) answered
  have request : (plainCache.run (State.empty 0) (supply ++ outage)).calls[1]? =
      some ⟨.refresh, .returned (.served .fallback ⟨[(7, 7)], 0, 0⟩)⟩ := by decide +kernel
  cases found.symm.trans request
  exact ⟨answered, serves⟩

end Telemetry.Cache
