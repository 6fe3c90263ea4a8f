import Telemetry.Proofs.Cache.Freshness
import Telemetry.Proofs.Cache.History
import Telemetry.Proofs.Cache.StaleOnError

/-!
# The two-tier policy

The policy remembers the entries that were loaded last, and when.  By these and
the clock it decides whether a call attempts a reload: one for everything if
nothing is remembered or it has reached the long limit; one for a key if nothing
is remembered, or the key is not in it and it has reached the short limit; a
refresh always.  Where calls are made one after another, what a cache does is
what the policy does, call by call.
-/
set_option autoImplicit false
namespace Telemetry.Cache

/-! ## The policy -/

/-- What the policy remembers. -/
structure Memory (κ ν : Type) where
  entries : List (κ × ν)
  loadedAt : Nat
  deriving DecidableEq, Repr

/-- How a reload ends. -/
inductive Outcome (ν : Type) where
  | records (records : List ν)
  | failed (error : CacheError)
  deriving DecidableEq, Repr

/-- What happens between a caller, the cache and its source. -/
inductive Deed (κ ν : Type) where
  | asked (reading : Nat) (request : Request κ)
  | attempted
  | ended (outcome : Outcome ν)
  | answered (answer : Answer κ ν)
  deriving DecidableEq, Repr

/-- A call at a reading of the clock, and how its reload ends if it attempts one. -/
structure Ask (κ ν : Type) where
  reading : Nat
  request : Request κ
  outcome : Outcome ν
  deriving DecidableEq, Repr

variable {κ ν : Type}

namespace Policy
variable [DecidableEq κ]

/-- The decision to attempt a reload.  The difference is none if the clock was set back. -/
def attempts (settings : CacheSettings) (now : Nat) : Option (Memory κ ν) → Request κ → Bool
  | _, .refresh => true
  | none, _ => true
  | some memory, .all => settings.invalidateAfter.millis ≤ now - memory.loadedAt
  | some memory, .get key =>
    (memory.entries.lookup key).isNone && settings.retryAfter.millis ≤ now - memory.loadedAt

def remember (k : Cache κ ν) (now : Nat) (memory : Option (Memory κ ν)) :
    Outcome ν → Option (Memory κ ν)
  | .records records =>
    match index k.keyOf records with
    | some entries => some ⟨entries, now⟩
    | none => memory
  | .failed _ => memory

/-- The answer from what is remembered; without that, the failure is the answer. -/
def answer (k : Cache κ ν) (request : Request κ) : Option (Memory κ ν) → Outcome ν → Answer κ ν
  | some memory, _ =>
    match request with
    | .get key =>
      match memory.entries.lookup key with
      | some value => .value value
      | none => .error (.notFound (k.keyText key))
    | _ => .entries memory.entries
  | none, .failed e => .error e
  | none, .records _ => .crashed

/-- What the policy does at a call, and what it remembers after it. -/
def turn (k : Cache κ ν) (memory : Option (Memory κ ν)) (ask : Ask κ ν) :
    List (Deed κ ν) × Option (Memory κ ν) :=
  if attempts k.settings ask.reading memory ask.request then
    let memory := remember k ask.reading memory ask.outcome
    ([.asked ask.reading ask.request, .attempted, .ended ask.outcome,
      .answered (answer k ask.request memory ask.outcome)], memory)
  else
    ([.asked ask.reading ask.request, .answered (answer k ask.request memory ask.outcome)], memory)

/-- What the policy does at calls in a row. -/
def transcript (k : Cache κ ν) (memory : Option (Memory κ ν)) : List (Ask κ ν) → List (Deed κ ν)
  | [] => []
  | ask :: rest => (turn k memory ask).1 ++ transcript k (turn k memory ask).2 rest

/-- What the policy remembers after calls in a row. -/
def memoryAfter (k : Cache κ ν) (memory : Option (Memory κ ν)) : List (Ask κ ν) → Option (Memory κ ν)
  | [] => memory
  | ask :: rest => memoryAfter k (turn k memory ask).2 rest

theorem transcript_snoc (k : Cache κ ν) (memory : Option (Memory κ ν)) (asks : List (Ask κ ν))
    (ask : Ask κ ν) : transcript k memory (asks ++ [ask]) =
      transcript k memory asks ++ (turn k (memoryAfter k memory asks) ask).1 := by
  induction asks generalizing memory with
  | nil => simp [transcript, memoryAfter]
  | cons first rest ih => rw [List.cons_append, transcript, ih, transcript, memoryAfter, List.append_assoc]

theorem memoryAfter_snoc (k : Cache κ ν) (memory : Option (Memory κ ν)) (asks : List (Ask κ ν))
    (ask : Ask κ ν) :
    memoryAfter k memory (asks ++ [ask]) = (turn k (memoryAfter k memory asks) ask).2 := by
  induction asks generalizing memory with
  | nil => rfl
  | cons first rest ih => rw [List.cons_append, memoryAfter, ih, memoryAfter]

end Policy

/-! ## What a cache does -/

def Snapshot.memory (s : Snapshot κ ν) : Memory κ ν := ⟨s.entries, s.fetchedAt⟩

def LoadEnd.outcome? (settings : CacheSettings) : LoadEnd ν → Option (Outcome ν)
  | .delivered records => some (.records records)
  | how => (loadError? settings how).map .failed

/-- The outcome of a reload that an event brings about. -/
def outcome? (k : Cache κ ν) (m : State κ ν) : Event κ ν → Option (Outcome ν)
  | .step c =>
    match m.calls[c]? with
    | some ⟨_, .awaiting load _⟩ =>
      match m.loads[load]? with
      | some (.ended how) => how.outcome? k.settings
      | _ => none
    | _ => none
  | .expire _ => k.settings.loadTimeout.map fun limit => .failed (.timeout limit)
  | .refuse _ reason => some (.failed (.unavailable reason))
  | _ => none

section Log
variable [DecidableEq κ]

/-- What an event amounts to: a call is made; the counter of loads goes up; a reload has an outcome;
a call returns. -/
def deeds (k : Cache κ ν) (m : State κ ν) (e : Event κ ν) : List (Deed κ ν) :=
  match k.next? m e with
  | none => []
  | some after =>
    (match e with
      | .call request => [.asked m.now request]
      | _ => []) ++
    (if m.stats.loads < after.stats.loads then [.attempted] else []) ++
    ((outcome? k m e).map Deed.ended).toList ++
    (match e with
      | .step c => ((k.answer? after c).map Deed.answered).toList
      | _ => [])

/-- All that happens along a run. -/
def log (k : Cache κ ν) (m : State κ ν) (events : List (Event κ ν)) : List (Deed κ ν) :=
  (k.record (fun m e => some (k.deeds m e)) m events).flatten

end Log

/-- Calls are made and the clock moves only when all earlier calls have returned. -/
def takesTurns (m : State κ ν) : Event κ ν → Bool
  | .call _ | .clock _ => m.calls.all fun call => call.phase.hasReturned
  | _ => true

section Machine
variable [DecidableEq κ] {k : Cache κ ν} {now c : Nat} {request : Request κ} {e : Event κ ν}
  {p p' : Phase κ ν} {sh sh' : Shared κ ν} {count : Stats → Stats} {m after : State κ ν}
  {memory : Option (Memory κ ν)} {s : Snapshot κ ν}

/-! ## Decisions and answers -/

theorem attempts_some (settings : CacheSettings) (s : Snapshot κ ν) (now : Nat)
    (request : Request κ) :
    Policy.attempts settings now (some s.memory) request =
      (request.need true).holds settings s now := by
  cases request with
  | all => rfl
  | get key =>
      have limit : (Need.missing key).limit? settings s =
          if (s.lookup key).isSome then none else some settings.retryAfter := rfl
      change ((s.lookup key).isNone && decide (settings.retryAfter.millis ≤ now - s.fetchedAt)) =
        (Need.missing key).holds settings s now
      rw [Need.holds, limit]
      cases s.lookup key <;> rfl
  | refresh => exact (holds_always settings s now).symm

theorem attempts_refresh (settings : CacheSettings) (now : Nat) (memory : Option (Memory κ ν)) :
    Policy.attempts settings now memory .refresh = true := by
  cases memory <;> rfl

theorem attempts_none (settings : CacheSettings) (now : Nat) (request : Request κ) :
    Policy.attempts settings now (none : Option (Memory κ ν)) request = true := by
  cases request <;> rfl

theorem answer_served (route : Route) (s : Snapshot κ ν) (outcome : Outcome ν) :
    Policy.answer k request (some s.memory) outcome =
      request.answer k.keyText (.served route s) := by
  cases request with
  | get key =>
      have same : s.memory.entries.lookup key = s.lookup key := rfl
      cases found : s.lookup key <;> simp only [Policy.answer, Request.answer, same, found]
  | _ => rfl

theorem answer_fallen (previous : Option (Snapshot κ ν)) (e : CacheError) :
    Policy.answer k request (previous.map Snapshot.memory) (.failed e) =
      request.answer k.keyText (fallen previous e) := by
  cases previous with
  | some s => exact answer_served .fallback s (.failed e)
  | none => cases request <;> rfl

/-! ## What a move amounts to -/

/-- What a call says as it comes to a phase. -/
def Phase.farewell (k : Cache κ ν) (request : Request κ) : Phase κ ν → List (Deed κ ν)
  | .returned r => [.answered (request.answer k.keyText r)]
  | _ => []

theorem deeds_move (next : k.next? m e = some after) (found : m.calls[c]? = some ⟨request, p⟩)
    (move : Move k m.now c request e p m.shared p' sh' count)
    (calls : after.calls = m.calls.set c ⟨request, p'⟩) (stats : after.stats = count m.stats) :
    k.deeds m e = (if m.stats.loads < (count m.stats).loads then [.attempted] else []) ++
      ((outcome? k m e).map Deed.ended).toList ++ p'.farewell k request := by
  have bound := (List.getElem?_eq_some_iff.mp found).1
  have self : after.calls[c]? = some ⟨request, p'⟩ := by rw [calls, List.getElem?_set_self bound]
  cases e with
  | step i =>
      have same := move.eq_of_step
      subst same
      have answered : ((k.answer? after i).map Deed.answered).toList = p'.farewell k request := by
        cases p' <;> simp [answer?, self, Phase.farewell]
      simp only [deeds, next, stats, answered, List.nil_append]
  | expire i =>
      cases move with
      | giveUp _ => simp [deeds, next, stats, Phase.farewell]
  | refuse i reason =>
      cases move with
      | refuse _ _ _ => simp [deeds, next, stats, Phase.farewell]
  | _ => cases move

omit [DecidableEq κ] in
theorem outcome?_eq_none (found : m.calls[c]? = some ⟨request, p⟩) (idle : p.awaited? = none) :
    outcome? k m (.step c) = none := by
  cases p with
  | awaiting load previous => cases idle
  | _ => simp [outcome?, found]

theorem deeds_quiet (next : k.next? m e = some after) (found : m.calls[c]? = some ⟨request, p⟩)
    (move : Move k m.now c request e p m.shared p' sh' count)
    (calls : after.calls = m.calls.set c ⟨request, p'⟩) (stats : after.stats = count m.stats)
    (idle : outcome? k m e = none) (uncounted : (count m.stats).loads = m.stats.loads) :
    k.deeds m e = p'.farewell k request := by
  rw [deeds_move next found move calls stats, idle, uncounted]
  simp

theorem countMissed_loads (request : Request κ) (r : Return κ ν) (stats : Stats) :
    (countMissed request r stats).loads = stats.loads := by
  unfold countMissed
  split <;> rfl

omit [DecidableEq κ] in
theorem countFallen_loads (previous : Option (Snapshot κ ν)) (stats : Stats) :
    (countFallen previous stats).loads = stats.loads := by
  cases previous <;> rfl

theorem Look.loads (look : Look k now request sh p p' count) (stats : Stats) :
    (count stats).loads = stats.loads := by
  cases look <;> simp [countMissed_loads, countHit, countStale]

/-! ## How far a call has come -/

/-- The call is about to reload, and the policy says so. -/
structure Due (k : Cache κ ν) (now : Nat) (request : Request κ) (snapshot : Option (Snapshot κ ν))
    (need : Need κ) : Prop where
  decided : Policy.attempts k.settings now (snapshot.map Snapshot.memory) request = true
  holds : ∀ s, snapshot = some s → need.holds k.settings s now = true

/-- The deeds make up a turn at the end of which the snapshot is the current one. -/
def Closes (k : Cache κ ν) (now : Nat) (request : Request κ) (memory : Option (Memory κ ν))
    (snapshot : Option (Snapshot κ ν)) (past : List (Deed κ ν)) : Prop :=
  ∃ outcome, Policy.turn k memory ⟨now, request, outcome⟩ = (past, snapshot.map Snapshot.memory)

/-- What a call knows in a phase, the policy remembering `memory`, and what has happened at it. -/
def Stage (k : Cache κ ν) (now : Nat) (request : Request κ) (memory : Option (Memory κ ν))
    (snapshot : Option (Snapshot κ ν)) (past : List (Deed κ ν)) : Phase κ ν → Prop
  | .start => snapshot.map Snapshot.memory = memory ∧ past = [.asked now request]
  | .judge need s =>
    snapshot.map Snapshot.memory = memory ∧ past = [.asked now request] ∧
      snapshot = some s ∧ need = request.need true
  | .approach need | .queue need | .inspect need | .recheck need _ =>
    snapshot.map Snapshot.memory = memory ∧ past = [.asked now request] ∧
      Due k now request snapshot need
  | .load _ =>
    snapshot.map Snapshot.memory = memory ∧ past = [.asked now request] ∧
      Policy.attempts k.settings now memory request = true
  | .awaiting _ _ =>
    snapshot.map Snapshot.memory = memory ∧ past = [.asked now request, .attempted] ∧
      Policy.attempts k.settings now memory request = true
  | .collected _ records _ =>
    snapshot.map Snapshot.memory = memory ∧
      past = [.asked now request, .attempted, .ended (.records records)] ∧
      Policy.attempts k.settings now memory request = true
  | .publish s _ => ∃ records, index k.keyOf records = some s.entries ∧ s.fetchedAt = now ∧
      past = [.asked now request, .attempted, .ended (.records records)] ∧
      Policy.attempts k.settings now memory request = true
  | .leaving r =>
    Closes k now request memory snapshot (past ++ [.answered (request.answer k.keyText r)])
  | .returned _ => Closes k now request memory snapshot past
  | .occupied _ => False

/-- Without a reload the current snapshot is the answer. -/
theorem closes_served {past : List (Deed κ ν)} {snapshot : Option (Snapshot κ ν)} (route : Route)
    (seen : snapshot.map Snapshot.memory = memory) (asked : past = [.asked now request])
    (there : snapshot = some s)
    (spared : (request.need true).holds k.settings s now = false) :
    Closes k now request memory snapshot
      (past ++ [.answered (request.answer k.keyText (.served route s))]) := by
  subst there
  subst seen
  subst asked
  refine ⟨.failed .lockPoisoned, ?_⟩
  have decided : Policy.attempts k.settings now (some s.memory) request = false := by
    rw [attempts_some, spared]
  simp only [Policy.turn, Option.map_some, decided, answer_served route, Bool.false_eq_true,
    if_false, List.cons_append, List.nil_append]

/-- A reload that fails leaves what is remembered, and that or the failure is the answer. -/
theorem closes_fallen {past : List (Deed κ ν)} {snapshot : Option (Snapshot κ ν)} (e : CacheError)
    (seen : snapshot.map Snapshot.memory = memory)
    (asked : past = [.asked now request, .attempted, .ended (.failed e)])
    (decided : Policy.attempts k.settings now memory request = true) :
    Closes k now request memory snapshot
      (past ++ [.answered (request.answer k.keyText (fallen snapshot e))]) := by
  subst seen
  subst asked
  refine ⟨.failed e, ?_⟩
  simp only [Policy.turn, decided, if_true, Policy.remember, answer_fallen, List.cons_append,
    List.nil_append]

theorem closes_reloaded {past : List (Deed κ ν)} {records : List ν}
    (arranged : index k.keyOf records = some s.entries) (dated : s.fetchedAt = now)
    (asked : past = [.asked now request, .attempted, .ended (.records records)])
    (decided : Policy.attempts k.settings now memory request = true) :
    Closes k now request memory (some s)
      (past ++ [.answered (request.answer k.keyText (.served .reloaded s))]) := by
  subst dated
  subst asked
  refine ⟨.records records, ?_⟩
  have remembered : Policy.remember k s.fetchedAt memory (.records records) = some s.memory := by
    simp only [Policy.remember, arranged, Snapshot.memory]
  simp only [Policy.turn, decided, if_true, remembered, answer_served .reloaded, Option.map_some,
    List.cons_append, List.nil_append]

theorem holds_of_unlimited {settings : CacheSettings} {need : Need κ}
    (unlimited : need.limit? settings s = none) (now : Nat) : need.holds settings s now = false := by
  simp only [Need.holds, unlimited]

variable {past : List (Deed κ ν)}

theorem Stage.go {snapshot : Option (Snapshot κ ν)} (quiet : p.farewell k request = [])
    (stage : Stage k now request memory snapshot past p) :
    Stage k now request memory snapshot (past ++ p.farewell k request) p := by
  rw [quiet, List.append_nil]
  exact stage

theorem Look.stage (look : Look k now request sh p p' count)
    (stage : Stage k now request memory sh.snapshot past p) (sound : Sound k sh p)
    (free : p.inside = false → sh.gate.holder = none) :
    Stage k now request memory sh.snapshot (past ++ p'.farewell k request) p' := by
  cases look with
  | force kind =>
      subst kind
      obtain ⟨seen, asked⟩ := stage
      exact .go rfl ⟨seen, asked, attempts_refresh _ _ _, fun s _ => holds_always _ s now⟩
  | lack _ bare =>
      obtain ⟨seen, asked⟩ := stage
      refine .go rfl ⟨seen, asked, ?_, ?_⟩
      · rw [bare]
        exact attempts_none _ _ _
      · intro s there
        cases bare.symm.trans there
  | present _ there unlimited =>
      exact closes_served .hit stage.1 stage.2 there (holds_of_unlimited unlimited now)
  | see _ there _ =>
      exact .go rfl ⟨stage.1, stage.2, there, rfl⟩
  | @old need s holds =>
      obtain ⟨seen, asked, there, same⟩ := stage
      refine .go rfl ⟨seen, asked, ?_, ?_⟩
      · rw [there, Option.map_some, attempts_some, ← same]
        exact holds
      · intro current found
        cases there.symm.trans found
        exact holds
  | lacking young =>
      obtain ⟨seen, asked, there, same⟩ := stage
      exact closes_served .lacking seen asked there (same ▸ young)
  | young _ young =>
      obtain ⟨seen, asked, there, same⟩ := stage
      exact closes_served .hit seen asked there (same ▸ young)
  | taken taken => cases (free rfl).symm.trans taken
  | overtaken _ => exact stage.elim
  | wait _ => exact stage.elim
  | bare _ =>
      obtain ⟨seen, asked, due⟩ := stage
      exact .go rfl ⟨seen, asked, seen ▸ due.decided⟩
  | filled there unlimited =>
      obtain ⟨_, _, due⟩ := stage
      have holds := due.holds _ there
      rw [holds_of_unlimited unlimited] at holds
      cases holds
  | review _ _ =>
      exact .go rfl stage
  | confirm _ =>
      obtain ⟨seen, asked, due⟩ := stage
      exact .go rfl ⟨seen, asked, seen ▸ due.decided⟩
  | lapse young =>
      obtain ⟨_, _, due⟩ := stage
      cases (due.holds _ sound).symm.trans young
  | arrange arranged =>
      obtain ⟨_, asked, decided⟩ := stage
      exact .go rfl ⟨_, arranged, rfl, asked, decided⟩

theorem Move.stage (move : Move k m.now c request e p m.shared p' sh' count)
    (stage : Stage k m.now request memory m.snapshot past p) (sound : Sound k m.shared p)
    (free : p.inside = false → m.gate.holder = none) (clean : sh'.gate.poisoned = false)
    (found : m.calls[c]? = some ⟨request, p⟩) (next : k.next? m e = some after)
    (calls : after.calls = m.calls.set c ⟨request, p'⟩) (stats : after.stats = count m.stats) :
    Stage k m.now request memory sh'.snapshot (past ++ k.deeds m e) p' := by
  have idle : p.awaited? = none → outcome? k m (.step c) = none := outcome?_eq_none found
  have quiet := deeds_quiet next found move calls stats
  have all := deeds_move next found move calls stats
  cases move with
  | look look =>
      rw [quiet (idle look.awaited?.1) (look.loads m.stats)]
      exact look.stage stage sound free
  | enter from_ _ _ =>
      rcases from_ with rfl | rfl
      · rw [quiet (idle rfl) rfl]
        exact .go rfl stage
      · rw [quiet (idle rfl) rfl]
        exact .go rfl stage
  | turnBack _ _ _ => cases clean
  | resume _ =>
      obtain ⟨seen, asked, decided⟩ := stage
      rw [all, idle rfl]
      exact ⟨seen, by simp [asked, countLoad, Phase.farewell], decided⟩
  | begin _ _ =>
      obtain ⟨seen, asked, decided⟩ := stage
      rw [all, idle rfl]
      exact ⟨seen, by simp [asked, countLoad, Phase.farewell], decided⟩
  | @refuse reason previous _ _ _ _ =>
      obtain ⟨seen, asked, decided⟩ := stage
      have current : m.snapshot = previous := sound
      subst current
      apply closes_fallen _ seen ?_ decided
      simp [all, asked, outcome?, countFallen_loads, countLoad, Phase.farewell]
  | @receive load records previous _ ended =>
      obtain ⟨seen, asked, decided⟩ := stage
      change m.loads[load]? = some (.ended (.delivered records)) at ended
      have outcome : outcome? k m (.step c) = some (.records records) := by
        simp [outcome?, found, ended, LoadEnd.outcome?]
      rw [all, outcome]
      exact ⟨seen, by simp [asked, Phase.farewell], decided⟩
  | @fail load how error previous _ ended failed =>
      obtain ⟨seen, asked, decided⟩ := stage
      have current : m.snapshot = previous := sound
      subst current
      change m.loads[load]? = some (.ended how) at ended
      have outcome : outcome? k m (.step c) = some (.failed error) := by
        cases how with
        | delivered records => cases failed
        | failed reason => simp [outcome?, found, ended, LoadEnd.outcome?, failed]
        | died => simp [outcome?, found, ended, LoadEnd.outcome?, failed]
      apply closes_fallen _ seen ?_ decided
      simp [all, asked, outcome, countFallen_loads, Phase.farewell]
  | @giveUp load limit previous _ limited =>
      obtain ⟨seen, asked, decided⟩ := stage
      have current : m.snapshot = previous := sound
      subst current
      apply closes_fallen _ seen ?_ decided
      simp [all, asked, outcome?, limited, countFallen_loads, Phase.farewell]
  | die _ _ => cases clean
  | nameless _ _ => cases clean
  | keyless _ => cases clean
  | install =>
      obtain ⟨records, arranged, dated, asked, decided⟩ := stage
      apply closes_reloaded arranged dated ?_ decided
      rw [quiet (idle rfl) rfl, asked]
      rfl
  | leave =>
      rw [quiet (idle rfl) (countMissed_loads _ _ _)]
      exact stage

/-! ## Along a run -/

/-- The deeds so far are those of the policy; the last call may be under way. -/
inductive Follows (k : Cache κ ν) (past : List (Deed κ ν)) (m : State κ ν) : Prop where
  | idle (asks : List (Ask κ ν)) : (∀ call ∈ m.calls, call.phase.hasReturned = true) →
      past = Policy.transcript k none asks →
      m.snapshot.map Snapshot.memory = Policy.memoryAfter k none asks → Follows k past m
  | underway (asks : List (Ask κ ν)) (earlier : List (Call κ ν)) (request : Request κ)
      (p : Phase κ ν) (last : List (Deed κ ν)) : m.calls = earlier ++ [⟨request, p⟩] →
      (∀ call ∈ earlier, call.phase.hasReturned = true) →
      past = Policy.transcript k none asks ++ last →
      Stage k m.now request (Policy.memoryAfter k none asks) m.snapshot last p → Follows k past m

theorem Follows.of_returned (follows : Follows k past m)
    (returned : ∀ call ∈ m.calls, call.phase.hasReturned = true) :
    ∃ asks, past = Policy.transcript k none asks ∧
      m.snapshot.map Snapshot.memory = Policy.memoryAfter k none asks := by
  cases follows with
  | idle asks _ same recalled => exact ⟨asks, same, recalled⟩
  | underway asks earlier request p last calls _ same stage =>
      have done := returned ⟨request, p⟩ (by simp [calls])
      cases p with
      | returned r =>
          obtain ⟨outcome, turn⟩ := stage
          refine ⟨asks ++ [⟨m.now, request, outcome⟩], ?_, ?_⟩
          · rw [Policy.transcript_snoc, turn, same]
          · rw [Policy.memoryAfter_snoc, turn]
      | _ => cases done

/-- The deeds of a call under way begin a turn of the policy. -/
theorem Stage.exists_turn {snapshot : Option (Snapshot κ ν)}
    (stage : Stage k now request memory snapshot past p) :
    ∃ outcome, past <+: (Policy.turn k memory ⟨now, request, outcome⟩).1 := by
  have fresh : past = [.asked now request] →
      ∃ outcome, past <+: (Policy.turn k memory ⟨now, request, outcome⟩).1 := by
    rintro rfl
    refine ⟨.failed .lockPoisoned, ?_⟩
    unfold Policy.turn
    split <;> simp
  cases p with
  | occupied need => exact stage.elim
  | start => exact fresh stage.2
  | judge need s => exact fresh stage.2.1
  | approach need => exact fresh stage.2.1
  | queue need => exact fresh stage.2.1
  | inspect need => exact fresh stage.2.1
  | recheck need s => exact fresh stage.2.1
  | load previous => exact fresh stage.2.1
  | awaiting load previous =>
      obtain ⟨_, rfl, decided⟩ := stage
      exact ⟨.failed .lockPoisoned, by simp [Policy.turn, decided]⟩
  | collected load records previous =>
      obtain ⟨_, rfl, decided⟩ := stage
      exact ⟨.records records, by simp [Policy.turn, decided]⟩
  | publish s previous =>
      obtain ⟨records, _, _, rfl, decided⟩ := stage
      exact ⟨.records records, by simp [Policy.turn, decided]⟩
  | leaving r =>
      obtain ⟨outcome, turn⟩ := stage
      exact ⟨outcome, by rw [turn]; exact List.prefix_append _ _⟩
  | returned r =>
      obtain ⟨outcome, turn⟩ := stage
      exact ⟨outcome, by rw [turn]⟩

theorem Follows.exists_transcript (follows : Follows k past m) :
    ∃ asks, past <+: Policy.transcript k none asks := by
  cases follows with
  | idle asks _ same _ => exact ⟨asks, same ▸ List.prefix_refl _⟩
  | underway asks earlier request p last _ _ same stage =>
      obtain ⟨outcome, begins⟩ := stage.exists_turn
      refine ⟨asks ++ [⟨m.now, request, outcome⟩], ?_⟩
      rw [Policy.transcript_snoc, same]
      exact (List.prefix_append_right_inj _).mpr begins

omit [DecidableEq κ] in
/-- Calls that have returned do not hold the gate. -/
theorem Guarded.free_of_returned {earlier : List (Call κ ν)} (guarded : Guarded m.shared m.calls)
    (calls : m.calls = earlier ++ [⟨request, p⟩])
    (returned : ∀ call ∈ earlier, call.phase.hasReturned = true) (outside : p.inside = false) :
    m.gate.holder = none := by
  by_contra taken
  obtain ⟨holder, holds⟩ := Option.ne_none_iff_exists'.mp taken
  obtain ⟨call, there, inside⟩ := guarded.held holder holds
  rw [calls] at there
  rcases List.mem_append.mp (List.mem_of_getElem? there) with before | last
  · have done := returned call before
    obtain ⟨request, phase⟩ := call
    cases phase with
    | returned r => cases inside
    | _ => cases done
  · rw [List.mem_singleton.mp last, outside] at inside
    cases inside

theorem Follows.move (follows : Follows k past m) (consistent : Consistent k m)
    (clean : after.gate.poisoned = false) (found : m.calls[c]? = some ⟨request, p⟩)
    (move : Move k m.now c request e p m.shared p' after.shared count)
    (next : k.next? m e = some after) (calls : after.calls = m.calls.set c ⟨request, p'⟩)
    (still : after.now = m.now) (stats : after.stats = count m.stats) :
    Follows k (past ++ k.deeds m e) after := by
  have moves : ∀ call : Call κ ν, call = ⟨request, p⟩ → call.phase.hasReturned = false := by
    rintro call rfl
    cases p with
    | returned r => exact move.not_returned.elim
    | _ => rfl
  cases follows with
  | idle asks returned _ _ =>
      have done := returned _ (List.mem_of_getElem? found)
      rw [moves _ rfl] at done
      cases done
  | underway asks earlier request' q last there returned same stage =>
      -- none but the last call can move
      rw [there] at found
      obtain ⟨rfl, same'⟩ := (append_cases found).resolve_right fun before => by
        have done := returned _ (List.mem_of_getElem? before)
        rw [moves _ rfl] at done
        cases done
      cases same'
      rw [← there] at found
      have free := consistent.coherent.guarded.free_of_returned there returned
      refine .underway asks earlier request p' (last ++ k.deeds m e) ?_ returned ?_ ?_
      · rw [calls, there]
        simp
      · rw [same, List.append_assoc]
      · rw [still]
        exact move.stage stage (consistent.sourced.sound _ _ found) free clean found next calls stats

theorem Follows.step (follows : Follows k past m) (consistent : Consistent k m)
    (alone : takesTurns m e = true) (next : k.next? m e = some after)
    (clean : after.gate.poisoned = false) : Follows k (past ++ k.deeds m e) after := by
  have step := step_of_next? next
  cases step with
  | call request =>
      have returned := List.all_eq_true.mp alone
      obtain ⟨asks, same, recalled⟩ := follows.of_returned returned
      refine .underway asks m.calls request .start [.asked m.now request] rfl returned ?_
        ⟨recalled, rfl⟩
      rw [same]
      simp [deeds, next, outcome?]
  | clock reading =>
      have returned := List.all_eq_true.mp alone
      obtain ⟨asks, same, recalled⟩ := follows.of_returned returned
      refine .idle asks returned ?_ recalled
      simp [same, deeds, next, outcome?]
  | @finish load how lines running =>
      have quiet : k.deeds m (.finish load how lines) = [] := by simp [deeds, next, outcome?]
      rw [quiet, List.append_nil]
      cases follows with
      | idle asks returned same recalled => exact .idle asks returned same recalled
      | underway asks earlier request p last calls returned same stage =>
          exact .underway asks earlier request p last calls returned same stage
  | move found move calls still stats =>
      exact follows.move consistent clean found move next calls still stats

theorem follows_run (k : Cache κ ν) (start : Nat) (events : List (Event κ ν))
    (alone : k.heeds takesTurns (State.empty start) events = true)
    (clean : (k.run (State.empty start) events).gate.poisoned = false) :
    Follows k (k.log (State.empty start) events) (k.run (State.empty start) events) := by
  have both : (k.run (State.empty start) events).gate.poisoned = false →
      Consistent k (k.run (State.empty start) events) ∧
        Follows k (k.record (fun m e => some (k.deeds m e)) (State.empty start) events).flatten
          (k.run (State.empty start) events) := by
    refine record_run (P := fun notes m => m.gate.poisoned = false →
      Consistent k m ∧ Follows k (List.flatten notes) m) ?_ ?_ events alone
    · intro notes m e after holds alone next clean
      have step := step_of_next? next
      obtain ⟨consistent, follows⟩ := holds (step.clean clean)
      refine ⟨consistent.step step, ?_⟩
      rw [List.flatten_append]
      simpa using follows.step consistent alone next clean
    · intro _
      exact ⟨consistent_run k start [], .idle [] nofun rfl rfl⟩
  exact (both clean).2

/-- Calls that are made one after another and do not crash: all that happens is what the policy does,
at calls with some outcomes of reloads, as far as they have got; and when all have returned, the
snapshot holds what the policy remembers.  They return, within boundedly many steps of their own. -/
theorem two_tier_policy (k : Cache κ ν) (start : Nat) (events : List (Event κ ν))
    (alone : k.heeds takesTurns (State.empty start) events = true)
    (whole : ∀ c, k.answer? (k.run (State.empty start) events) c ≠ some .crashed) :
    let m := k.run (State.empty start) events
    let past := k.log (State.empty start) events
    (∃ asks, past <+: Policy.transcript k none asks) ∧
    ((∀ call ∈ m.calls, call.phase.hasReturned = true) →
      ∃ asks, past = Policy.transcript k none asks ∧
        m.snapshot.map Snapshot.memory = Policy.memoryAfter k none asks) ∧
    (∀ e after, e.isOwn = true → k.next? m e = some after → after.rank < m.rank) ∧
    ((∀ e, e.isOwn = true → k.next? m e = none) →
      m.running = [] ∨ k.settings.loadTimeout.isSome = true →
      ∀ call ∈ m.calls, call.phase.hasReturned = true) := by
  intro m past
  have clean : m.gate.poisoned = false := clean_of_no_crash k start events whole
  have follows : Follows k past m := follows_run k start events alone clean
  refine ⟨follows.exists_transcript, follows.of_returned, ?_, ?_⟩
  · intro e after own next
    exact (step_of_next? next).rank_lt own
  · intro stuck ends call among
    obtain ⟨i, found⟩ := List.getElem?_of_mem among
    obtain ⟨r, returned⟩ := (coherent_run k start events).returned_of_stuck stuck ends found
    rw [returned]
    rfl

end Machine

/-- An absent key makes a call reload, in vain; a present one does not, whatever its age. -/
def lookups : List (Event Nat Nat) :=
  .clock 400 :: .call (.get 9) :: List.replicate 6 (.step 1) ++
    [.finish 1 (.failed "down") [], .step 1, .step 1, .call (.get 7), .step 2]

theorem lookups_by_policy :
    let events := supply ++ lookups
    let m := plainCache.run (State.empty 0) events
    plainCache.heeds takesTurns (State.empty 0) events = true ∧
    (∀ c, plainCache.answer? m c ≠ some .crashed) ∧
    plainCache.log (State.empty 0) events =
      [.asked 0 .all, .attempted, .ended (.records [7]), .answered (.entries [(7, 7)]),
        .asked 400 (.get 9), .attempted, .ended (.failed (.unavailable "down")),
        .answered (.error (.notFound "9")), .asked 400 (.get 7), .answered (.value 7)] ∧
    ∃ asks, plainCache.log (State.empty 0) events = Policy.transcript plainCache none asks ∧
      m.snapshot.map Snapshot.memory = Policy.memoryAfter plainCache none asks := by
  intro events m
  have alone : plainCache.heeds takesTurns (State.empty 0) events = true := by decide +kernel
  have whole : ∀ c, plainCache.answer? m c ≠ some .crashed := by
    intro c
    match c with
    | 0 => decide +kernel
    | 1 => decide +kernel
    | 2 => decide +kernel
    | _ + 3 => exact nofun
  obtain ⟨_, settled, _⟩ := two_tier_policy plainCache 0 events alone whole
  exact ⟨alone, whole, by decide +kernel, settled (by decide +kernel)⟩

end Telemetry.Cache
