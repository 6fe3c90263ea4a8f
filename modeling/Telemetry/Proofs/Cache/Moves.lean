import Mathlib.Data.List.Induction
import Telemetry.Cache.Machine

/-!
# Moves of calls

`Move` lists everything that a call can do in one step: the event that makes it
go on, the phases before and after, what becomes of the part of the state by
which calls meet, and what is counted.  `step_of_next?` says that the machine
does nothing else, so that every invariant of the cache can be kept move by move.
-/
set_option autoImplicit false
namespace Telemetry.Cache

variable {κ ν : Type}

/-- The part of a state by which calls meet. -/
structure Shared (κ ν : Type) where
  snapshot : Option (Snapshot κ ν)
  gate : Gate
  parked : Option Nat
  loads : List (Load ν)

def State.shared (m : State κ ν) : Shared κ ν := ⟨m.snapshot, m.gate, m.parked, m.loads⟩

/-- How a call ends whose reload failed. -/
def fallen : Option (Snapshot κ ν) → CacheError → Return κ ν
  | some s, _ => .served .fallback s
  | none, e => .failed e

def countFallen (previous : Option (Snapshot κ ν)) (s : Stats) : Stats :=
  match previous with
  | some _ => countStale (countFailure s)
  | none => countFailure s

/-- What the end of a load is to the caller that waits for it, if that can go on without records. -/
def loadError? (settings : CacheSettings) : LoadEnd ν → Option CacheError
  | .delivered _ => none
  | .failed reason => some (.unavailable reason)
  | .died => settings.loadTimeout.map fun _ => .unavailable "loader thread exited without a result"

section Moves
variable [DecidableEq κ]

def countMissed (request : Request κ) (r : Return κ ν) (s : Stats) : Stats :=
  match request.unmet? r with
  | some _ => countMiss s
  | none => s

/-- Steps that change nothing of what is shared. -/
inductive Look (k : Cache κ ν) (now : Nat) (request : Request κ) (sh : Shared κ ν) :
    Phase κ ν → Phase κ ν → (Stats → Stats) → Prop where
  | force : request = .refresh → Look k now request sh .start (.queue .always) id
  | lack : request ≠ .refresh → sh.snapshot = none →
      Look k now request sh .start (.approach (request.need false)) id
  | present {s} : request ≠ .refresh → sh.snapshot = some s →
      (request.need true).limit? k.settings s = none →
      Look k now request sh .start (.returned (.served .hit s))
        fun stats => countMissed request (.served .hit s) (countHit stats)
  | see {s} : request ≠ .refresh → sh.snapshot = some s →
      ((request.need true).limit? k.settings s).isSome = true →
      Look k now request sh .start (.judge (request.need true) s) id
  | old {need s} : need.holds k.settings s now = true →
      Look k now request sh (.judge need s) (.approach need) id
  | lacking {key s} : (Need.missing key).holds k.settings s now = false →
      Look k now request sh (.judge (.missing key) s) (.returned (.served .lacking s))
        (countMissed request (.served .lacking s))
  | young {need s} : (∀ key, need ≠ .missing key) → need.holds k.settings s now = false →
      Look k now request sh (.judge need s) (.returned (.served .hit s))
        fun stats => countMissed request (.served .hit s) (countHit stats)
  | taken {need holder} : sh.gate.holder = some holder →
      Look k now request sh (.approach need) (.occupied need) id
  | overtaken {need s} : sh.snapshot = some s →
      Look k now request sh (.occupied need) (.returned (.served .inFlight s))
        fun stats => countMissed request (.served .inFlight s) (countStale stats)
  | wait {need} : sh.snapshot = none → Look k now request sh (.occupied need) (.queue need) id
  | bare {need} : sh.snapshot = none → Look k now request sh (.inspect need) (.load none) id
  | filled {need s} : sh.snapshot = some s → need.limit? k.settings s = none →
      Look k now request sh (.inspect need) (.leaving (.served .hit s)) countHit
  | review {need s} : sh.snapshot = some s → (need.limit? k.settings s).isSome = true →
      Look k now request sh (.inspect need) (.recheck need s) id
  | confirm {need s} : need.holds k.settings s now = true →
      Look k now request sh (.recheck need s) (.load (some s)) id
  | lapse {need s} : need.holds k.settings s now = false →
      Look k now request sh (.recheck need s) (.leaving (.served .hit s)) countHit
  | arrange {load records previous entries} : index k.keyOf records = some entries →
      Look k now request sh (.collected load records previous) (.publish ⟨entries, now, load⟩ previous) id

/-- Everything that a call can do at an event. -/
inductive Move (k : Cache κ ν) (now c : Nat) (request : Request κ) :
    Event κ ν → Phase κ ν → Shared κ ν → Phase κ ν → Shared κ ν → (Stats → Stats) → Prop where
  | look {p sh p' count} : Look k now request sh p p' count →
      Move k now c request (.step c) p sh p' sh count
  | enter {p need sh} : p = .approach need ∨ p = .queue need →
      sh.gate.holder = none → sh.gate.poisoned = false →
      Move k now c request (.step c) p sh (.inspect need) { sh with gate := ⟨some c, false⟩ } id
  | turnBack {p need sh} : p = .approach need ∨ p = .queue need →
      sh.gate.holder = none → sh.gate.poisoned = true →
      Move k now c request (.step c) p sh (.leaving (.failed .lockPoisoned))
        { sh with gate := ⟨some c, true⟩ } id
  | resume {load previous sh} : sh.parked = some load →
      Move k now c request (.step c) (.load previous) sh (.awaiting load previous)
        { sh with parked := none } countLoad
  | begin {previous sh} : sh.parked = none → k.lacksWorker = false →
      Move k now c request (.step c) (.load previous) sh (.awaiting sh.loads.length previous)
        { sh with loads := sh.loads ++ [.running] } countLoad
  | refuse {reason previous sh} : sh.parked = none → k.lacksWorker = false →
      k.settings.loadTimeout.isSome = true →
      Move k now c request (.refuse c reason) (.load previous) sh
        (.leaving (fallen previous (.unavailable reason))) sh
        fun stats => countFallen previous (countLoad stats)
  | receive {load records previous sh} : sh.loads[load]? = some (.ended (.delivered records)) →
      Move k now c request (.step c) (.awaiting load previous) sh (.collected load records previous)
        { sh with loads := sh.loads.set load (.received (.delivered records)) } id
  | fail {load how e previous sh} : sh.loads[load]? = some (.ended how) →
      loadError? k.settings how = some e →
      Move k now c request (.step c) (.awaiting load previous) sh (.leaving (fallen previous e))
        { sh with loads := sh.loads.set load (.received how) } (countFallen previous)
  | giveUp {load limit previous sh} : k.settings.loadTimeout = some limit →
      Move k now c request (.expire c) (.awaiting load previous) sh
        (.leaving (fallen previous (.timeout limit))) { sh with parked := some load }
        (countFallen previous)
  | die {load previous sh} : sh.loads[load]? = some (.ended .died) →
      k.settings.loadTimeout = none →
      Move k now c request (.step c) (.awaiting load previous) sh (.returned .crashed)
        { sh with gate := ⟨none, true⟩, loads := sh.loads.set load (.received .died) } id
  | nameless {previous sh} : sh.parked = none → k.lacksWorker = true →
      Move k now c request (.step c) (.load previous) sh (.returned .crashed)
        { sh with gate := ⟨none, true⟩ } countLoad
  | keyless {load records previous sh} : index k.keyOf records = none →
      Move k now c request (.step c) (.collected load records previous) sh (.returned .crashed)
        { sh with gate := ⟨none, true⟩ } id
  | install {s previous sh} :
      Move k now c request (.step c) (.publish s previous) sh (.leaving (.served .reloaded s))
        { sh with snapshot := some s } id
  | leave {r sh} :
      Move k now c request (.step c) (.leaving r) sh (.returned r)
        { sh with gate := { sh.gate with holder := none } } (countMissed request r)

/-- Everything that can happen to a state. -/
inductive Step (k : Cache κ ν) (m : State κ ν) : Event κ ν → State κ ν → Prop where
  | call (request : Request κ) :
      Step k m (.call request) { m with calls := m.calls ++ [⟨request, .start⟩] }
  | clock (reading : Nat) : Step k m (.clock reading) { m with now := reading }
  | finish {load : Nat} (how : LoadEnd ν) (lines : List Log.Line) : m.loads[load]? = some .running →
      Step k m (.finish load how lines)
        { m with loads := m.loads.set load (.ended how), lines := m.lines ++ lines }
  | move {e c request p p' count after} : m.calls[c]? = some ⟨request, p⟩ →
      Move k m.now c request e p m.shared p' after.shared count →
      after.calls = m.calls.set c ⟨request, p'⟩ → after.now = m.now →
      after.stats = count m.stats → Step k m e after

/-! ## What the helpers of the machine change -/

/-- `after` is `m` but for call `c`, which has gone on to phase `p`, and for what is counted. -/
structure Goes (m : State κ ν) (c : Nat) (p : Phase κ ν) (sh : Shared κ ν) (count : Stats → Stats)
    (after : State κ ν) : Prop where
  shared : after.shared = sh
  calls : after.calls = m.calls.modify c fun call => { call with phase := p }
  now : after.now = m.now
  stats : after.stats = count m.stats

theorem goes_conclude (k : Cache κ ν) (m : State κ ν) (c : Nat) (request : Request κ)
    (r : Return κ ν) :
    Goes m c (.returned r) m.shared (countMissed request r) (conclude k m c request r) := by
  cases unmet : request.unmet? r with
  | none => constructor <;> simp [conclude, unmet, countMissed, State.goto, State.shared]
  | some key =>
      constructor <;>
        simp [conclude, unmet, countMissed, State.goto, State.count, State.report, State.shared]

omit [DecidableEq κ] in
theorem goes_fallBack (k : Cache κ ν) (m : State κ ν) (c : Nat) (previous : Option (Snapshot κ ν))
    (e : CacheError) :
    Goes m c (.leaving (fallen previous e)) m.shared (countFallen previous)
      (fallBack k m c previous e) := by
  cases previous <;> exact ⟨rfl, rfl, rfl, rfl⟩

/-! ## Inversion of the machine -/

/-- A call in phase `p` has moved, and the state after it is `after`. -/
def Advances (k : Cache κ ν) (m : State κ ν) (e : Event κ ν) (c : Nat) (request : Request κ)
    (p : Phase κ ν) (after : State κ ν) : Prop :=
  ∃ p' sh count, Move k m.now c request e p m.shared p' sh count ∧ Goes m c p' sh count after

theorem advances_goto {k : Cache κ ν} {m : State κ ν} {c : Nat} {request : Request κ}
    {p p' : Phase κ ν} (look : Look k m.now request m.shared p p' id) :
    Advances k m (.step c) c request p (m.goto c p') :=
  ⟨_, _, _, .look look, rfl, rfl, rfl, rfl⟩

theorem advances_conclude {k : Cache κ ν} {m : State κ ν} {c : Nat} {request : Request κ}
    {p : Phase κ ν} {r : Return κ ν} {count : Stats → Stats}
    (look : Look k m.now request m.shared p (.returned r)
      fun stats => countMissed request r (count stats)) :
    Advances k m (.step c) c request p (conclude k (m.count count) c request r) := by
  obtain ⟨shared, calls, now, stats⟩ := goes_conclude k (m.count count) c request r
  exact ⟨_, _, _, .look look, shared, calls, now, stats⟩

theorem advances_enter (k : Cache κ ν) (m : State κ ν) (c : Nat) (request : Request κ)
    (p : Phase κ ν) (need : Need κ) (from_ : p = .approach need ∨ p = .queue need)
    (free : m.gate.holder = none) :
    Advances k m (.step c) c request p (enter m c need) := by
  cases poison : m.gate.poisoned with
  | false =>
      refine ⟨_, _, _, .enter from_ free poison, ?_⟩
      constructor <;> simp [enter, poison, State.goto, State.shared]
  | true =>
      refine ⟨_, _, _, .turnBack from_ free poison, ?_⟩
      constructor <;> simp [enter, poison, State.goto, State.shared]

theorem advances_beginLoad (k : Cache κ ν) (m : State κ ν) (c : Nat) (request : Request κ)
    (previous : Option (Snapshot κ ν)) :
    Advances k m (.step c) c request (.load previous) (beginLoad k m c previous) := by
  unfold beginLoad
  cases parked : m.parked with
  | some load =>
      simp only [announce, State.count, State.report, parked]
      exact ⟨_, _, _, .resume parked, rfl, rfl, rfl, rfl⟩
  | none =>
      simp only [announce, State.count, State.report, parked]
      split
      · rename_i lacks
        exact ⟨_, _, _, .nameless parked lacks,
          by simp [crash, State.goto, State.shared, parked], rfl, rfl, rfl⟩
      · rename_i has
        exact ⟨_, _, _, .begin parked (by simpa using has),
          by simp [State.goto, State.shared, parked], rfl, rfl, rfl⟩

theorem advances_receive (k : Cache κ ν) (m : State κ ν) (c load : Nat) (request : Request κ)
    (previous : Option (Snapshot κ ν)) (how : LoadEnd ν)
    (ended : m.loads[load]? = some (.ended how)) :
    Advances k m (.step c) c request (.awaiting load previous)
      (receive k { m with loads := m.loads.set load (.received how) } c load previous how) := by
  have fails : ∀ e, loadError? k.settings how = some e →
      Advances k m (.step c) c request (.awaiting load previous)
        (fallBack k { m with loads := m.loads.set load (.received how) } c previous e) := by
    intro e error
    refine ⟨_, _, _, .fail ended error, ?_⟩
    obtain ⟨shared, calls, now, stats⟩ :=
      goes_fallBack k { m with loads := m.loads.set load (.received how) } c previous e
    exact ⟨shared, calls, now, stats⟩
  cases how with
  | delivered records => exact ⟨_, _, _, .receive ended, rfl, rfl, rfl, rfl⟩
  | failed reason => exact fails _ rfl
  | died =>
      cases limit : k.settings.loadTimeout with
      | some limit' =>
          simp only [receive, limit]
          exact fails _ (by simp [loadError?, limit])
      | none =>
          simp only [receive, limit]
          exact ⟨_, _, _, .die ended limit, rfl, rfl, rfl, rfl⟩

theorem advances_start (k : Cache κ ν) (m : State κ ν) (c : Nat) (request : Request κ)
    (after : State κ ν) (h : k.advance? m c request .start = some after) :
    Advances k m (.step c) c request .start after := by
  simp only [advance?] at h
  split at h
  · cases Option.some.inj h
    exact advances_goto (.force rfl)
  · rename_i kind
    split at h
    · rename_i bare
      cases Option.some.inj h
      exact advances_goto (.lack kind bare)
    · rename_i s seen
      split at h
      · rename_i unlimited
        cases Option.some.inj h
        exact advances_conclude (.present kind seen unlimited)
      · rename_i limit limited
        cases Option.some.inj h
        exact advances_goto (.see kind seen (by simp [limited]))

theorem advances_judge (k : Cache κ ν) (m : State κ ν) (c : Nat) (request : Request κ)
    (need : Need κ) (s : Snapshot κ ν) (after : State κ ν)
    (h : k.advance? m c request (.judge need s) = some after) :
    Advances k m (.step c) c request (.judge need s) after := by
  simp only [advance?] at h
  split at h
  · rename_i old
    cases Option.some.inj h
    exact advances_goto (.old old)
  · rename_i young
    have young : need.holds k.settings s m.now = false := by simpa using young
    split at h
    · cases Option.some.inj h
      exact ⟨_, _, _, .look (.lacking young), goes_conclude k m c request _⟩
    · rename_i kind
      cases Option.some.inj h
      exact advances_conclude (.young kind young)

theorem advances_occupied (k : Cache κ ν) (m : State κ ν) (c : Nat) (request : Request κ)
    (need : Need κ) (after : State κ ν)
    (h : k.advance? m c request (.occupied need) = some after) :
    Advances k m (.step c) c request (.occupied need) after := by
  simp only [advance?] at h
  split at h
  · rename_i s seen
    cases Option.some.inj h
    obtain ⟨shared, calls, now, stats⟩ :=
      goes_conclude k ((m.report .trace (k.name ++ ": reload in flight, serving previous snapshot")).count
        countStale) c request (.served .inFlight s)
    exact ⟨_, _, _, .look (.overtaken seen), shared, calls, now, stats⟩
  · rename_i bare
    cases Option.some.inj h
    exact advances_goto (.wait bare)

theorem advances_inspect (k : Cache κ ν) (m : State κ ν) (c : Nat) (request : Request κ)
    (need : Need κ) (after : State κ ν)
    (h : k.advance? m c request (.inspect need) = some after) :
    Advances k m (.step c) c request (.inspect need) after := by
  simp only [advance?] at h
  split at h
  · rename_i bare
    cases Option.some.inj h
    exact advances_goto (.bare bare)
  · rename_i s seen
    split at h
    · rename_i unlimited
      cases Option.some.inj h
      exact ⟨_, _, _, .look (.filled seen unlimited), rfl, rfl, rfl, rfl⟩
    · rename_i limit limited
      cases Option.some.inj h
      exact advances_goto (.review seen (by simp [limited]))

theorem advances_of_advance? (k : Cache κ ν) (m : State κ ν) (c : Nat) (request : Request κ)
    (p : Phase κ ν) (after : State κ ν) (h : k.advance? m c request p = some after) :
    Advances k m (.step c) c request p after := by
  cases p with
  | start => exact advances_start k m c request after h
  | judge need s => exact advances_judge k m c request need s after h
  | approach need =>
      simp only [advance?] at h
      split at h
      · rename_i holder taken
        cases Option.some.inj h
        exact advances_goto (.taken taken)
      · rename_i free
        cases Option.some.inj h
        exact advances_enter k m c request _ need (.inl rfl) free
  | occupied need => exact advances_occupied k m c request need after h
  | queue need =>
      simp only [advance?] at h
      split at h
      · contradiction
      · rename_i free
        cases Option.some.inj h
        exact advances_enter k m c request _ need (.inr rfl) free
  | inspect need => exact advances_inspect k m c request need after h
  | recheck need s =>
      simp only [advance?] at h
      split at h
      · rename_i old
        cases Option.some.inj h
        exact advances_goto (.confirm old)
      · rename_i young
        cases Option.some.inj h
        exact ⟨_, _, _, .look (.lapse (by simpa using young)), rfl, rfl, rfl, rfl⟩
  | load previous =>
      cases Option.some.inj h
      exact advances_beginLoad k m c request previous
  | awaiting load previous =>
      simp only [advance?] at h
      split at h
      · rename_i how ended
        cases Option.some.inj h
        exact advances_receive k m c load request previous how ended
      · contradiction
  | collected load records previous =>
      simp only [advance?] at h
      split at h
      · rename_i entries arranged
        cases Option.some.inj h
        exact advances_goto (.arrange arranged)
      · rename_i unarranged
        cases Option.some.inj h
        exact ⟨_, _, _, .keyless unarranged, rfl, rfl, rfl, rfl⟩
  | publish s previous =>
      cases Option.some.inj h
      exact ⟨_, _, _, .install, rfl, rfl, rfl, rfl⟩
  | leaving r =>
      cases Option.some.inj h
      obtain ⟨shared, calls, now, stats⟩ :=
        goes_conclude k { m with gate := { m.gate with holder := none } } c request r
      exact ⟨_, _, _, .leave, shared, calls, now, stats⟩
  | returned r => contradiction

theorem advances_of_expire? (k : Cache κ ν) (m : State κ ν) (c : Nat) (request : Request κ)
    (p : Phase κ ν) (after : State κ ν) (h : k.expire? m c p = some after) :
    Advances k m (.expire c) c request p after := by
  cases p with
  | awaiting load previous =>
      simp only [expire?] at h
      split at h
      · rename_i limit limited
        cases Option.some.inj h
        refine ⟨_, _, _, .giveUp limited, ?_⟩
        obtain ⟨shared, calls, now, stats⟩ :=
          goes_fallBack k ({ m with parked := some load }.report .warn
            (k.name ++ ": load exceeded " ++ limit.text)) c previous (.timeout limit)
        exact ⟨shared, calls, now, stats⟩
      · contradiction
  | _ => contradiction

theorem advances_of_refuse? (k : Cache κ ν) (m : State κ ν) (c : Nat) (request : Request κ)
    (reason : String) (p : Phase κ ν) (after : State κ ν)
    (h : k.refuse? m c reason p = some after) :
    Advances k m (.refuse c reason) c request p after := by
  cases p with
  | load previous =>
      simp only [refuse?] at h
      split at h
      · contradiction
      · rename_i has
        split at h
        · rename_i limit limited parked
          cases Option.some.inj h
          refine ⟨_, _, _, .refuse parked (by simpa using has) (by simp [limited]), ?_⟩
          obtain ⟨shared, calls, now, stats⟩ :=
            goes_fallBack k (announce k m) c previous (.unavailable reason)
          exact ⟨shared, calls, now, stats⟩
        · contradiction
  | _ => contradiction

/-- A move is a step of the whole state. -/
theorem Advances.step {k : Cache κ ν} {m after : State κ ν} {e : Event κ ν} {c : Nat}
    {request : Request κ} {p : Phase κ ν} (found : m.calls[c]? = some ⟨request, p⟩)
    (h : Advances k m e c request p after) : Step k m e after := by
  obtain ⟨p', sh, count, move, shared, calls, now, stats⟩ := h
  subst shared
  refine .move found move ?_ now stats
  rw [calls]
  apply List.ext_getElem?
  intro i
  by_cases same : c = i
  · subst same
    have inside := (List.getElem?_eq_some_iff.mp found).1
    rw [List.getElem?_set_self inside, List.getElem?_modify_eq, found]
    rfl
  · simp [List.getElem?_modify_ne, List.getElem?_set_ne, same]

/-- The machine does nothing but what is listed as a step. -/
theorem step_of_next? {k : Cache κ ν} {m after : State κ ν} {e : Event κ ν}
    (h : k.next? m e = some after) : Step k m e after := by
  cases e with
  | call request =>
      cases Option.some.inj h
      exact .call request
  | clock reading =>
      cases Option.some.inj h
      exact .clock reading
  | finish load how lines =>
      simp only [next?] at h
      split at h
      · rename_i running
        cases Option.some.inj h
        exact .finish how lines running
      · contradiction
  | step c =>
      simp only [next?] at h
      split at h
      · rename_i call found
        exact (advances_of_advance? k m c call.request call.phase after h).step found
      · contradiction
  | expire c =>
      simp only [next?] at h
      split at h
      · rename_i call found
        exact (advances_of_expire? k m c call.request call.phase after h).step found
      · contradiction
  | refuse c reason =>
      simp only [next?] at h
      split at h
      · rename_i call found
        exact (advances_of_refuse? k m c call.request reason call.phase after h).step found
      · contradiction

/-! ## Needs -/

theorem holds_always (settings : CacheSettings) (s : Snapshot κ ν) (now : Nat) :
    Need.always.holds settings s now = true := by
  have young : Duration.zero.millis ≤ s.age now := by
    have zero : Duration.zero.millis = 0 := by decide
    omega
  exact decide_eq_true young

/-! ## Answers -/

theorem answer?_eq_some {k : Cache κ ν} {m : State κ ν} {c : Nat} {answer : Answer κ ν}
    (answered : k.answer? m c = some answer) :
    ∃ request r, m.calls[c]? = some ⟨request, .returned r⟩ ∧ answer = request.answer k.keyText r := by
  unfold answer? at answered
  split at answered
  · rename_i request r found
    exact ⟨request, r, found, (Option.some.inj answered).symm⟩
  · contradiction

theorem answer?_of_returned (k : Cache κ ν) {m : State κ ν} {c : Nat} {request : Request κ}
    {r : Return κ ν} (found : m.calls[c]? = some ⟨request, .returned r⟩) :
    k.answer? m c = some (request.answer k.keyText r) := by
  simp [answer?, found]

theorem answer?_of_crashed (k : Cache κ ν) {m : State κ ν} {c : Nat} {request : Request κ}
    (found : m.calls[c]? = some ⟨request, .returned .crashed⟩) : k.answer? m c = some .crashed := by
  rw [answer?_of_returned k found]
  cases request <;> rfl

/-! ## Runs -/

omit [DecidableEq κ] in
theorem set_cases {calls : List (Call κ ν)} {c i : Nat} {new call : Call κ ν}
    (found : (calls.set c new)[i]? = some call) :
    (i = c ∧ call = new) ∨ (i ≠ c ∧ calls[i]? = some call) := by
  by_cases same : i = c
  · subst same
    have inside := (List.getElem?_eq_some_iff.mp found).1
    rw [List.length_set] at inside
    rw [List.getElem?_set_self inside] at found
    exact .inl ⟨rfl, (Option.some.inj found).symm⟩
  · rw [List.getElem?_set_ne (Ne.symm same)] at found
    exact .inr ⟨same, found⟩

omit [DecidableEq κ] in
theorem append_cases {calls : List (Call κ ν)} {i : Nat} {new call : Call κ ν}
    (found : (calls ++ [new])[i]? = some call) :
    (i = calls.length ∧ call = new) ∨ calls[i]? = some call := by
  rcases Nat.lt_or_ge i calls.length with less | more
  · rw [List.getElem?_append_left less] at found
    exact .inr found
  · rw [List.getElem?_append_right more] at found
    obtain ⟨bound, rfl⟩ := List.getElem?_eq_some_iff.mp found
    have last : i = calls.length := by
      simp only [List.length_singleton] at bound
      omega
    exact .inl ⟨last, by simp⟩

/-- A call that is there after a step is new, or was there as it is, or has moved. -/
theorem Step.call_cases {k : Cache κ ν} {m after : State κ ν} {e : Event κ ν} {i : Nat}
    {call : Call κ ν} (step : Step k m e after) (there : after.calls[i]? = some call) :
    call.phase = .start ∨ m.calls[i]? = some call ∨
    ∃ p count, m.calls[i]? = some ⟨call.request, p⟩ ∧
      Move k m.now i call.request e p m.shared call.phase after.shared count ∧
      after.now = m.now := by
  cases step with
  | call request =>
      rcases append_cases there with ⟨_, rfl⟩ | before
      · exact .inl rfl
      · exact .inr (.inl before)
  | clock reading => exact .inr (.inl there)
  | finish how lines running => exact .inr (.inl there)
  | move found move calls now stats =>
      rw [calls] at there
      rcases set_cases there with ⟨rfl, rfl⟩ | ⟨_, before⟩
      · exact .inr (.inr ⟨_, _, found, move, now⟩)
      · exact .inr (.inl before)

omit [DecidableEq κ] in
theorem total_set {calls : List (Call κ ν)} {c : Nat} {old : Call κ ν} (new : Call κ ν)
    (gain : Call κ ν → Nat) (found : calls[c]? = some old) :
    total gain (calls.set c new) + gain old = total gain calls + gain new := by
  induction calls generalizing c with
  | nil => simp at found
  | cons call rest ih =>
      cases c with
      | zero =>
          cases Option.some.inj found
          simp only [List.set_cons_zero, total]
          omega
      | succ c =>
          have there : rest[c]? = some old := found
          have replaced := ih there
          simp only [List.set_cons_succ, total]
          omega

omit [DecidableEq κ] in
theorem total_append (gain : Call κ ν → Nat) (earlier later : List (Call κ ν)) :
    total gain (earlier ++ later) = total gain earlier + total gain later := by
  induction earlier with
  | nil => simp [total]
  | cons call rest ih => simp only [List.cons_append, total, ih, Nat.add_assoc]

theorem Move.not_returned {k : Cache κ ν} {now c : Nat} {request : Request κ} {e : Event κ ν}
    {r : Return κ ν} {p' : Phase κ ν} {sh sh' : Shared κ ν} {count : Stats → Stats}
    (move : Move k now c request e (.returned r) sh p' sh' count) : False := by
  cases move with
  | look look => cases look
  | enter from_ _ _ => rcases from_ with h | h <;> cases h
  | turnBack from_ _ _ => rcases from_ with h | h <;> cases h

theorem Move.eq_of_step {k : Cache κ ν} {now c i : Nat} {request : Request κ} {p p' : Phase κ ν}
    {sh sh' : Shared κ ν} {count : Stats → Stats}
    (move : Move k now c request (.step i) p sh p' sh' count) : i = c := by
  cases move <;> rfl

/-- A call stays as it is in a step, or moves. -/
theorem Step.call_next {k : Cache κ ν} {m after : State κ ν} {e : Event κ ν} {i : Nat}
    {request : Request κ} {p : Phase κ ν} (step : Step k m e after)
    (found : m.calls[i]? = some ⟨request, p⟩) :
    after.calls[i]? = some ⟨request, p⟩ ∨
    ∃ p' count, after.calls[i]? = some ⟨request, p'⟩ ∧
      Move k m.now i request e p m.shared p' after.shared count := by
  have bound := (List.getElem?_eq_some_iff.mp found).1
  cases step with
  | call request => exact .inl (by rw [List.getElem?_append_left bound, found])
  | clock reading => exact .inl found
  | finish how lines running => exact .inl found
  | @move e c other p₁ p' count after there move calls now stats =>
      rw [calls]
      by_cases same : c = i
      · subst same
        rw [found] at there
        cases there
        exact .inr ⟨p', count, List.getElem?_set_self bound, move⟩
      · exact .inl (by rw [List.getElem?_set_ne same, found])

/-- What a call has returned stays. -/
theorem Step.returned {k : Cache κ ν} {m after : State κ ν} {e : Event κ ν} {i : Nat}
    {request : Request κ} {r : Return κ ν} (step : Step k m e after)
    (found : m.calls[i]? = some ⟨request, .returned r⟩) :
    after.calls[i]? = some ⟨request, .returned r⟩ := by
  rcases step.call_next found with same | ⟨p', count, _, move⟩
  · exact same
  · exact move.not_returned.elim

theorem run_append (k : Cache κ ν) (m : State κ ν) (earlier later : List (Event κ ν)) :
    k.run m (earlier ++ later) = k.run (k.run m earlier) later := by
  simp [run, List.foldl_append]

theorem run_snoc {k : Cache κ ν} {m after : State κ ν} {events : List (Event κ ν)}
    {e : Event κ ν} (next : k.next? (k.run m events) e = some after) :
    k.run m (events ++ [e]) = after := by
  rw [run_append]
  change (k.next? (k.run m events) e).getD (k.run m events) = after
  rw [next]
  rfl

/-- What every step keeps holds at the end of a run. -/
theorem run_keeps {k : Cache κ ν} {P : State κ ν → Prop}
    (step : ∀ m e after, P m → Step k m e after → P after) {m : State κ ν} (holds : P m)
    (events : List (Event κ ν)) : P (k.run m events) := by
  induction events generalizing m with
  | nil => exact holds
  | cons e rest ih =>
      apply ih
      change P ((k.next? m e).getD m)
      cases next : k.next? m e with
      | none => exact holds
      | some after => exact step m e after holds (step_of_next? next)

/-- What holds before the first event, and of a history with each event more, holds of all. -/
theorem run_history {k : Cache κ ν} {m : State κ ν} {P : List (Event κ ν) → State κ ν → Prop}
    (first : P [] m)
    (pass : ∀ events e, k.next? (k.run m events) e = none →
      P events (k.run m events) → P (events ++ [e]) (k.run m events))
    (step : ∀ events e after, k.next? (k.run m events) e = some after →
      P events (k.run m events) → P (events ++ [e]) after)
    (events : List (Event κ ν)) : P events (k.run m events) := by
  induction events using List.reverseRecOn with
  | nil => exact first
  | append_singleton events e ih =>
      have last : k.run m (events ++ [e]) = (k.next? (k.run m events) e).getD (k.run m events) := by
        rw [run_append]
        rfl
      rw [last]
      cases next : k.next? (k.run m events) e with
      | none => exact pass events e next ih
      | some after => exact step events e after next ih

end Moves

/-- A cache of numbers under themselves. -/
def plainCache : Cache Nat Nat where
  name := "plain"
  settings := ⟨Duration.ofMillis 300, Duration.ofMillis 150, some (Duration.ofMillis 100)⟩
  label := "source"
  keyOf := some
  keyText := toString

/-- The first call loads the catalog. -/
def supply : List (Event Nat Nat) :=
  .call .all :: List.replicate 4 (.step 0) ++
    .finish 0 (.delivered [7]) [] :: List.replicate 4 (.step 0)

end Telemetry.Cache
