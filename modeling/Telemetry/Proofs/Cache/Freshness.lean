import Mathlib.Data.List.Infix
import Telemetry.Proofs.Cache.Counters
import Telemetry.Proofs.Cache.Installed
import Telemetry.Proofs.Cache.SingleFlight

/-!
# Freshness

A snapshot is dated by the clock at the moment at which a reload arranged its
records.  When the clock stands still during calls, that is the reading at which
the load was received; and at that reading the load ran, or it had ended before
without a caller to wait for it, after an earlier reload had given it up.
-/
set_option autoImplicit false
namespace Telemetry.Cache

variable {κ ν : Type}

def Phase.hasReturned : Phase κ ν → Bool
  | .returned _ => true
  | _ => false

/-- The clock takes no reading during a call, and none before its last one. -/
def timely (m : State κ ν) : Event κ ν → Bool
  | .clock reading => m.now ≤ reading && m.calls.all fun call => call.phase.hasReturned
  | _ => true

section Machine
variable [DecidableEq κ] {k : Cache κ ν} {start now c : Nat} {request : Request κ}
  {e : Event κ ν} {p p' : Phase κ ν} {sh sh' : Shared κ ν} {count : Stats → Stats}
  {events events' : List (Event κ ν)} {s : Snapshot κ ν} {need : Need κ}

def paced (k : Cache κ ν) (m : State κ ν) : List (Event κ ν) → Bool
  | [] => true
  | e :: rest => timely m e && paced k ((k.next? m e).getD m) rest

theorem paced_snoc (k : Cache κ ν) (m : State κ ν) (events : List (Event κ ν)) (e : Event κ ν) :
    k.paced m (events ++ [e]) = (k.paced m events && timely (k.run m events) e) := by
  induction events generalizing m with
  | nil => simp [paced, run]
  | cons first rest ih =>
      rw [List.cons_append, paced, ih, paced, Bool.and_assoc]
      rfl

/-! ## What is known of the time of a load -/

/-- The load was running at some time when the clock read so. -/
def Ran (k : Cache κ ν) (start : Nat) (events : List (Event κ ν)) (load reading : Nat) : Prop :=
  ∃ before, before <+: events ∧ (k.run (State.empty start) before).now = reading ∧
    (k.run (State.empty start) before).loads[load]? = some .running

/-- At some time the load had ended, and there was no call that waited for it. -/
def LeftOver (k : Cache κ ν) (start : Nat) (events : List (Event κ ν)) (load : Nat) : Prop :=
  ∃ before, before <+: events ∧ (k.run (State.empty start) before).parked = some load ∧
    ∃ how, (k.run (State.empty start) before).loads[load]? = some (.ended how)

def Traced (k : Cache κ ν) (start : Nat) (events : List (Event κ ν)) (load reading : Nat) : Prop :=
  Ran k start events load reading ∨ LeftOver k start events load

/-- A call received the load when the clock read so. -/
def Collected (k : Cache κ ν) (start : Nat) (events : List (Event κ ν)) (load reading : Nat) :
    Prop :=
  (∃ c, ⟨load, c, reading⟩ ∈ k.receipts (State.empty start) events) ∧
    Traced k start events load reading

def Dated (k : Cache κ ν) (start : Nat) (events : List (Event κ ν)) (now : Nat)
    (s : Snapshot κ ν) : Prop :=
  s.fetchedAt ≤ now ∧ Collected k start events s.load s.fetchedAt

theorem Traced.grow {load reading : Nat} (traced : Traced k start events load reading)
    (longer : events <+: events') : Traced k start events' load reading := by
  rcases traced with ⟨before, among, then_⟩ | ⟨before, among, then_⟩
  · exact .inl ⟨before, among.trans longer, then_⟩
  · exact .inr ⟨before, among.trans longer, then_⟩

theorem Collected.grow {load reading : Nat} (collected : Collected k start events load reading)
    (longer : events <+: events') : Collected k start events' load reading := by
  obtain ⟨⟨c, receipt⟩, traced⟩ := collected
  refine ⟨⟨c, ?_⟩, traced.grow longer⟩
  obtain ⟨rest, rfl⟩ := longer
  rw [receipts_append]
  exact List.mem_append_left _ receipt

theorem Dated.grow {now' : Nat} (dated : Dated k start events now s) (longer : events <+: events')
    (later : now ≤ now') : Dated k start events' now' s :=
  ⟨Nat.le_trans dated.1 later, dated.2.grow longer⟩

/-! ## What a call knows of the time -/

/-- A call for the whole catalog needs a snapshot that is not stale. -/
def Wants (request : Request κ) (need : Need κ) : Prop := request = .all → need = .stale

omit [DecidableEq κ] in
theorem wants_need (request : Request κ) (seen : Bool) : Wants request (request.need seen) := by
  rintro rfl
  rfl

/-- A snapshot served by the route is young enough for a call for the whole catalog. -/
def InTime (settings : CacheSettings) (now : Nat) (s : Snapshot κ ν) : Route → Prop
  | .hit => now - s.fetchedAt < settings.invalidateAfter.millis
  | .reloaded => s.fetchedAt = now
  | .lacking => False
  | .inFlight | .fallback => True

theorem inTime_of_young {settings : CacheSettings} (wants : Wants request need)
    (young : need.holds settings s now = false) (whole : request = .all) :
    InTime settings now s .hit := by
  rw [wants whole] at young
  have early : ¬ settings.invalidateAfter.millis ≤ now - s.fetchedAt := of_decide_eq_false young
  exact Nat.lt_of_not_le early

theorem Wants.limited {settings : CacheSettings} (wants : Wants request need)
    (unlimited : need.limit? settings s = none) : request ≠ .all := by
  intro whole
  rw [wants whole] at unlimited
  cases unlimited

def Known (k : Cache κ ν) (start : Nat) (events : List (Event κ ν)) (now : Nat)
    (request : Request κ) : Phase κ ν → Prop
  | .judge need s | .recheck need s => Wants request need ∧ Dated k start events now s
  | .approach need | .occupied need | .queue need | .inspect need => Wants request need
  | .awaiting load _ => Traced k start events load now
  | .collected load _ _ => Collected k start events load now
  | .publish s _ => Dated k start events now s ∧ s.fetchedAt = now
  | .leaving (.served route s) =>
    Dated k start events now s ∧ (request = .all → InTime k.settings now s route)
  | _ => True

theorem Known.grow (known : Known k start events now request p) (longer : events <+: events') :
    Known k start events' now request p := by
  cases p with
  | judge need s => exact ⟨known.1, known.2.grow longer (Nat.le_refl now)⟩
  | recheck need s => exact ⟨known.1, known.2.grow longer (Nat.le_refl now)⟩
  | approach need => exact known
  | occupied need => exact known
  | queue need => exact known
  | inspect need => exact known
  | awaiting load previous => exact Traced.grow known longer
  | collected load records previous => exact Collected.grow known longer
  | publish s previous => exact ⟨known.1.grow longer (Nat.le_refl now), known.2⟩
  | leaving r =>
      cases r with
      | served route s => exact ⟨known.1.grow longer (Nat.le_refl now), known.2⟩
      | _ => trivial
  | _ => trivial

theorem Look.known (look : Look k now request sh p p' count)
    (current : ∀ s, sh.snapshot = some s → Dated k start events now s)
    (known : Known k start events now request p) : Known k start events now request p' := by
  cases look with
  | force kind =>
      subst kind
      exact nofun
  | lack _ _ => exact wants_need request false
  | see _ there _ => exact ⟨wants_need request true, current _ there⟩
  | old _ => exact known.1
  | taken _ => exact known
  | wait _ => exact known
  | filled there unlimited =>
      exact ⟨current _ there, fun whole => absurd whole (Wants.limited known unlimited)⟩
  | review there _ => exact ⟨known, current _ there⟩
  | lapse young => exact ⟨known.2, inTime_of_young known.1 young⟩
  | arrange _ => exact ⟨⟨Nat.le_refl now, known⟩, rfl⟩
  | _ => trivial

theorem known_fallen {previous : Option (Snapshot κ ν)} {error : CacheError}
    (current : ∀ s, sh.snapshot = some s → Dated k start events now s)
    (seen : sh.snapshot = previous) :
    Known k start events now request (.leaving (fallen previous error)) := by
  cases previous with
  | some s => exact ⟨current s seen, fun _ => trivial⟩
  | none => trivial

end Machine

section Run
variable [DecidableEq κ] {k : Cache κ ν} {start c : Nat} {request : Request κ} {e : Event κ ν}
  {p p' : Phase κ ν} {count : Stats → Stats} {events : List (Event κ ν)} {after : State κ ν}

/-- A parked load runs, or it is left over. -/
theorem traced_of_parked {load : Nat} (coherent : Coherent (k.run (State.empty start) events))
    (parked : (k.run (State.empty start) events).parked = some load) :
    Traced k start events load (k.run (State.empty start) events).now := by
  obtain ⟨l, there, pending⟩ := (coherent.flight.pending_iff load).mpr (.inl parked)
  cases l with
  | running => exact .inl ⟨events, List.prefix_refl events, rfl, there⟩
  | ended how => exact .inr ⟨events, List.prefix_refl events, parked, how, there⟩
  | received how => cases pending

theorem Move.known
    (consistent : Consistent k (k.run (State.empty start) events))
    (current : ∀ s, (k.run (State.empty start) events).snapshot = some s →
      Dated k start events (k.run (State.empty start) events).now s)
    (next : k.next? (k.run (State.empty start) events) e = some after)
    (still : after.now = (k.run (State.empty start) events).now)
    (found : (k.run (State.empty start) events).calls[c]? = some ⟨request, p⟩)
    (move : Move k (k.run (State.empty start) events).now c request e p
      (k.run (State.empty start) events).shared p' after.shared count)
    (known : Known k start events (k.run (State.empty start) events).now request p) :
    Known k start (events ++ [e]) (k.run (State.empty start) events).now request p' := by
  have longer : events <+: events ++ [e] := List.prefix_append events [e]
  have sound := consistent.sourced.sound c _ found
  generalize shared : after.shared = sh' at move
  cases move with
  | look look => exact (look.known current known).grow longer
  | enter from_ _ _ => rcases from_ with rfl | rfl <;> exact known
  | turnBack _ _ _ => trivial
  | resume parked => exact (traced_of_parked consistent.coherent parked).grow longer
  | begin _ _ =>
      refine .inl ⟨events ++ [.step c], List.prefix_refl _, ?_, ?_⟩
      · rw [run_snoc next, still]
      · have loads : after.loads = _ := congrArg Shared.loads shared
        rw [run_snoc next, loads]
        simp
  | refuse _ _ _ => exact (known_fallen current sound).grow longer
  | @receive load records previous _ ended =>
      change (k.run (State.empty start) events).loads[load]? = some (.ended (.delivered records)) at ended
      refine ⟨⟨c, ?_⟩, Traced.grow known longer⟩
      have receipt : receipt? (k.run (State.empty start) events) (.step c) =
          some ⟨load, c, (k.run (State.empty start) events).now⟩ := by
        simp [receipt?, found, ended]
      rw [receipts_snoc, receipt]
      simp
  | fail _ _ => exact (known_fallen current sound).grow longer
  | giveUp _ => exact (known_fallen current sound).grow longer
  | die _ _ => trivial
  | nameless _ _ => trivial
  | keyless _ => trivial
  | install => exact ⟨known.1.grow longer (Nat.le_refl _), fun _ => known.2⟩
  | leave => trivial

/-- What is known of the time in a state that a history leads to. -/
structure Timed (k : Cache κ ν) (start : Nat) (events : List (Event κ ν)) (m : State κ ν) :
    Prop where
  current : ∀ s, m.snapshot = some s → Dated k start events m.now s
  known : ∀ (i : Nat) (call : Call κ ν), m.calls[i]? = some call →
    Known k start events m.now call.request call.phase

theorem Timed.grow {m : State κ ν} {events' : List (Event κ ν)} (timed : Timed k start events m)
    (longer : events <+: events') : Timed k start events' m :=
  ⟨fun s there => (timed.current s there).grow longer (Nat.le_refl _),
    fun i call there => (timed.known i call there).grow longer⟩

theorem Timed.step (timed : Timed k start events (k.run (State.empty start) events))
    (onTime : timely (k.run (State.empty start) events) e = true)
    (next : k.next? (k.run (State.empty start) events) e = some after) :
    Timed k start (events ++ [e]) after := by
  have consistent := consistent_run k start events
  have grown := timed.grow (List.prefix_append events [e])
  cases step_of_next? next with
  | call request =>
      refine ⟨grown.current, ?_⟩
      intro i call there
      rcases append_cases there with ⟨_, rfl⟩ | before
      · trivial
      · exact grown.known i call before
  | clock reading =>
      -- between calls there is nothing in progress that the reading could make out of date
      simp only [timely, Bool.and_eq_true, decide_eq_true_eq, List.all_eq_true] at onTime
      constructor
      · intro s there
        exact (grown.current s there).grow (List.prefix_refl _) onTime.1
      · intro i call there
        have returned := onTime.2 call (List.mem_of_getElem? there)
        obtain ⟨request, p⟩ := call
        cases p with
        | returned r => trivial
        | _ => cases returned
  | finish how lines running => exact ⟨grown.current, grown.known⟩
  | @move _ c request p p' count _ found move calls still stats =>
      have own := move.known consistent timed.current next still found (timed.known c _ found)
      constructor
      · intro s there
        rw [still]
        cases move.turnover with
        | same same => exact grown.current s (same.symm.trans there)
        | swap published _ swapped =>
            subst published
            cases there.symm.trans swapped
            exact (grown.known c _ found).1
      · intro i call there
        rw [still]
        rw [calls] at there
        rcases set_cases there with ⟨rfl, rfl⟩ | ⟨_, before⟩
        · exact own
        · exact grown.known i call before

theorem timed_run (k : Cache κ ν) (start : Nat) (events : List (Event κ ν))
    (paced : k.paced (State.empty start) events = true) :
    Timed k start events (k.run (State.empty start) events) := by
  refine run_history (m := State.empty start)
    (P := fun events m => k.paced (State.empty start) events = true → Timed k start events m)
    ?_ ?_ ?_ events paced
  · intro _
    constructor <;> simp [State.empty]
  · intro events e _ timed paced
    rw [paced_snoc, Bool.and_eq_true] at paced
    exact (timed paced.1).grow (List.prefix_append events [e])
  · intro events e after next timed paced
    rw [paced_snoc, Bool.and_eq_true] at paced
    exact (timed paced.1).step paced.2 next

theorem Move.inTime {sh sh' : Shared κ ν} {now : Nat} {route : Route} {s : Snapshot κ ν}
    (move : Move k now c .all e p sh (.returned (.served route s)) sh' count)
    (known : Known k start events now .all p) (fresh : (Return.served route s).isStale = false) :
    Dated k start events now s ∧ InTime k.settings now s route := by
  cases move with
  | look look =>
      cases look with
      | present _ _ unlimited => exact absurd rfl (Wants.limited (wants_need .all true) unlimited)
      | lacking _ => cases known.1 rfl
      | young _ young => exact ⟨known.2, inTime_of_young known.1 young rfl⟩
      | overtaken _ => cases fresh
  | leave => exact ⟨known.1, known.2 rfl⟩

omit [DecidableEq κ] in
theorem InTime.age_lt {settings : CacheSettings} {now : Nat} {route : Route} {s : Snapshot κ ν}
    (inTime : InTime settings now s route) (fresh : (Return.served route s).isStale = false)
    (positive : 0 < settings.invalidateAfter.nanos) :
    (now - s.fetchedAt) * nanosPerMilli < settings.invalidateAfter.nanos := by
  cases route with
  | hit =>
      have young : now - s.fetchedAt < settings.invalidateAfter.nanos / nanosPerMilli := inTime
      unfold nanosPerMilli at young ⊢
      omega
  | reloaded =>
      have dated : s.fetchedAt = now := inTime
      rw [dated, Nat.sub_self, Nat.zero_mul]
      exact positive
  | lacking => exact inTime.elim
  | _ => cases fresh

theorem Step.answers {m : State κ ν} {r : Return κ ν} (step : Step k m e after)
    (unanswered : k.answer? m c = none) (answered : after.calls[c]? = some ⟨request, .returned r⟩) :
    ∃ p count, m.calls[c]? = some ⟨request, p⟩ ∧
      Move k m.now c request e p m.shared (.returned r) after.shared count := by
  rcases step.call_cases answered with fresh | before | ⟨p, count, before, move, _⟩
  · cases fresh
  · rw [answer?_of_returned k before] at unanswered
    cases unanswered
  · exact ⟨p, count, before, move⟩

/-- The clock moving only between calls, and never back: a call for the whole catalog whose answer is
not counted as stale is answered with what a load delivered that a call received less than the
limit before; and at that reading the load ran, if it had not been left over before. -/
theorem fresh_answers (k : Cache κ ν) (start : Nat) (events : List (Event κ ν))
    (paced : k.paced (State.empty start) events = true)
    (positive : 0 < k.settings.invalidateAfter.nanos) :
    let m := k.run (State.empty start) events
    ∀ e after c route s, k.next? m e = some after → k.answer? m c = none →
      after.calls[c]? = some ⟨.all, .returned (.served route s)⟩ →
      after.stats.staleServed = after.calls.countP (fun call => call.phase.isStale) ∧
      ((Return.served route s).isStale = false →
        Genuine k after.loads s ∧ ∃ caller reading,
          ⟨s.load, caller, reading⟩ ∈ k.receipts (State.empty start) events ∧
          (m.now - reading) * nanosPerMilli < k.settings.invalidateAfter.nanos ∧
          (Ran k start events s.load reading ∨ LeftOver k start events s.load)) := by
  intro m e after c route s next unanswered answered
  have last : k.run (State.empty start) (events ++ [e]) = after := run_snoc next
  constructor
  · rw [← last]
    exact staleServed_run k start (events ++ [e])
  · intro fresh
    have consistent := consistent_run k start (events ++ [e])
    rw [last] at consistent
    obtain ⟨genuine, _⟩ := consistent.sourced.sound c _ answered
    obtain ⟨p, count, found, move⟩ := (step_of_next? next).answers unanswered answered
    have timed := timed_run k start events paced
    obtain ⟨⟨_, ⟨caller, receipt⟩, traced⟩, inTime⟩ :=
      move.inTime (timed.known c _ found) fresh
    exact ⟨genuine, caller, s.fetchedAt, receipt, inTime.age_lt fresh positive, traced⟩

end Run

theorem fresh_after_supply :
    let events := supply ++ [.clock 200, .call .all, .step 1]
    ∃ after, plainCache.next? (plainCache.run (State.empty 0) events) (.step 1) = some after ∧
      after.calls[1]? = some ⟨.all, .returned (.served .hit ⟨[(7, 7)], 0, 0⟩)⟩ ∧
      ∃ caller reading, ⟨0, caller, reading⟩ ∈ plainCache.receipts (State.empty 0) events ∧
        (200 - reading) * nanosPerMilli < 300 * nanosPerMilli ∧
        (Ran plainCache 0 events 0 reading ∨ LeftOver plainCache 0 events 0) := by
  intro events
  have goes : (plainCache.next? (plainCache.run (State.empty 0) events) (.step 1)).isSome = true := by
    decide +kernel
  obtain ⟨after, next⟩ := Option.isSome_iff_exists.mp goes
  have answered : after.calls[1]? = some ⟨.all, .returned (.served .hit ⟨[(7, 7)], 0, 0⟩)⟩ := by
    rw [← run_snoc next]
    decide +kernel
  obtain ⟨_, fresh⟩ := fresh_answers plainCache 0 events (by decide +kernel) (by decide +kernel)
    _ after 1 _ _ next (by decide +kernel) answered
  obtain ⟨_, caller, reading, receipt, young, traced⟩ := fresh rfl
  exact ⟨after, next, answered, caller, reading, receipt, young, traced⟩

/-- A load is given up and then ends, and a whole second later another call comes. -/
def leftover : List (Event Nat Nat) :=
  .call .all :: List.replicate 4 (.step 0) ++ [.expire 0, .step 0, .finish 0 (.delivered [7]) [],
    .clock 1000, .call .all] ++ List.replicate 7 (.step 1)

/-- Without the second alternative it would not hold: no reading at which the load ran is young. -/
theorem leftover_served_as_fresh :
    let m := plainCache.run (State.empty 0) leftover
    let after := plainCache.run (State.empty 0) (leftover ++ [.step 1])
    plainCache.paced (State.empty 0) leftover = true ∧
    0 < plainCache.settings.invalidateAfter.nanos ∧
    plainCache.answer? m 1 = none ∧
    after.calls[1]? = some ⟨.all, .returned (.served .reloaded ⟨[(7, 7)], 1000, 0⟩)⟩ ∧
    after.stats.staleServed = 0 ∧
    ∀ before, before <+: leftover ++ [.step 1] →
      (plainCache.run (State.empty 0) before).loads[0]? = some .running →
      plainCache.settings.invalidateAfter.nanos ≤
        (after.now - (plainCache.run (State.empty 0) before).now) * nanosPerMilli := by
  intro m after
  have old : ∀ before ∈ (leftover ++ [Event.step 1]).inits,
      (plainCache.run (State.empty 0) before).loads[0]? = some .running →
      plainCache.settings.invalidateAfter.nanos ≤
        (after.now - (plainCache.run (State.empty 0) before).now) * nanosPerMilli := by
    decide +kernel
  refine ⟨by decide +kernel, by decide +kernel, by decide +kernel, by decide +kernel,
    by decide +kernel, ?_⟩
  intro before among
  exact old before ((List.mem_inits before _).mpr among)

end Telemetry.Cache
