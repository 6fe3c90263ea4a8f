import Telemetry.Proofs.Cache.History
import Telemetry.Proofs.Cache.Installed

/-!
# How often snapshots are replaced

A call that asks for no refresh reloads only if the snapshot that it finds in
the gate has reached one of the limits, and stamps what it installs later.  So
the snapshots that such calls install are at least the smaller limit younger than
those they replace; and while the clock stands still, the first of them is too
young to be replaced again.
-/
set_option autoImplicit false
namespace Telemetry.Cache

variable {κ ν : Type}

/-- A snapshot has become the current one. -/
structure Installation (κ ν : Type) where
  request : Request κ
  replaced : Option (Snapshot κ ν)
  snapshot : Snapshot κ ν
  deriving DecidableEq, Repr

/-- The installation that an event brings about. -/
def installation? (m : State κ ν) : Event κ ν → Option (Installation κ ν)
  | .step c =>
    match m.calls[c]? with
    | some ⟨request, .publish s _⟩ => some ⟨request, m.snapshot, s⟩
    | _ => none
  | _ => none

/-- The call is about to install a snapshot. -/
def Phase.isPublish : Phase κ ν → Bool
  | .publish .. => true
  | _ => false

/-- The clock takes no reading before its last one. -/
def forward (m : State κ ν) : Event κ ν → Bool
  | .clock reading => m.now ≤ reading
  | _ => true

/-- The clock stands still, and no call asks for a refresh. -/
def frozen (m : State κ ν) : Event κ ν → Bool
  | .clock reading => reading == m.now
  | .call .refresh => false
  | _ => true

/-- The call has returned; or it asks for no refresh and has nothing dated otherwise than `now`. -/
def Call.isCurrent (now : Nat) : Call κ ν → Bool
  | ⟨_, .returned _⟩ => true
  | ⟨.refresh, _⟩ => false
  | ⟨_, .publish s _⟩ => s.fetchedAt == now
  | _ => true

/-- The age in milliseconds that a snapshot must have reached before a call other than a refresh
reloads. -/
def spacing (k : Cache κ ν) : Nat :=
  min k.settings.invalidateAfter.millis k.settings.retryAfter.millis

section Machine
variable [DecidableEq κ] {k : Cache κ ν} {now c : Nat} {request : Request κ} {e : Event κ ν}
  {p p' : Phase κ ν} {sh sh' : Shared κ ν} {count : Stats → Stats} {m after : State κ ν}
  {s : Snapshot κ ν} {need : Need κ}

/-! ## The age at which a reload starts -/

theorem spacing_le_of_holds (unforced : need ≠ .always)
    (holds : need.holds k.settings s now = true) : k.spacing ≤ now - s.fetchedAt := by
  cases need with
  | always => exact absurd rfl unforced
  | stale =>
      have old : k.settings.invalidateAfter.millis ≤ now - s.fetchedAt := of_decide_eq_true holds
      exact Nat.le_trans (Nat.min_le_left _ _) old
  | missing key =>
      cases found : (s.lookup key).isSome with
      | true => simp [Need.holds, Need.limit?, found] at holds
      | false =>
          simp only [Need.holds, Need.limit?, found] at holds
          have old : k.settings.retryAfter.millis ≤ now - s.fetchedAt := of_decide_eq_true holds
          exact Nat.le_trans (Nat.min_le_right _ _) old
  | empty => cases holds

/-- What a call may install over a snapshot is dated as much later. -/
def Spaced (k : Cache κ ν) (now : Nat) (request : Request κ) : Phase κ ν → Prop
  | .judge need _ | .approach need | .occupied need | .queue need | .inspect need
  | .recheck need _ => request ≠ .refresh → need ≠ .always
  | .load (some s) | .awaiting _ (some s) | .collected _ _ (some s) =>
    request ≠ .refresh → s.fetchedAt + k.spacing ≤ now
  | .publish new previous => new.fetchedAt ≤ now ∧ (request ≠ .refresh →
      ∀ s, previous = some s → s.fetchedAt + k.spacing ≤ new.fetchedAt)
  | _ => True

omit [DecidableEq κ] in
theorem need_ne_always (seen : Bool) (kind : request ≠ .refresh) :
    request.need seen ≠ .always := by
  cases request with
  | all => exact nofun
  | get key => cases seen <;> exact nofun
  | refresh => exact absurd rfl kind

theorem Look.spaced (look : Look k now request sh p p' count)
    (seen : ∀ need s, p = .recheck need s → s.fetchedAt ≤ now) (spaced : Spaced k now request p) :
    Spaced k now request p' := by
  cases look with
  | force kind => exact fun other => absurd kind other
  | lack _ _ => exact need_ne_always false
  | see _ _ _ => exact need_ne_always true
  | old _ => exact spaced
  | taken _ => exact spaced
  | wait _ => exact spaced
  | review _ _ => exact spaced
  | @confirm need s holds =>
      intro kind
      have aged := spacing_le_of_holds (spaced kind) holds
      have dated := seen need s rfl
      omega
  | @arrange load records previous entries _ =>
      refine ⟨Nat.le_refl now, ?_⟩
      rintro kind s rfl
      exact spaced kind
  | _ => trivial

theorem Move.spaced (move : Move k now c request e p sh p' sh' count)
    (seen : ∀ need s, p = .recheck need s → s.fetchedAt ≤ now) (spaced : Spaced k now request p) :
    Spaced k now request p' := by
  cases move with
  | look look => exact look.spaced seen spaced
  | enter from_ _ _ => rcases from_ with rfl | rfl <;> exact spaced
  | @resume load previous _ _ => cases previous <;> exact spaced
  | @begin previous _ _ _ => cases previous <;> exact spaced
  | @receive load records previous _ _ => cases previous <;> exact spaced
  | _ => trivial

omit [DecidableEq κ] in
theorem Spaced.later {now' : Nat} (spaced : Spaced k now request p) (later : now ≤ now') :
    Spaced k now' request p := by
  cases p with
  | load previous =>
      cases previous with
      | none => trivial
      | some s => exact fun kind => Nat.le_trans (spaced kind) later
  | awaiting load previous =>
      cases previous with
      | none => trivial
      | some s => exact fun kind => Nat.le_trans (spaced kind) later
  | collected load records previous =>
      cases previous with
      | none => trivial
      | some s => exact fun kind => Nat.le_trans (spaced kind) later
  | publish new previous => exact ⟨Nat.le_trans spaced.1 later, spaced.2⟩
  | _ => exact spaced

/-! ## Along a run -/

/-- No snapshot is dated in the future, and no call replaces one too early. -/
structure Ordered (k : Cache κ ν) (m : State κ ν) : Prop where
  current : ∀ s, m.snapshot = some s → s.fetchedAt ≤ m.now
  spaced : ∀ (i : Nat) (call : Call κ ν), m.calls[i]? = some call →
    Spaced k m.now call.request call.phase

theorem Ordered.step (ordered : Ordered k m) (consistent : Consistent k m)
    (ahead : forward m e = true) (step : Step k m e after) : Ordered k after := by
  cases step with
  | call request =>
      refine ⟨ordered.current, ?_⟩
      intro i call there
      rcases append_cases there with ⟨_, rfl⟩ | before
      · trivial
      · exact ordered.spaced i call before
  | clock reading =>
      have later : m.now ≤ reading := of_decide_eq_true ahead
      exact ⟨fun s there => Nat.le_trans (ordered.current s there) later,
        fun i call there => (ordered.spaced i call there).later later⟩
  | finish how lines running => exact ⟨ordered.current, ordered.spaced⟩
  | @move e c request p p' count after found move calls still stats =>
      have own : Spaced k m.now request p' := by
        refine move.spaced ?_ (ordered.spaced c _ found)
        rintro need s rfl
        exact ordered.current s (consistent.sourced.sound c _ found)
      constructor
      · intro s there
        rw [still]
        cases move.turnover with
        | same same => exact ordered.current s (same.symm.trans there)
        | swap published _ swapped =>
            subst published
            cases there.symm.trans swapped
            exact (ordered.spaced c _ found).1
      · intro i call there
        rw [still]
        rw [calls] at there
        rcases set_cases there with ⟨rfl, rfl⟩ | ⟨_, before⟩
        · exact own
        · exact ordered.spaced i call before

/-- What is installed is dated no later than now, and late enough after what it replaces. -/
def Installation.Spaced (k : Cache κ ν) (i : Installation κ ν) : Prop :=
  i.request ≠ .refresh → ∀ old, i.replaced = some old →
    old.fetchedAt + k.spacing ≤ i.snapshot.fetchedAt

omit [DecidableEq κ] in
theorem installation?_eq_some {i : Installation κ ν} (installed : installation? m e = some i) :
    ∃ c previous, e = .step c ∧
      m.calls[c]? = some ⟨i.request, .publish i.snapshot previous⟩ ∧ i.replaced = m.snapshot := by
  unfold installation? at installed
  split at installed
  · split at installed
    · next found =>
      cases Option.some.inj installed
      exact ⟨_, _, rfl, found, rfl⟩
    · cases installed
  · cases installed

theorem Ordered.installs (ordered : Ordered k m) (consistent : Consistent k m)
    {i : Installation κ ν} (installed : installation? m e = some i) : i.Spaced k := by
  obtain ⟨c, previous, rfl, found, replaced⟩ := installation?_eq_some installed
  intro kind old there
  have seen : m.snapshot = previous := (consistent.sourced.sound c _ found).1
  exact (ordered.spaced c _ found).2 kind old (by rw [← seen, ← replaced, there])

omit [DecidableEq κ] in
theorem installation?_eq_none (found : m.calls[c]? = some ⟨request, p⟩)
    (idle : p.isPublish = false) : installation? m (.step c) = none := by
  cases p with
  | publish s previous => cases idle
  | _ => simp [installation?, found]

theorem Look.not_publish (look : Look k now request sh p p' count) : p.isPublish = false := by
  cases look <;> rfl

/-- The snapshot changes where one is installed, and nowhere else. -/
theorem Step.snapshot_eq (step : Step k m e after) : after.snapshot =
    match installation? m e with
    | some i => some i.snapshot
    | none => m.snapshot := by
  cases step with
  | call request => rfl
  | clock reading => rfl
  | finish how lines running => rfl
  | @move e c request p p' count after found move calls still stats =>
      generalize shared : after.shared = sh' at move
      have same : after.snapshot = sh'.snapshot := congrArg Shared.snapshot shared
      have idle : p.isPublish = false → installation? m (.step c) = none :=
        installation?_eq_none found
      rw [same]
      cases move with
      | install => simp [installation?, found]
      | refuse _ _ _ => rfl
      | giveUp _ => rfl
      | look look => rw [idle look.not_publish]; rfl
      | enter from_ _ _ => rcases from_ with rfl | rfl <;> rw [idle rfl] <;> rfl
      | turnBack from_ _ _ => rcases from_ with rfl | rfl <;> rw [idle rfl] <;> rfl
      | _ => rw [idle rfl]; rfl

theorem ordered_run (k : Cache κ ν) (start : Nat) (events : List (Event κ ν))
    (ahead : k.heeds forward (State.empty start) events = true) :
    Consistent k (k.run (State.empty start) events) ∧ Ordered k (k.run (State.empty start) events) ∧
      ∀ i ∈ k.record installation? (State.empty start) events, i.Spaced k := by
  refine record_run
    (P := fun notes m => Consistent k m ∧ Ordered k m ∧ ∀ i ∈ notes, Installation.Spaced k i)
    ?_ ⟨consistent_run k start [], ⟨nofun, nofun⟩, nofun⟩ events ahead
  rintro notes m e after ⟨consistent, ordered, spaced⟩ ahead next
  have step := step_of_next? next
  refine ⟨consistent.step step, ordered.step consistent ahead step, ?_⟩
  intro i among
  rcases List.mem_append.mp among with before | last
  · exact spaced i before
  · exact ordered.installs consistent (Option.mem_toList.mp last)

/-! ## While the clock stands still -/

omit [DecidableEq κ] in
theorem isCurrent_publish {previous : Option (Snapshot κ ν)} :
    Call.isCurrent now ⟨request, .publish s previous⟩ = true ↔
      request ≠ .refresh ∧ s.fetchedAt = now := by
  cases request <;> simp [Call.isCurrent]

theorem Move.isCurrent (move : Move k now c request e p sh p' sh' count)
    (current : Call.isCurrent now ⟨request, p⟩ = true) :
    Call.isCurrent now ⟨request, p'⟩ = true := by
  have other : request ≠ .refresh := by
    rintro rfl
    cases p with
    | returned r => exact move.not_returned
    | _ => cases current
  have publishes : ∀ s previous, p' = .publish s previous → s.fetchedAt = now := by
    rintro s previous rfl
    cases move with
    | look look =>
        cases look with
        | arrange _ => rfl
  cases p' with
  | returned r => rfl
  | publish s previous => exact isCurrent_publish.mpr ⟨other, publishes s previous rfl⟩
  | _ =>
      cases request with
      | refresh => exact absurd rfl other
      | _ => rfl

omit [DecidableEq κ] in
theorem reading_of_frozen {reading : Nat} (still : frozen m (.clock reading) = true) :
    reading = m.now := eq_of_beq still

theorem Step.isCurrent (step : Step k m e after) (still : frozen m e = true)
    (current : ∀ call ∈ m.calls, call.isCurrent m.now = true) :
    after.now = m.now ∧ ∀ call ∈ after.calls, call.isCurrent after.now = true := by
  cases step with
  | call request =>
      refine ⟨rfl, ?_⟩
      intro call among
      rcases List.mem_append.mp among with before | last
      · exact current call before
      · rw [List.mem_singleton.mp last]
        cases request with
        | refresh => cases still
        | _ => rfl
  | clock reading =>
      obtain rfl := reading_of_frozen still
      exact ⟨rfl, current⟩
  | finish how lines running => exact ⟨rfl, current⟩
  | move found move calls now stats =>
      refine ⟨now, ?_⟩
      intro call among
      rw [calls] at among
      rw [now]
      rcases List.mem_or_eq_of_mem_set among with before | rfl
      · exact current call before
      · exact move.isCurrent (current _ (List.mem_of_getElem? found))

omit [DecidableEq κ] in
theorem forward_of_frozen (still : frozen m e = true) : forward m e = true := by
  cases e with
  | clock reading => exact decide_eq_true (Nat.le_of_eq (reading_of_frozen still).symm)
  | _ => rfl

/-- What was installed while the clock stood still is at most one snapshot, and not older. -/
structure Settled (k : Cache κ ν) (notes : List (Installation κ ν)) (m : State κ ν) : Prop where
  consistent : Consistent k m
  ordered : Ordered k m
  current : ∀ call ∈ m.calls, call.isCurrent m.now = true
  once : notes = [] ∨ notes.length = 1 ∧ ∃ s, m.snapshot = some s ∧ s.fetchedAt = m.now

theorem Settled.step {notes : List (Installation κ ν)} (settled : Settled k notes m)
    (apart : 0 < k.spacing) (still : frozen m e = true) (step : Step k m e after) :
    Settled k (notes ++ (installation? m e).toList) after := by
  obtain ⟨now, current⟩ := step.isCurrent still settled.current
  refine ⟨settled.consistent.step step,
    settled.ordered.step settled.consistent (forward_of_frozen still) step, current, ?_⟩
  have snapshot := step.snapshot_eq
  cases installed : installation? m e with
  | none =>
      rw [installed] at snapshot
      rw [Option.toList_none, List.append_nil, snapshot, now]
      exact settled.once
  | some i =>
      rw [installed] at snapshot
      obtain ⟨c, previous, rfl, found, replaced⟩ := installation?_eq_some installed
      obtain ⟨kind, dated⟩ :=
        isCurrent_publish.mp (settled.current _ (List.mem_of_getElem? found))
      rcases settled.once with rfl | ⟨_, old, there, same⟩
      · exact .inr ⟨rfl, i.snapshot, snapshot, by rw [dated, now]⟩
      · -- over a snapshot dated now, another one would be dated later than now
        have late := settled.ordered.installs settled.consistent installed kind old
          (by rw [replaced, there])
        omega

/-- The clock never going back: what a call other than a refresh installs over a snapshot is dated
at least the smaller limit after it.  And while the clock stands still and no refresh is asked for,
limits of a millisecond or more let all calls together install one snapshot at most. -/
theorem spaced_installations (k : Cache κ ν) (start : Nat) (earlier later : List (Event κ ν))
    (ahead : k.heeds forward (State.empty start) (earlier ++ later) = true) :
    let m₀ := k.run (State.empty start) earlier
    let m := k.run (State.empty start) (earlier ++ later)
    (∀ i ∈ k.record installation? (State.empty start) (earlier ++ later), i.request ≠ .refresh →
      ∀ old, i.replaced = some old →
        old.fetchedAt + min k.settings.invalidateAfter.millis k.settings.retryAfter.millis ≤
          i.snapshot.fetchedAt) ∧
    (∀ e after, k.next? m e = some after →
      (installation? m e = none → after.snapshot = m.snapshot) ∧
      ∀ i, installation? m e = some i → i.replaced = m.snapshot ∧ after.snapshot = some i.snapshot) ∧
    (1 ≤ k.settings.invalidateAfter.millis → 1 ≤ k.settings.retryAfter.millis →
      m₀.calls.all (Call.isCurrent m₀.now) = true → k.heeds frozen m₀ later = true →
      (k.record installation? m₀ later).length ≤ 1) := by
  intro m₀ m
  refine ⟨?_, ?_, ?_⟩
  · obtain ⟨_, _, spaced⟩ := ordered_run k start (earlier ++ later) ahead
    exact spaced
  · intro e after next
    have snapshot := (step_of_next? next).snapshot_eq
    constructor
    · intro none
      rwa [none] at snapshot
    · intro i some
      rw [some] at snapshot
      obtain ⟨_, _, _, _, replaced⟩ := installation?_eq_some some
      exact ⟨replaced, snapshot⟩
  · intro positive positive' current still
    rw [heeds_append, Bool.and_eq_true] at ahead
    obtain ⟨consistent, ordered, _⟩ := ordered_run k start earlier ahead.1
    have first : Settled k [] m₀ :=
      ⟨consistent, ordered, List.all_eq_true.mp current, .inl rfl⟩
    have apart : 0 < k.spacing := Nat.lt_min.mpr ⟨positive, positive'⟩
    have last := record_run (P := Settled k)
      (fun _ _ _ _ settled still next => settled.step apart still (step_of_next? next)) first later
      still
    rcases last.once with none | ⟨one, _⟩
    · simp [none]
    · exact Nat.le_of_eq one

end Machine

/-- Two calls find the catalog stale; by the time the second gets to the gate it is not any more. -/
def twoStale : List (Event Nat Nat) :=
  [.call .all, .call .all, .step 1, .step 2, .step 1, .step 2] ++ List.replicate 4 (.step 1) ++
    .finish 1 (.delivered [8]) [] :: List.replicate 4 (.step 1) ++ List.replicate 4 (.step 2)

theorem twoStale_installs_once :
    let earlier := supply ++ [.clock 300]
    let m₀ := plainCache.run (State.empty 0) earlier
    let installed : Installation Nat Nat := ⟨.all, some ⟨[(7, 7)], 0, 0⟩, ⟨[(8, 8)], 300, 1⟩⟩
    installed ∈ plainCache.record installation? (State.empty 0) (earlier ++ twoStale) ∧
      0 + min 300 150 ≤ 300 ∧ (plainCache.record installation? m₀ twoStale).length ≤ 1 := by
  intro earlier m₀ installed
  obtain ⟨spaced, _, once⟩ := spaced_installations plainCache 0 earlier twoStale (by decide +kernel)
  have among : installed ∈ plainCache.record installation? (State.empty 0) (earlier ++ twoStale) := by
    decide +kernel
  have apart := spaced installed among nofun _ rfl
  exact ⟨among, apart, once (by decide) (by decide) (by decide +kernel) (by decide +kernel)⟩

end Telemetry.Cache
