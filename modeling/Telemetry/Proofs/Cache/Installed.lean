import Telemetry.Proofs.Cache.Flight
import Telemetry.Proofs.Cache.Index

/-!
# What snapshots come from

`Sound` says for each phase what the call knows: inside the gate the snapshot it
has seen is the current one, outside it is one that was current, and what it is
about to install is newer than the current one.  Every snapshot that is shown
holds what one load delivered.
-/
set_option autoImplicit false
namespace Telemetry.Cache

variable {κ ν : Type} [DecidableEq κ]

/-- The snapshot holds what its load delivered. -/
def Genuine (k : Cache κ ν) (loads : List (Load ν)) (s : Snapshot κ ν) : Prop :=
  ∃ records, loads[s.load]? = some (.received (.delivered records)) ∧
    index k.keyOf records = some s.entries

/-- The snapshot was the current one at some time. -/
def Shown (k : Cache κ ν) (sh : Shared κ ν) (s : Snapshot κ ν) : Prop :=
  Genuine k sh.loads s ∧ ∃ current, sh.snapshot = some current ∧ s.load ≤ current.load

def Newer (sh : Shared κ ν) (load : Nat) : Prop :=
  ∀ current, sh.snapshot = some current → current.load < load

/-- The error tells that a load failed or took too long. -/
def isLoadError : CacheError → Bool
  | .unavailable _ | .timeout _ => true
  | _ => false

/-- What a call knows in a phase. -/
def Sound (k : Cache κ ν) (sh : Shared κ ν) : Phase κ ν → Prop
  | .judge _ s | .returned (.served _ s) => Shown k sh s
  | .recheck _ s | .leaving (.served _ s) => sh.snapshot = some s
  | .load previous | .awaiting _ previous => sh.snapshot = previous
  | .collected load records previous =>
    sh.snapshot = previous ∧ sh.loads[load]? = some (.received (.delivered records)) ∧
      Newer sh load
  | .publish s previous => sh.snapshot = previous ∧ Genuine k sh.loads s ∧ Newer sh s.load
  | .leaving (.failed e) =>
    (e = .lockPoisoned ∧ sh.gate.poisoned = true) ∨ (isLoadError e = true ∧ sh.snapshot = none)
  | .returned (.failed e) => (e = .lockPoisoned ∧ sh.gate.poisoned = true) ∨ isLoadError e = true
  | .leaving .crashed => False
  | _ => True

structure Sourced (k : Cache κ ν) (sh : Shared κ ν) (calls : List (Call κ ν)) : Prop where
  current : ∀ s, sh.snapshot = some s → Genuine k sh.loads s
  sound : ∀ (i : Nat) (call : Call κ ν), calls[i]? = some call → Sound k sh call.phase

section Move
variable {k : Cache κ ν} {now c : Nat} {request : Request κ} {e : Event κ ν} {p p' : Phase κ ν}
  {sh sh' : Shared κ ν} {count : Stats → Stats} {calls : List (Call κ ν)} {s : Snapshot κ ν}

/-- Received loads stay what they are. -/
def Keeps (before after : List (Load ν)) : Prop :=
  ∀ (load : Nat) (how : LoadEnd ν), before[load]? = some (.received how) →
    after[load]? = some (.received how)

omit [DecidableEq κ] in
theorem keeps_set {loads : List (Load ν)} {load : Nat} {l new : Load ν}
    (there : loads[load]? = some l) (pending : l.isPending = true) :
    Keeps loads (loads.set load new) := by
  intro i how received
  have other : i ≠ load := by
    rintro rfl
    rw [there] at received
    cases received
    cases pending
  rw [List.getElem?_set_ne (Ne.symm other), received]

omit [DecidableEq κ] in
theorem Handover.keeps_loads (handover : Handover p p' sh sh') : Keeps sh.loads sh'.loads := by
  cases handover with
  | keeps loads _ _ _ => rw [loads]; exact fun _ _ h => h
  | resumes _ _ loads _ _ _ => rw [loads]; exact fun _ _ h => h
  | parks _ loads _ _ => rw [loads]; exact fun _ _ h => h
  | receives ended loads _ _ _ => rw [loads]; exact keeps_set ended rfl
  | starts _ _ loads _ _ _ =>
      rw [loads]
      intro i how received
      have bound := (List.getElem?_eq_some_iff.mp received).1
      rw [List.getElem?_append_left bound, received]

theorem Genuine.keep {loads loads' : List (Load ν)} (genuine : Genuine k loads s)
    (keeps : Keeps loads loads') : Genuine k loads' s := by
  obtain ⟨records, delivered, arranged⟩ := genuine
  exact ⟨records, keeps _ _ delivered, arranged⟩

/-- What a move can do to the snapshot. -/
inductive Turnover (p p' : Phase κ ν) (sh sh' : Shared κ ν) : Prop where
  | same : sh'.snapshot = sh.snapshot → Turnover p p' sh sh'
  | swap {s previous} : p = .publish s previous → p' = .leaving (.served .reloaded s) →
      sh'.snapshot = some s → Turnover p p' sh sh'

theorem Move.turnover (move : Move k now c request e p sh p' sh' count) :
    Turnover p p' sh sh' := by
  cases move with
  | install => exact .swap rfl rfl rfl
  | _ => exact .same rfl

/-- A call that another call passes by still knows what it knew. -/
theorem Sound.frame (sound : Sound k sh p) (keeps : Keeps sh.loads sh'.loads)
    (poisoned : sh.gate.poisoned = true → sh'.gate.poisoned = true)
    (same : sh'.snapshot = sh.snapshot) : Sound k sh' p := by
  cases p with
  | judge need s =>
      obtain ⟨genuine, older⟩ := sound
      exact ⟨genuine.keep keeps, by rw [same]; exact older⟩
  | recheck need s => exact same.trans sound
  | load previous => exact same.trans sound
  | awaiting load previous => exact same.trans sound
  | collected load records previous =>
      obtain ⟨seen, delivered, newer⟩ := sound
      exact ⟨same.trans seen, keeps _ _ delivered, by rw [Newer, same]; exact newer⟩
  | publish s previous =>
      obtain ⟨seen, genuine, newer⟩ := sound
      exact ⟨same.trans seen, genuine.keep keeps, by rw [Newer, same]; exact newer⟩
  | leaving r =>
      cases r with
      | served route s => exact same.trans sound
      | failed e => exact sound.imp (fun h => ⟨h.1, poisoned h.2⟩) fun h => ⟨h.1, same.trans h.2⟩
      | crashed => exact sound
  | returned r =>
      cases r with
      | served route s =>
          obtain ⟨genuine, older⟩ := sound
          exact ⟨genuine.keep keeps, by rw [same]; exact older⟩
      | failed e => exact sound.imp_left fun h => ⟨h.1, poisoned h.2⟩
      | crashed => trivial
  | _ => trivial

/-- A call outside the gate still knows what it knew when a newer snapshot is installed. -/
theorem Sound.overtaken (sound : Sound k sh p) (outside : p.inside = false)
    (keeps : Keeps sh.loads sh'.loads)
    (poisoned : sh.gate.poisoned = true → sh'.gate.poisoned = true)
    (swapped : sh'.snapshot = some s) (newer : Newer sh s.load) : Sound k sh' p := by
  have shown : ∀ {seen}, Shown k sh seen → Shown k sh' seen := by
    rintro seen ⟨genuine, current, there, older⟩
    exact ⟨genuine.keep keeps, s, swapped, Nat.le_trans older (Nat.le_of_lt (newer current there))⟩
  cases p with
  | judge need s => exact shown sound
  | returned r =>
      cases r with
      | served route s => exact shown sound
      | failed e => exact sound.imp_left fun h => ⟨h.1, poisoned h.2⟩
      | crashed => trivial
  | start => trivial
  | approach need => trivial
  | occupied need => trivial
  | queue need => trivial
  | _ => cases outside

theorem Move.poisoned (move : Move k now c request e p sh p' sh' count)
    (before : sh.gate.poisoned = true) : sh'.gate.poisoned = true := by
  cases move with
  | enter _ _ clean => simp [clean] at before
  | turnBack _ _ _ => rfl
  | die _ _ => rfl
  | nameless _ _ => rfl
  | keyless _ => rfl
  | _ => exact before

theorem sound_fallen {previous : Option (Snapshot κ ν)} {e : CacheError}
    (seen : sh.snapshot = previous) (kind : isLoadError e = true)
    (same : sh'.snapshot = sh.snapshot) : Sound k sh' (.leaving (fallen previous e)) := by
  cases previous with
  | some s => exact same.trans seen
  | none => exact .inr ⟨kind, same.trans seen⟩

omit [DecidableEq κ] in
theorem isLoadError_of_loadError? {settings : CacheSettings} {how : LoadEnd ν} {e : CacheError}
    (error : loadError? settings how = some e) : isLoadError e = true := by
  cases how with
  | delivered records => cases error
  | failed reason =>
      cases Option.some.inj error
      rfl
  | died =>
      obtain ⟨limit, _, rfl⟩ := Option.map_eq_some_iff.mp error
      rfl

theorem Sourced.shown_current (sourced : Sourced k sh calls) (there : sh.snapshot = some s) :
    Shown k sh s :=
  ⟨sourced.current s there, s, there, Nat.le_refl _⟩

theorem Look.sound (look : Look k now request sh p p' count) (sourced : Sourced k sh calls)
    (sound : Sound k sh p) : Sound k sh p' := by
  cases look with
  | present _ there _ => exact sourced.shown_current there
  | see _ there _ => exact sourced.shown_current there
  | overtaken there => exact sourced.shown_current there
  | lacking _ => exact sound
  | young _ _ => exact sound
  | bare there => exact there
  | filled there _ => exact there
  | review there _ => exact there
  | confirm _ => exact sound
  | lapse _ => exact sound
  | arrange arranged =>
      obtain ⟨seen, delivered, newer⟩ := sound
      exact ⟨seen, ⟨_, delivered, arranged⟩, newer⟩
  | _ => trivial

/-- A load that was pending is newer than the current snapshot. -/
theorem Sourced.newer_of_pending (sourced : Sourced k sh calls) (flight : InFlight sh calls)
    {load : Nat} (pending : Pending sh.loads load) : Newer sh load := by
  intro current there
  obtain ⟨records, delivered, _⟩ := sourced.current current there
  have bound := (List.getElem?_eq_some_iff.mp delivered).1
  have last := flight.last load pending
  have other : current.load ≠ load := by
    rintro rfl
    obtain ⟨l, found, waits⟩ := pending
    rw [delivered] at found
    cases found
    cases waits
  omega

theorem Move.sound (move : Move k now c request e p sh p' sh' count)
    (sourced : Sourced k sh calls) (flight : InFlight sh calls) (sound : Sound k sh p) :
    Sound k sh' p' := by
  cases move with
  | look look => exact look.sound sourced sound
  | enter _ _ _ => trivial
  | turnBack _ _ _ => exact .inl ⟨rfl, rfl⟩
  | resume _ => exact sound
  | begin _ _ => exact sound
  | refuse _ _ _ => exact sound_fallen sound rfl rfl
  | @receive load records previous sh ended =>
      have bound := (List.getElem?_eq_some_iff.mp ended).1
      have newer : Newer sh load := sourced.newer_of_pending flight ⟨_, ended, rfl⟩
      exact ⟨sound, List.getElem?_set_self bound, newer⟩
  | fail _ error =>
      apply sound_fallen sound (isLoadError_of_loadError? error)
      rfl
  | giveUp _ =>
      apply sound_fallen sound <;> rfl
  | die _ _ => trivial
  | nameless _ _ => trivial
  | keyless _ => trivial
  | install => exact rfl
  | @leave r sh =>
      cases r with
      | served route s => exact sourced.shown_current sound
      | failed e => exact sound.imp_right And.left
      | crashed => trivial

theorem Sourced.move (sourced : Sourced k sh calls) (guarded : Guarded sh calls)
    (flight : InFlight sh calls) (found : calls[c]? = some ⟨request, p⟩)
    (move : Move k now c request e p sh p' sh' count) :
    Sourced k sh' (calls.set c ⟨request, p'⟩) := by
  have keeps := move.handover.keeps_loads
  have own : Sound k sh' p' := move.sound sourced flight (sourced.sound c _ found)
  cases move.turnover with
  | same same =>
      constructor
      · intro s there
        exact (sourced.current s (same ▸ there)).keep keeps
      · intro i call there
        rcases set_cases there with ⟨rfl, rfl⟩ | ⟨_, before⟩
        · exact own
        · exact (sourced.sound i call before).frame keeps move.poisoned same
  | @swap new previous published left swapped =>
      subst published
      obtain ⟨_, genuine, newer⟩ := sourced.sound c _ found
      constructor
      · intro s there
        rw [swapped] at there
        cases there
        exact genuine.keep keeps
      · intro i call there
        rcases set_cases there with ⟨rfl, rfl⟩ | ⟨other, before⟩
        · exact own
        · refine (sourced.sound i call before).overtaken ?_ keeps move.poisoned swapped newer
          by_contra inside
          rw [Bool.not_eq_false] at inside
          exact other (guarded.alone before found inside rfl)

end Move

section Run
variable {k : Cache κ ν} {m after : State κ ν} {e : Event κ ν}

theorem Step.keeps_loads (step : Step k m e after) : Keeps m.loads after.loads := by
  cases step with
  | call request => exact fun _ _ h => h
  | clock reading => exact fun _ _ h => h
  | finish how lines running => exact keeps_set running rfl
  | move found move calls now stats => exact move.handover.keeps_loads

theorem Step.poisoned (step : Step k m e after) (before : m.gate.poisoned = true) :
    after.gate.poisoned = true := by
  cases step with
  | move found move calls now stats => exact move.poisoned before
  | _ => exact before

theorem Step.clean (step : Step k m e after) (clean : after.gate.poisoned = false) :
    m.gate.poisoned = false := by
  by_contra dirty
  rw [Bool.not_eq_false] at dirty
  cases clean.symm.trans (step.poisoned dirty)

theorem Sourced.step (sourced : Sourced k m.shared m.calls) (coherent : Coherent m)
    (step : Step k m e after) : Sourced k after.shared after.calls := by
  cases step with
  | call request =>
      refine ⟨sourced.current, ?_⟩
      intro i call there
      rcases append_cases there with ⟨_, rfl⟩ | before
      · trivial
      · exact sourced.sound i call before
  | clock reading => exact ⟨sourced.current, sourced.sound⟩
  | finish how lines running =>
      have keeps := (Step.finish how lines running : Step k m _ _).keeps_loads
      exact ⟨fun s there => (sourced.current s there).keep keeps,
        fun i call there => (sourced.sound i call there).frame keeps id rfl⟩
  | move found move calls now stats =>
      rw [calls]
      exact sourced.move coherent.guarded coherent.flight found move

/-- What holds in every state that can be reached. -/
structure Consistent (k : Cache κ ν) (m : State κ ν) : Prop where
  coherent : Coherent m
  sourced : Sourced k m.shared m.calls

theorem Consistent.step (consistent : Consistent k m) (step : Step k m e after) :
    Consistent k after :=
  ⟨consistent.coherent.step step, consistent.sourced.step consistent.coherent step⟩

theorem consistent_run (k : Cache κ ν) (start : Nat) (events : List (Event κ ν)) :
    Consistent k (k.run (State.empty start) events) := by
  refine run_keeps (fun _ _ _ consistent step => consistent.step step) ?_ events
  exact ⟨coherent_empty start, by constructor <;> simp [State.empty, State.shared]⟩

theorem Consistent.snapshot (consistent : Consistent k m) (step : Step k m e after) :
    after.snapshot = m.snapshot ∨
    ∃ s, after.snapshot = some s ∧ ∀ current, m.snapshot = some current → current.load < s.load := by
  cases step with
  | move found move calls now stats =>
      cases move.turnover with
      | same same => exact .inl same
      | @swap s previous published left swapped =>
          subst published
          obtain ⟨_, _, newer⟩ := consistent.sourced.sound _ _ found
          exact .inr ⟨s, swapped, newer⟩
  | _ => exact .inl rfl

end Run
end Telemetry.Cache
