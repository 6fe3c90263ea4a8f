import Telemetry.Proofs.Cache.Installed

/-!
# Whole snapshots and no going back

Every answer is drawn from what a single load delivered.  Loads are installed in
the order in which they were started, and a call that is made after another has
returned draws on no earlier load.
-/
set_option autoImplicit false
namespace Telemetry.Cache

variable {κ ν : Type} [DecidableEq κ]

/-- The call has been answered from the snapshot. -/
def AnsweredFrom (m : State κ ν) (c : Nat) (s : Snapshot κ ν) : Prop :=
  ∃ request route, m.calls[c]? = some ⟨request, .returned (.served route s)⟩

/-- What the call has taken outside the gate comes from no load before `bound`. -/
def AtLeast (bound : Nat) : Phase κ ν → Prop
  | .judge _ s | .returned (.served _ s) => bound ≤ s.load
  | _ => True

section Move
variable {k : Cache κ ν} {now c bound : Nat} {request : Request κ} {e : Event κ ν}
  {p p' : Phase κ ν} {sh sh' : Shared κ ν} {count : Stats → Stats} {s : Snapshot κ ν}

theorem Look.atLeast (look : Look k now request sh p p' count)
    (risen : ∀ s, sh.snapshot = some s → bound ≤ s.load) (before : AtLeast bound p) :
    AtLeast bound p' := by
  cases look with
  | present _ there _ => exact risen _ there
  | see _ there _ => exact risen _ there
  | overtaken there => exact risen _ there
  | lacking _ => exact before
  | young _ _ => exact before
  | _ => trivial

theorem Move.atLeast (move : Move k now c request e p sh p' sh' count)
    (risen : ∀ s, sh.snapshot = some s → bound ≤ s.load) (sound : Sound k sh p)
    (before : AtLeast bound p) : AtLeast bound p' := by
  cases move with
  | look look => exact look.atLeast risen before
  | @leave r sh =>
      cases r with
      | served route s => exact risen s sound
      | _ => trivial
  | _ => trivial

end Move

section Run
variable {k : Cache κ ν} {m after : State κ ν} {e : Event κ ν} {bound first : Nat}

/-- The current snapshot and the calls from the `first` on are past the loads before `bound`. -/
structure Risen (bound first : Nat) (m : State κ ν) : Prop where
  current : ∃ s, m.snapshot = some s ∧ bound ≤ s.load
  later : ∀ (i : Nat) (call : Call κ ν), first ≤ i → m.calls[i]? = some call →
    AtLeast bound call.phase

theorem Risen.step (risen : Risen bound first m) (consistent : Consistent k m)
    (step : Step k m e after) : Risen bound first after := by
  obtain ⟨s, there, above⟩ := risen.current
  constructor
  · rcases consistent.snapshot step with same | ⟨new, swapped, newer⟩
    · exact ⟨s, same.trans there, above⟩
    · exact ⟨new, swapped, Nat.le_trans above (Nat.le_of_lt (newer s there))⟩
  · intro i call late found
    rcases step.call_cases found with fresh | before | ⟨p, count, before, move, _⟩
    · rw [fresh]
      trivial
    · exact risen.later i call late before
    · refine move.atLeast ?_ (consistent.sourced.sound _ _ before) (risen.later i _ late before)
      intro current seen
      change m.snapshot = some current at seen
      rw [there] at seen
      cases seen
      exact above

/-- A call made after another has been answered is answered from no older load. -/
theorem load_le_of_later {start a b : Nat} {earlier later : List (Event κ ν)}
    {older newer : Snapshot κ ν}
    (answered : AnsweredFrom (k.run (State.empty start) earlier) a older)
    (late : (k.run (State.empty start) earlier).calls.length ≤ b)
    (answeredLater : AnsweredFrom (k.run (k.run (State.empty start) earlier) later) b newer) :
    older.load ≤ newer.load := by
  obtain ⟨_, _, returned⟩ := answered
  obtain ⟨_, _, returnedLater⟩ := answeredLater
  have consistent := consistent_run k start earlier
  obtain ⟨_, current, there, above⟩ := consistent.sourced.sound a _ returned
  have first : Risen older.load (k.run (State.empty start) earlier).calls.length
      (k.run (State.empty start) earlier) := by
    refine ⟨⟨current, there, above⟩, ?_⟩
    intro i call out found
    exact absurd (List.getElem?_eq_some_iff.mp found).1 (Nat.not_lt_of_ge out)
  have last := run_keeps (k := k)
    (P := fun m => Consistent k m ∧
      Risen older.load (k.run (State.empty start) earlier).calls.length m)
    (fun _ _ _ holds step => ⟨holds.1.step step, holds.2.step holds.1 step⟩)
    ⟨consistent, first⟩ later
  exact last.2.later b _ late returnedLater

/-- An answer is a crash, a failure of a reload, or drawn from the records of one load. -/
theorem Consistent.answer_cases {c : Nat} {answer : Answer κ ν} (consistent : Consistent k m)
    (answered : k.answer? m c = some answer) : answer = .crashed ∨
      (∃ e, answer = .error e ∧ ∀ key, e ≠ .notFound key) ∨
      ∃ request route s records, m.calls[c]? = some ⟨request, .returned (.served route s)⟩ ∧
        answer = request.answer k.keyText (.served route s) ∧
        m.loads[s.load]? = some (.received (.delivered records)) ∧
        Indexes k.keyOf records s.entries := by
  obtain ⟨request, r, found, rfl⟩ := answer?_eq_some answered
  have sound := consistent.sourced.sound c _ found
  cases r with
  | served route s =>
      obtain ⟨⟨records, delivered, arranged⟩, _⟩ := sound
      exact .inr (.inr
        ⟨request, route, s, records, found, rfl, delivered, indexes_of_index arranged⟩)
  | failed e =>
      refine .inr (.inl ⟨e, by cases request <;> rfl, ?_⟩)
      rintro key rfl
      rcases sound with ⟨poison, _⟩ | wrong
      · cases poison
      · cases wrong
  | crashed => exact .inl (by cases request <;> rfl)

/-- Whatever the order of steps: an answer that is no failure of a reload is drawn from the records
of one load, arranged by key; a call made after another has returned draws on no earlier load; and
a snapshot gives way only to that of a later load. -/
theorem whole_snapshots (k : Cache κ ν) (start : Nat) (earlier later : List (Event κ ν)) :
    let m₀ := k.run (State.empty start) earlier
    let m := k.run m₀ later
    (∀ c answer, k.answer? m c = some answer → answer = .crashed ∨
      (∃ e, answer = .error e ∧ ∀ key, e ≠ .notFound key) ∨
      ∃ request route s records, m.calls[c]? = some ⟨request, .returned (.served route s)⟩ ∧
        answer = request.answer k.keyText (.served route s) ∧
        m.loads[s.load]? = some (.received (.delivered records)) ∧
        Indexes k.keyOf records s.entries) ∧
    (∀ a b older newer, AnsweredFrom m₀ a older → m₀.calls.length ≤ b → AnsweredFrom m b newer →
      older.load ≤ newer.load) ∧
    ∀ e after s, k.next? m e = some after → m.snapshot = some s →
      ∃ s', after.snapshot = some s' ∧ (s' = s ∨ s.load < s'.load) := by
  intro m₀ m
  have consistent : Consistent k m := by
    have whole := consistent_run k start (earlier ++ later)
    rwa [run_append] at whole
  refine ⟨?_, ?_, ?_⟩
  · intro c answer answered
    exact consistent.answer_cases answered
  · intro a b older newer answered late answeredLater
    exact load_le_of_later answered late answeredLater
  · intro e after s next there
    rcases consistent.snapshot (step_of_next? next) with same | ⟨new, swapped, newer⟩
    · exact ⟨s, same.trans there, .inl rfl⟩
    · exact ⟨new, swapped, .inr (newer s there)⟩

end Run
end Telemetry.Cache
