import Telemetry.Proofs.Cache.Moves

/-!
# What is noted along a run

A note is taken of some of the steps of a run, and of nothing that cannot
happen.  What every step keeps, of the notes taken so far and the state, holds
of all notes and the last state, provided that the run takes only steps that
are allowed.
-/
set_option autoImplicit false
namespace Telemetry.Cache

variable {κ ν α : Type} [DecidableEq κ]

/-- The notes on the steps of a run, the earliest first. -/
def record (k : Cache κ ν) (note : State κ ν → Event κ ν → Option α) (m : State κ ν) :
    List (Event κ ν) → List α
  | [] => []
  | e :: rest =>
    match k.next? m e with
    | some after => (note m e).toList ++ record k note after rest
    | none => record k note m rest

/-- Every event that can happen is one that is allowed. -/
def heeds (k : Cache κ ν) (allowed : State κ ν → Event κ ν → Bool) (m : State κ ν) :
    List (Event κ ν) → Bool
  | [] => true
  | e :: rest =>
    match k.next? m e with
    | some after => allowed m e && heeds k allowed after rest
    | none => heeds k allowed m rest

variable {k : Cache κ ν} {m : State κ ν}

theorem run_cons (k : Cache κ ν) (m : State κ ν) (e : Event κ ν) (rest : List (Event κ ν)) :
    k.run m (e :: rest) = k.run ((k.next? m e).getD m) rest := rfl

theorem record_append (note : State κ ν → Event κ ν → Option α) (earlier later : List (Event κ ν)) :
    k.record note m (earlier ++ later) =
      k.record note m earlier ++ k.record note (k.run m earlier) later := by
  induction earlier generalizing m with
  | nil => rfl
  | cons e rest ih =>
      rw [List.cons_append, record, record, run_cons]
      cases k.next? m e with
      | none => exact ih
      | some after => simp only [ih, List.append_assoc, Option.getD_some]

theorem heeds_append (allowed : State κ ν → Event κ ν → Bool) (earlier later : List (Event κ ν)) :
    k.heeds allowed m (earlier ++ later) =
      (k.heeds allowed m earlier && k.heeds allowed (k.run m earlier) later) := by
  induction earlier generalizing m with
  | nil => rfl
  | cons e rest ih =>
      rw [List.cons_append, heeds, heeds, run_cons]
      cases k.next? m e with
      | none => exact ih
      | some after => simp only [ih, Bool.and_assoc, Option.getD_some]

theorem heeds_true (k : Cache κ ν) (m : State κ ν) (events : List (Event κ ν)) :
    k.heeds (fun _ _ => true) m events = true := by
  induction events generalizing m with
  | nil => rfl
  | cons e rest ih =>
      rw [heeds]
      cases k.next? m e with
      | none => exact ih m
      | some after => exact ih after

/-- A note was taken of an event at some time. -/
theorem exists_of_mem_record {note : State κ ν → Event κ ν → Option α} {events : List (Event κ ν)}
    {x : α} (among : x ∈ k.record note m events) :
    ∃ before e, before ++ [e] <+: events ∧ note (k.run m before) e = some x := by
  induction events generalizing m with
  | nil => cases among
  | cons first rest ih =>
      have later : x ∈ k.record note ((k.next? m first).getD m) rest → ∃ before e,
          before ++ [e] <+: first :: rest ∧ note (k.run m before) e = some x := by
        intro among
        obtain ⟨before, e, early, noted⟩ := ih among
        exact ⟨first :: before, e, List.cons_prefix_cons.mpr ⟨rfl, early⟩, noted⟩
      rw [record] at among
      cases next : k.next? m first with
      | none =>
          rw [next] at among later
          exact later among
      | some after =>
          rw [next] at among later
          rcases List.mem_append.mp among with now | among
          · exact ⟨[], first, List.cons_prefix_cons.mpr ⟨rfl, List.nil_prefix⟩,
              Option.mem_toList.mp now⟩
          · exact later among

section Run
variable {note : State κ ν → Event κ ν → Option α} {allowed : State κ ν → Event κ ν → Bool}
  {P : List α → State κ ν → Prop}
  (step : ∀ notes m e after, P notes m → allowed m e = true → k.next? m e = some after →
    P (notes ++ (note m e).toList) after)
include step

theorem record_keeps {notes : List α} (holds : P notes m) (events : List (Event κ ν))
    (heeded : k.heeds allowed m events = true) :
    P (notes ++ k.record note m events) (k.run m events) := by
  induction events generalizing m notes with
  | nil =>
      rw [record, List.append_nil]
      exact holds
  | cons e rest ih =>
      rw [record, run_cons]
      rw [heeds] at heeded
      cases next : k.next? m e with
      | none =>
          rw [next] at heeded
          exact ih holds heeded
      | some after =>
          rw [next, Bool.and_eq_true] at heeded
          rw [← List.append_assoc]
          exact ih (step _ _ _ _ holds heeded.1 next) heeded.2

/-- What every allowed step keeps holds at the end of a run of all that was noted. -/
theorem record_run (holds : P [] m) (events : List (Event κ ν))
    (heeded : k.heeds allowed m events = true) :
    P (k.record note m events) (k.run m events) := by
  have kept := record_keeps step holds events heeded
  rwa [List.nil_append] at kept

end Run
end Telemetry.Cache
