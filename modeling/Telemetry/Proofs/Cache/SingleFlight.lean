import Telemetry.Proofs.Cache.Flight

/-!
# Single flight

A receipt is the moment at which a call takes the outcome of the load that it
waited for.  Over any history, the loads marked as received are those with a
receipt, each with one; and as a load is started only when none is pending, all
earlier loads have their receipts by then, and at most one load runs.
-/
set_option autoImplicit false
namespace Telemetry.Cache

variable {κ ν : Type}

/-- A call has taken the outcome of a load. -/
structure Receipt where
  load : Nat
  call : Nat
  /-- The clock's reading at that time. -/
  reading : Nat
  deriving DecidableEq, Repr

/-- The receipt that an event would bring about. -/
def receipt? (m : State κ ν) : Event κ ν → Option Receipt
  | .step c =>
    match m.calls[c]? with
    | some ⟨_, .awaiting load _⟩ =>
      match m.loads[load]? with
      | some (.ended _) => some ⟨load, c, m.now⟩
      | _ => none
    | _ => none
  | _ => none

def Received (loads : List (Load ν)) (load : Nat) : Prop :=
  ∃ how, loads[load]? = some (.received how)

theorem received_iff {loads : List (Load ν)} {load : Nat} :
    Received loads load ↔ load < loads.length ∧ ¬ Pending loads load := by
  constructor
  · rintro ⟨how, received⟩
    refine ⟨(List.getElem?_eq_some_iff.mp received).1, ?_⟩
    rintro ⟨l, there, pending⟩
    rw [received] at there
    cases there
    cases pending
  · rintro ⟨bound, settled⟩
    have there := List.getElem?_eq_getElem bound
    cases l : loads[load] with
    | received how => exact ⟨how, by rw [there, l]⟩
    | running => exact absurd ⟨_, there, by rw [l]; rfl⟩ settled
    | ended how => exact absurd ⟨_, there, by rw [l]; rfl⟩ settled

theorem receipt?_of_not_awaiting {m : State κ ν} {c : Nat} {request : Request κ} {p : Phase κ ν}
    (found : m.calls[c]? = some ⟨request, p⟩) (idle : p.awaited? = none) :
    receipt? m (.step c) = none := by
  cases p with
  | awaiting load previous => cases idle
  | _ => simp [receipt?, found]

section Receipts
variable [DecidableEq κ] {k : Cache κ ν} {m after : State κ ν} {e : Event κ ν}

/-- The receipts of a history, the earliest first. -/
def receipts (k : Cache κ ν) (m : State κ ν) : List (Event κ ν) → List Receipt
  | [] => []
  | e :: rest => (receipt? m e).toList ++ receipts k ((k.next? m e).getD m) rest

theorem receipts_append (k : Cache κ ν) (m : State κ ν) (earlier later : List (Event κ ν)) :
    k.receipts m (earlier ++ later) = k.receipts m earlier ++ k.receipts (k.run m earlier) later := by
  induction earlier generalizing m with
  | nil => rfl
  | cons e rest ih => simp only [List.cons_append, receipts, ih, List.append_assoc, run, List.foldl_cons]

theorem receipts_snoc (k : Cache κ ν) (m : State κ ν) (events : List (Event κ ν)) (e : Event κ ν) :
    k.receipts m (events ++ [e]) = k.receipts m events ++ (receipt? (k.run m events) e).toList := by
  rw [receipts_append]
  simp [receipts]

theorem receipt?_of_next?_none (stuck : k.next? m e = none) : receipt? m e = none := by
  cases e with
  | step c =>
      cases found : m.calls[c]? with
      | none => simp [receipt?, found]
      | some call =>
          obtain ⟨request, p⟩ := call
          cases p with
          | awaiting load previous =>
              simp only [next?, found, advance?] at stuck
              simp only [receipt?, found]
              split
              · rename_i how ended
                simp [ended] at stuck
              · rfl
          | _ => simp [receipt?, found]
  | _ => rfl

theorem received_append_running {loads : List (Load ν)} {load : Nat} :
    Received (loads ++ [.running]) load ↔ Received loads load := by
  rcases Nat.lt_trichotomy load loads.length with less | equal | more
  · simp [Received, List.getElem?_append_left less]
  · simp [Received, equal]
  · have bound := Nat.not_lt_of_gt more
    rw [received_iff, received_iff, List.length_append, List.length_singleton]
    exact ⟨fun h => absurd h.1 (by omega), fun h => absurd h.1 bound⟩

theorem received_set {loads : List (Load ν)} {load i : Nat} {l : Load ν}
    (bound : load < loads.length) :
    Received (loads.set load l) i ↔ if i = load then l.isPending = false else Received loads i := by
  rw [received_iff, received_iff, pending_set bound, List.length_set]
  split
  · rename_i same
    simp [same, bound]
  · rfl

/-- Either nothing is received at a step, or one load that was pending is. -/
inductive Receives (m : State κ ν) (e : Event κ ν) (loads : List (Load ν)) : Prop where
  | nothing : receipt? m e = none → (∀ load, Received loads load ↔ Received m.loads load) →
      Receives m e loads
  | one {r} : receipt? m e = some r → Pending m.loads r.load →
      (∀ load, Received loads load ↔ load = r.load ∨ Received m.loads load) → Receives m e loads

omit [DecidableEq κ] in
theorem receives_ended {c load : Nat} {request : Request κ} {previous : Option (Snapshot κ ν)}
    {how : LoadEnd ν} (found : m.calls[c]? = some ⟨request, .awaiting load previous⟩)
    (ended : m.loads[load]? = some (.ended how)) :
    Receives m (.step c) (m.loads.set load (.received how)) := by
  have bound := (List.getElem?_eq_some_iff.mp ended).1
  refine .one (r := ⟨load, c, m.now⟩) (by simp [receipt?, found, ended]) ⟨_, ended, rfl⟩ ?_
  intro i
  rw [received_set bound]
  by_cases same : i = load <;> simp [same, Load.isPending]

theorem Step.receives (step : Step k m e after) : Receives m e after.loads := by
  cases step with
  | call request => exact .nothing rfl fun _ => Iff.rfl
  | clock reading => exact .nothing rfl fun _ => Iff.rfl
  | @finish load how lines running =>
      have bound := (List.getElem?_eq_some_iff.mp running).1
      refine .nothing rfl fun i => ?_
      rw [received_set bound]
      split
      · rename_i same
        simp [same, Received, running, Load.isPending]
      · rfl
  | @move e c request p p' count after found move calls now stats =>
      have idle : p.awaited? = none → receipt? m (.step c) = none :=
        receipt?_of_not_awaiting found
      have same : ∀ {sh' : Shared κ ν}, after.shared = sh' → after.loads = sh'.loads :=
        fun h => congrArg Shared.loads h
      generalize shared : after.shared = sh' at move
      rw [same shared]
      cases move with
      | look look => exact .nothing (idle look.awaited?.1) fun _ => Iff.rfl
      | enter from_ _ _ =>
          rcases from_ with rfl | rfl <;> exact .nothing (idle rfl) fun _ => Iff.rfl
      | turnBack from_ _ _ =>
          rcases from_ with rfl | rfl <;> exact .nothing (idle rfl) fun _ => Iff.rfl
      | begin _ _ => exact .nothing (idle rfl) fun _ => received_append_running
      | refuse _ _ _ => exact .nothing rfl fun _ => Iff.rfl
      | giveUp _ => exact .nothing rfl fun _ => Iff.rfl
      | receive ended => exact receives_ended found ended
      | fail ended _ => exact receives_ended found ended
      | die ended _ => exact receives_ended found ended
      | resume _ => exact .nothing (idle rfl) fun _ => Iff.rfl
      | nameless _ _ => exact .nothing (idle rfl) fun _ => Iff.rfl
      | keyless _ => exact .nothing (idle rfl) fun _ => Iff.rfl
      | install => exact .nothing (idle rfl) fun _ => Iff.rfl
      | leave => exact .nothing (idle rfl) fun _ => Iff.rfl

/-- The loads of a history's receipts are the received ones, each once. -/
theorem receipts_spec (k : Cache κ ν) (start : Nat) (events : List (Event κ ν)) :
    (∀ load, Received (k.run (State.empty start) events).loads load ↔
      load ∈ (k.receipts (State.empty start) events).map Receipt.load) ∧
    ((k.receipts (State.empty start) events).map Receipt.load).Nodup := by
  refine run_history (m := State.empty start)
    (P := fun events m => (∀ load, Received m.loads load ↔
        load ∈ (k.receipts (State.empty start) events).map Receipt.load) ∧
      ((k.receipts (State.empty start) events).map Receipt.load).Nodup) ?_ ?_ ?_ events
  · simp [Received, State.empty, receipts]
  · intro events e stuck holds
    rw [receipts_snoc, receipt?_of_next?_none stuck]
    simpa using holds
  · rintro events e after next ⟨marked, distinct⟩
    rw [receipts_snoc]
    cases (step_of_next? next).receives with
    | nothing none same =>
        rw [none]
        rw [Option.toList_none, List.append_nil]
        exact ⟨fun load => (same load).trans (marked load), distinct⟩
    | @one r some pending same =>
        rw [some]
        have fresh : r.load ∉ (k.receipts (State.empty start) events).map Receipt.load := by
          rw [← marked, received_iff]
          exact fun h => h.2 pending
        refine ⟨?_, ?_⟩
        · intro load
          rw [same, marked]
          simp [or_comm]
        · rw [Option.toList_some, List.map_append, List.map_singleton]
          refine List.nodup_append.mpr ⟨distinct, by simp, ?_⟩
          rintro load there _ last rfl
          rw [List.mem_singleton.mp last] at there
          exact fresh there

omit [DecidableEq κ] in
theorem Coherent.running_le_one (coherent : Coherent m) : m.running.length ≤ 1 := by
  have within : m.running ⊆ [m.loads.length - 1] := by
    intro load member
    obtain ⟨_, runs⟩ := List.mem_filter.mp member
    split at runs
    · rename_i there
      have last := coherent.flight.last load ⟨_, there, rfl⟩
      change load + 1 = m.loads.length at last
      rw [List.mem_singleton]
      omega
    · contradiction
  have distinct : m.running.Nodup := List.nodup_range.filter _
  exact (List.subperm_of_subset distinct within).length_le

/-- A load is started only when none is pending. -/
theorem Coherent.starts_alone (coherent : Coherent m) (step : Step k m e after)
    (starts : after.loads.length ≠ m.loads.length) :
    after.loads = m.loads ++ [.running] ∧ ∀ load, ¬ Pending m.loads load := by
  cases step with
  | call request => exact absurd rfl starts
  | clock reading => exact absurd rfl starts
  | finish how lines running => simp at starts
  | move found move calls now stats =>
      cases move.handover with
      | keeps loads _ _ _ => exact absurd (congrArg List.length loads) starts
      | resumes _ _ loads _ _ _ => exact absurd (congrArg List.length loads) starts
      | receives _ loads _ _ _ =>
          have same := congrArg List.length loads
          rw [List.length_set] at same
          exact absurd same starts
      | parks _ loads _ _ => exact absurd (congrArg List.length loads) starts
      | starts unparked _ loads inside idle _ =>
          exact ⟨loads, coherent.flight.none_pending coherent.guarded found inside idle unparked⟩

/-- However calls are mixed and loads end, at most one load runs; no load is received twice; and
when a load is started, exactly the loads before it have been received. -/
theorem single_flight (k : Cache κ ν) (start : Nat) (events : List (Event κ ν)) :
    let m := k.run (State.empty start) events
    let received := (k.receipts (State.empty start) events).map Receipt.load
    m.running.length ≤ 1 ∧ received.Nodup ∧
    ∀ e after, k.next? m e = some after → after.loads.length ≠ m.loads.length →
      after.loads = m.loads ++ [.running] ∧ ∀ load, load < m.loads.length ↔ load ∈ received := by
  intro m received
  have coherent : Coherent m := coherent_run k start events
  obtain ⟨marked, distinct⟩ := receipts_spec k start events
  refine ⟨coherent.running_le_one, distinct, ?_⟩
  intro e after next starts
  obtain ⟨loads, settled⟩ := coherent.starts_alone (step_of_next? next) starts
  refine ⟨loads, ?_⟩
  intro load
  rw [← marked, received_iff]
  exact ⟨fun bound => ⟨bound, settled load⟩, fun h => h.1⟩

end Receipts
end Telemetry.Cache
