import Telemetry.Proofs.Cache.History

/-!
# A dead load as a failed one

Under a timeout loads run on workers, and a worker that dies is noticed only by the result that
does not come.  So a run is the same, but for what is known of the loads, as the run in which each
load that dies fails instead.
-/
set_option autoImplicit false
namespace Telemetry.Cache

variable {κ ν : Type} {m : State κ ν} {load : Nat}

/-- A load that died, taken for one that failed. -/
def LoadEnd.ordinary : LoadEnd ν → LoadEnd ν
  | .died => .failed "loader thread exited without a result"
  | how => how

def Load.ordinary : Load ν → Load ν
  | .running => .running
  | .ended how => .ended how.ordinary
  | .received how => .received how.ordinary

def State.ordinary (m : State κ ν) : State κ ν := { m with loads := m.loads.map Load.ordinary }

def Event.ordinary : Event κ ν → Event κ ν
  | .finish load how lines => .finish load how.ordinary lines
  | e => e

@[simp] theorem ordinary_now : m.ordinary.now = m.now := rfl
@[simp] theorem ordinary_snapshot : m.ordinary.snapshot = m.snapshot := rfl
@[simp] theorem ordinary_gate : m.ordinary.gate = m.gate := rfl
@[simp] theorem ordinary_parked : m.ordinary.parked = m.parked := rfl
@[simp] theorem ordinary_calls : m.ordinary.calls = m.calls := rfl

@[simp] theorem getElem?_ordinary_loads :
    m.ordinary.loads[load]? = m.loads[load]?.map Load.ordinary := List.getElem?_map

theorem set_ordinary (how : LoadEnd ν) :
    ({ m.ordinary with loads := m.ordinary.loads.set load (.received how.ordinary) } : State κ ν) =
      State.ordinary { m with loads := m.loads.set load (.received how) } := by
  simp [State.ordinary, Load.ordinary]

section Machine
variable [DecidableEq κ] {k : Cache κ ν} {c : Nat} {request : Request κ}
  {previous : Option (Snapshot κ ν)} {limit : Duration}

theorem conclude_ordinary (r : Return κ ν) :
    conclude k m.ordinary c request r = (conclude k m c request r).ordinary := by
  unfold conclude
  split <;> rfl

omit [DecidableEq κ] in
theorem fallBack_ordinary (e : CacheError) :
    fallBack k m.ordinary c previous e = (fallBack k m c previous e).ordinary := by
  cases previous <;> rfl

omit [DecidableEq κ] in
theorem beginLoad_ordinary :
    beginLoad k m.ordinary c previous = (beginLoad k m c previous).ordinary := by
  unfold beginLoad
  simp only [announce, State.count, State.report, State.ordinary]
  split
  · rfl
  · split
    · rfl
    · simp [State.goto, Load.ordinary]

omit [DecidableEq κ] in
theorem receive_ordinary (limited : k.settings.loadTimeout = some limit) (how : LoadEnd ν) :
    receive k m.ordinary c load previous how.ordinary =
      (receive k m c load previous how).ordinary := by
  cases how with
  | delivered records => rfl
  | failed reason => exact fallBack_ordinary _
  | died =>
      simp only [receive, limited, LoadEnd.ordinary]
      exact fallBack_ordinary _

/-- Whether a load died is looked at only where it is received. -/
theorem advance?_ordinary (limited : k.settings.loadTimeout = some limit) (p : Phase κ ν) :
    k.advance? m.ordinary c request p = (k.advance? m c request p).map State.ordinary := by
  cases p with
  | load previous => exact congrArg some beginLoad_ordinary
  | awaiting load previous =>
      simp only [advance?, getElem?_ordinary_loads]
      cases m.loads[load]? with
      | none => rfl
      | some l =>
          cases l with
          | ended how =>
              simp only [Option.map, Load.ordinary]
              rw [set_ordinary, receive_ordinary limited]
          | _ => rfl
  | leaving r => exact congrArg some (conclude_ordinary (m := { m with gate := _ }) r)
  | start =>
      cases request with
      | refresh => rfl
      | _ =>
        simp only [advance?, ordinary_snapshot]
        split
        · rfl
        · split
          · exact congrArg some (conclude_ordinary (m := m.count countHit) _)
          · rfl
  | judge need s =>
      cases holds : need.holds k.settings s m.now with
      | true =>
          simp only [advance?, ordinary_now, holds, if_true]
          rfl
      | false =>
          simp only [advance?, ordinary_now, holds, Bool.false_eq_true, if_false]
          cases need with
          | missing key => exact congrArg some (conclude_ordinary _)
          | _ => exact congrArg some (conclude_ordinary (m := m.count countHit) _)
  | occupied need =>
      simp only [advance?, ordinary_snapshot]
      split
      · exact congrArg some (conclude_ordinary (m := (m.report _ _).count countStale) _)
      · rfl
  | collected load records previous =>
      simp only [advance?]
      split <;> rfl
  | inspect need =>
      simp only [advance?, ordinary_snapshot]
      split
      · rfl
      · split <;> rfl
  | recheck need s =>
      cases holds : need.holds k.settings s m.now <;>
        simp only [advance?, ordinary_now, holds, Bool.false_eq_true, if_true, if_false] <;> rfl
  | approach need =>
      simp only [advance?, ordinary_gate]
      split <;> rfl
  | queue need =>
      simp only [advance?, ordinary_gate]
      split <;> rfl
  | publish s previous => rfl
  | returned r => rfl

omit [DecidableEq κ] in
theorem expire?_ordinary (p : Phase κ ν) :
    k.expire? m.ordinary c p = (k.expire? m c p).map State.ordinary := by
  cases p with
  | awaiting load previous =>
      simp only [expire?]
      split
      · exact congrArg some
          (fallBack_ordinary (m := State.report { m with parked := some load } _ _) _)
      · rfl
  | _ => rfl

omit [DecidableEq κ] in
theorem refuse?_ordinary (reason : String) (p : Phase κ ν) :
    k.refuse? m.ordinary c reason p = (k.refuse? m c reason p).map State.ordinary := by
  cases p with
  | load previous =>
      simp only [refuse?, ordinary_parked]
      split
      · rfl
      · split
        · exact congrArg some (fallBack_ordinary (m := announce k m) _)
        · rfl
  | _ => rfl

theorem next?_ordinary (limited : k.settings.loadTimeout = some limit) (e : Event κ ν) :
    k.next? m.ordinary e.ordinary = (k.next? m e).map State.ordinary := by
  cases e with
  | call request => rfl
  | clock reading => rfl
  | finish load how lines =>
      simp only [Event.ordinary, next?, getElem?_ordinary_loads]
      cases m.loads[load]? with
      | none => rfl
      | some l =>
          cases l with
          | running => simp [State.ordinary, Load.ordinary]
          | _ => rfl
  | step c =>
      simp only [Event.ordinary, next?, ordinary_calls]
      split
      · exact advance?_ordinary limited _
      · rfl
  | expire c =>
      simp only [Event.ordinary, next?, ordinary_calls]
      split
      · exact expire?_ordinary _
      · rfl
  | refuse c reason =>
      simp only [Event.ordinary, next?, ordinary_calls]
      split
      · exact refuse?_ordinary reason _
      · rfl

theorem run_ordinary (limited : k.settings.loadTimeout = some limit) (m : State κ ν)
    (events : List (Event κ ν)) :
    k.run m.ordinary (events.map Event.ordinary) = (k.run m events).ordinary := by
  induction events generalizing m with
  | nil => rfl
  | cons e events ih =>
      have step : (k.next? m.ordinary e.ordinary).getD m.ordinary =
          ((k.next? m e).getD m).ordinary := by
        rw [next?_ordinary limited]
        cases k.next? m e <;> rfl
      simp only [List.map_cons, run_cons, step]
      exact ih _

end Machine
end Telemetry.Cache
