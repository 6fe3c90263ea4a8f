import Telemetry.Cache.Machine

/-!
# Running a cache until it comes to rest

Calls are let go on, the earliest first, until each has returned or waits for
the gate or a load.  `Supply` says how the loads end that are started on the
way: at once, or not before `release`.
-/
set_option autoImplicit false
namespace Telemetry.Cache

inductive Supply (ν : Type) where
  | replies (how : LoadEnd ν) (lines : List Log.Line)
  | hangs
  deriving DecidableEq, Repr

variable {κ ν : Type}

/-- At least the number of steps that a call in a phase can still take. -/
def Phase.rank : Phase κ ν → Nat
  | start => 12
  | judge .. => 11
  | approach _ => 10
  | occupied _ => 9
  | queue _ => 8
  | inspect _ => 7
  | recheck .. => 6
  | load _ => 5
  | awaiting .. => 4
  | collected .. => 3
  | publish .. => 2
  | leaving _ => 1
  | returned _ => 0

def State.rank (m : State κ ν) : Nat := total (fun call => call.phase.rank) m.calls

variable [DecidableEq κ]

def firstOf (k : Cache κ ν) (m : State κ ν) (event : Nat → Event κ ν) : Option (State κ ν) :=
  (List.range m.calls.length).findSome? fun c => k.next? m (event c)

/-- Ends the loads that were started beyond the first `before` ones. -/
def reply (k : Cache κ ν) (before : Nat) (m : State κ ν) : Supply ν → State κ ν
  | .hangs => m
  | .replies how lines =>
    if before < m.loads.length then k.run m [.finish before how lines] else m

def settleFor (k : Cache κ ν) (supply : Supply ν) : Nat → State κ ν → State κ ν
  | 0, m => m
  | fuel + 1, m =>
    match firstOf k m .step with
    | some after => settleFor k supply fuel (reply k m.loads.length after supply)
    | none => m

def settle (k : Cache κ ν) (supply : Supply ν) (m : State κ ν) : State κ ν :=
  settleFor k supply m.rank m

def submit (k : Cache κ ν) (supply : Supply ν) (m : State κ ν) (request : Request κ) : State κ ν :=
  settle k supply (k.run m [.call request])

/-- Lets time pass until a call has returned: calls that wait for a load give up, the earliest first. -/
def await (k : Cache κ ν) (supply : Supply ν) (c : Nat) : Nat → State κ ν → State κ ν
  | 0, m => m
  | fuel + 1, m =>
    if (k.answer? m c).isSome then m
    else match firstOf k m .expire with
      | some after => await k supply c fuel (settle k supply after)
      | none => m

def ask (k : Cache κ ν) (supply : Supply ν) (m : State κ ν) (request : Request κ) :
    Option (Answer κ ν) × State κ ν :=
  let m := submit k supply m request
  let c := m.calls.length - 1
  let m := await k supply c m.calls.length m
  (k.answer? m c, m)

def release (k : Cache κ ν) (supply : Supply ν) (m : State κ ν) (how : LoadEnd ν)
    (lines : List Log.Line) : State κ ν :=
  settle k supply (k.run m (m.running.map fun load => .finish load how lines))

end Telemetry.Cache
