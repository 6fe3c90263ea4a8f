import Telemetry.Cache.Call
import Telemetry.Errors
import Telemetry.Text.Quoted
import Telemetry.Time.Duration

/-!
# The catalog cache

Many callers share one cache: its snapshot, the gate through which only one of
them at a time passes to reload, the load that an earlier caller gave up waiting
for, and the counters.  A caller goes from phase to phase; every look at what is
shared is a step of its own, so that the steps of callers may be mixed in any
way.  Loads end, clocks move and waiting callers give up by events from outside.

A caller that crashes while it holds the gate leaves the gate poisoned.  Each
later caller still takes such a gate for a moment before it turns back, and in
that moment the gate looks taken to others.
-/
set_option autoImplicit false
namespace Telemetry

structure Cache (κ ν : Type) where
  name : String
  settings : CacheSettings
  label : String
  /-- The key of a record; without one, arranging the records crashes. -/
  keyOf : ν → Option κ
  keyText : κ → String

namespace Cache

structure Stats where
  loads : Nat
  loadFailures : Nat
  /-- Snapshots served because a reload failed or was under way. -/
  staleServed : Nat
  hits : Nat
  misses : Nat
  deriving DecidableEq, Repr

def Stats.none : Stats := ⟨0, 0, 0, 0, 0⟩

inductive LoadEnd (ν : Type) where
  | delivered (records : List ν)
  | failed (reason : String)
  | died
  deriving DecidableEq, Repr

inductive Load (ν : Type) where
  | running
  | ended (how : LoadEnd ν)
  /-- It has ended, and a caller has taken notice. -/
  | received (how : LoadEnd ν)
  deriving DecidableEq, Repr

structure Gate where
  holder : Option Nat
  poisoned : Bool
  deriving DecidableEq, Repr

/-- How far a call has got. -/
inductive Phase (κ ν : Type) where
  | start
  /-- It has seen a snapshot and is to find out its age. -/
  | judge (need : Need κ) (snapshot : Snapshot κ ν)
  /-- It is to take the gate if that is free. -/
  | approach (need : Need κ)
  /-- It has found the gate taken. -/
  | occupied (need : Need κ)
  /-- It is to take the gate as soon as that is free. -/
  | queue (need : Need κ)
  /-- It has the gate and is to look whether a reload is still needed. -/
  | inspect (need : Need κ)
  /-- It has the gate, has seen a snapshot and is to find out its age. -/
  | recheck (need : Need κ) (snapshot : Snapshot κ ν)
  /-- It has the gate and is to reload. -/
  | load (previous : Option (Snapshot κ ν))
  /-- It has the gate and waits for a load. -/
  | awaiting (load : Nat) (previous : Option (Snapshot κ ν))
  /-- It has the gate and records to arrange by key. -/
  | collected (load : Nat) (records : List ν) (previous : Option (Snapshot κ ν))
  /-- It has the gate and a snapshot to make the current one. -/
  | publish (snapshot : Snapshot κ ν) (previous : Option (Snapshot κ ν))
  /-- It is to give the gate back. -/
  | leaving (result : Return κ ν)
  | returned (result : Return κ ν)
  deriving DecidableEq, Repr

structure Call (κ ν : Type) where
  request : Request κ
  phase : Phase κ ν
  deriving DecidableEq, Repr

def total {κ ν : Type} (gain : Call κ ν → Nat) : List (Call κ ν) → Nat
  | [] => 0
  | call :: rest => gain call + total gain rest

/-- Everything shared, and every call that was made. -/
structure State (κ ν : Type) where
  now : Nat
  snapshot : Option (Snapshot κ ν)
  gate : Gate
  /-- The load that a caller gave up waiting for. -/
  parked : Option Nat
  loads : List (Load ν)
  stats : Stats
  lines : List Log.Line
  calls : List (Call κ ν)
  deriving DecidableEq, Repr

inductive Event (κ ν : Type) where
  | call (request : Request κ)
  | step (call : Nat)
  | clock (reading : Nat)
  /-- A load ends, having reported some lines. -/
  | finish (load : Nat) (how : LoadEnd ν) (lines : List Log.Line)
  /-- A call has waited for a load as long as it may. -/
  | expire (call : Nat)
  /-- A call cannot start a load. -/
  | refuse (call : Nat) (reason : String)
  deriving DecidableEq, Repr

variable {κ ν : Type}

namespace State

def empty (now : Nat) : State κ ν where
  now := now
  snapshot := none
  gate := ⟨none, false⟩
  parked := none
  loads := []
  stats := Stats.none
  lines := []
  calls := []

def goto (m : State κ ν) (c : Nat) (phase : Phase κ ν) : State κ ν :=
  { m with calls := m.calls.modify c fun call => { call with phase := phase } }

def report (m : State κ ν) (level : Log.Level) (text : String) : State κ ν :=
  { m with lines := m.lines ++ [⟨level, text⟩] }

def count (m : State κ ν) (f : Stats → Stats) : State κ ν := { m with stats := f m.stats }

def age? (m : State κ ν) : Option Nat := m.snapshot.map fun s => s.age m.now

def running (m : State κ ν) : List Nat :=
  (List.range m.loads.length).filter fun i =>
    match m.loads[i]? with
    | some .running => true
    | _ => false

end State

def countHit (s : Stats) : Stats := { s with hits := s.hits + 1 }
def countStale (s : Stats) : Stats := { s with staleServed := s.staleServed + 1 }
def countMiss (s : Stats) : Stats := { s with misses := s.misses + 1 }
def countLoad (s : Stats) : Stats := { s with loads := s.loads + 1 }
def countFailure (s : Stats) : Stats := { s with loadFailures := s.loadFailures + 1 }

variable [DecidableEq κ]

def conclude (k : Cache κ ν) (m : State κ ν) (c : Nat) (request : Request κ) (r : Return κ ν) :
    State κ ν :=
  let m := m.goto c (.returned r)
  match request.unmet? r with
  | some key => (m.count countMiss).report .debug (k.name ++ ": no entry for key " ++ k.keyText key)
  | none => m

def crash (m : State κ ν) (c : Nat) : State κ ν :=
  { m with gate := ⟨none, true⟩ }.goto c (.returned .crashed)

def enter (m : State κ ν) (c : Nat) (need : Need κ) : State κ ν :=
  { m with gate := { m.gate with holder := some c } }.goto c
    (if m.gate.poisoned then .leaving (.failed .lockPoisoned) else .inspect need)

def fallBack (k : Cache κ ν) (m : State κ ν) (c : Nat) (previous : Option (Snapshot κ ν))
    (e : CacheError) : State κ ν :=
  let m := m.count countFailure
  match previous with
  | some s =>
    ((m.report .warn (k.name ++ ": reload failed (" ++ e.message ++ "), serving snapshot aged "
      ++ toString (s.age m.now) ++ " ms")).count countStale).goto c (.leaving (.served .fallback s))
  | none =>
    (m.report .warn (k.name ++ ": initial load failed: " ++ e.message)).goto c (.leaving (.failed e))

def receive (k : Cache κ ν) (m : State κ ν) (c load : Nat) (previous : Option (Snapshot κ ν)) :
    LoadEnd ν → State κ ν
  | .delivered records => m.goto c (.collected load records previous)
  | .failed reason => fallBack k m c previous (.unavailable reason)
  | .died =>
    match k.settings.loadTimeout with
    | some _ =>
      fallBack k m c previous (.unavailable "loader thread exited without a result")
    | none => crash m c

def announce (k : Cache κ ν) (m : State κ ν) : State κ ν :=
  (m.count countLoad).report .debug (k.name ++ ": reloading from " ++ k.label)

/-- With a timeout, loads run on a worker that is named for the cache, and no worker can bear a name
with a NUL in it. -/
def lacksWorker (k : Cache κ ν) : Bool :=
  k.settings.loadTimeout.isSome && k.name.toList.contains '\x00'

/-- Starts a load, or waits again for the one that was given up.  Where no worker can be named for
the cache, the call crashes before a load is started. -/
def beginLoad (k : Cache κ ν) (m : State κ ν) (c : Nat) (previous : Option (Snapshot κ ν)) :
    State κ ν :=
  let m := announce k m
  match m.parked with
  | some load =>
    ({ m with parked := none }.report .debug (k.name ++ ": waiting on load still in flight")).goto c
      (.awaiting load previous)
  | none =>
    if k.lacksWorker then crash m c
    else { m with loads := m.loads ++ [Load.running] }.goto c (.awaiting m.loads.length previous)

def installedLine (k : Cache κ ν) (s : Snapshot κ ν) (previous : Option (Snapshot κ ν)) : Log.Line :=
  match previous with
  | none => ⟨.info, k.name ++ ": loaded " ++ toString s.entries.length ++ " entries"⟩
  | some _ => ⟨.debug, k.name ++ ": reloaded " ++ toString s.entries.length ++ " entries"⟩

/-- The next step of a call in a phase; nothing while it has to wait. -/
def advance? (k : Cache κ ν) (m : State κ ν) (c : Nat) (request : Request κ) :
    Phase κ ν → Option (State κ ν)
  | .start =>
    match request with
    | .refresh => some (m.goto c (.queue .always))
    | _ =>
      match m.snapshot with
      | none => some (m.goto c (.approach (request.need false)))
      | some s =>
        match (request.need true).limit? k.settings s with
        | none => some (conclude k (m.count countHit) c request (.served .hit s))
        | some _ => some (m.goto c (.judge (request.need true) s))
  | .judge need s =>
    if need.holds k.settings s m.now then some (m.goto c (.approach need))
    else match need with
      | .missing _ => some (conclude k m c request (.served .lacking s))
      | _ => some (conclude k (m.count countHit) c request (.served .hit s))
  | .approach need =>
    match m.gate.holder with
    | some _ => some (m.goto c (.occupied need))
    | none => some (enter m c need)
  | .occupied need =>
    match m.snapshot with
    | some s =>
      some (conclude k ((m.report .trace (k.name ++ ": reload in flight, serving previous snapshot")).count
        countStale) c request (.served .inFlight s))
    | none => some (m.goto c (.queue need))
  | .queue need =>
    match m.gate.holder with
    | some _ => none
    | none => some (enter m c need)
  | .inspect need =>
    match m.snapshot with
    | none => some (m.goto c (.load none))
    | some s =>
      match need.limit? k.settings s with
      | none => some ((m.count countHit).goto c (.leaving (.served .hit s)))
      | some _ => some (m.goto c (.recheck need s))
  | .recheck need s =>
    if need.holds k.settings s m.now then some (m.goto c (.load (some s)))
    else some ((m.count countHit).goto c (.leaving (.served .hit s)))
  | .load previous => some (beginLoad k m c previous)
  | .awaiting load previous =>
    match m.loads[load]? with
    | some (.ended how) =>
      some (receive k { m with loads := m.loads.set load (.received how) } c load previous how)
    | _ => none
  | .collected load records previous =>
    match index k.keyOf records with
    | some entries => some (m.goto c (.publish ⟨entries, m.now, load⟩ previous))
    | none => some (crash m c)
  | .publish s previous =>
    some ({ m with snapshot := some s, lines := m.lines ++ [installedLine k s previous] }.goto c
      (.leaving (.served .reloaded s)))
  | .leaving r => some (conclude k { m with gate := { m.gate with holder := none } } c request r)
  | .returned _ => none

/-- A call that waits for a load gives up; the load goes on without it. -/
def expire? (k : Cache κ ν) (m : State κ ν) (c : Nat) : Phase κ ν → Option (State κ ν)
  | .awaiting load previous =>
    match k.settings.loadTimeout with
    | some limit =>
      some (fallBack k ({ m with parked := some load }.report .warn
        (k.name ++ ": load exceeded " ++ limit.text)) c previous (.timeout limit))
    | none => none
  | _ => none

def refuse? (k : Cache κ ν) (m : State κ ν) (c : Nat) (reason : String) :
    Phase κ ν → Option (State κ ν)
  | .load previous =>
    if k.lacksWorker then none
    else match k.settings.loadTimeout, m.parked with
    | some _, none => some (fallBack k (announce k m) c previous (.unavailable reason))
    | _, _ => none
  | _ => none

def next? (k : Cache κ ν) (m : State κ ν) : Event κ ν → Option (State κ ν)
  | .call request => some { m with calls := m.calls ++ [⟨request, .start⟩] }
  | .clock reading => some { m with now := reading }
  | .finish load how lines =>
    match m.loads[load]? with
    | some .running =>
      some { m with loads := m.loads.set load (.ended how), lines := m.lines ++ lines }
    | _ => none
  | .step c =>
    match m.calls[c]? with
    | some call => advance? k m c call.request call.phase
    | none => none
  | .expire c =>
    match m.calls[c]? with
    | some call => expire? k m c call.phase
    | none => none
  | .refuse c reason =>
    match m.calls[c]? with
    | some call => refuse? k m c reason call.phase
    | none => none

/-- The state after a history of events; what cannot happen is passed over. -/
def run (k : Cache κ ν) (m : State κ ν) (events : List (Event κ ν)) : State κ ν :=
  events.foldl (fun m e => (k.next? m e).getD m) m

def answer? (k : Cache κ ν) (m : State κ ν) (c : Nat) : Option (Answer κ ν) :=
  match m.calls[c]? with
  | some ⟨request, .returned r⟩ => some (request.answer k.keyText r)
  | _ => none

def creationLines (k : Cache κ ν) (clock : ClockKind) : List Log.Line :=
  if clock.isWall then
    [⟨.warn, k.name ++ ": snapshots aged by a wall clock; clock adjustments shift staleness"⟩]
  else []

def Stats.debugText (s : Stats) : String :=
  "CacheStats \x7b loads: " ++ toString s.loads ++ ", load_failures: " ++ toString s.loadFailures
    ++ ", stale_served: " ++ toString s.staleServed ++ ", hits: " ++ toString s.hits
    ++ ", misses: " ++ toString s.misses ++ " \x7d"

def debugText (k : Cache κ ν) (m : State κ ν) : String :=
  "ReferenceCache \x7b name: " ++ Text.quoted k.name ++ ", config: " ++ k.settings.debugText
    ++ ", stats: " ++ m.stats.debugText ++ " \x7d"

end Cache
end Telemetry
