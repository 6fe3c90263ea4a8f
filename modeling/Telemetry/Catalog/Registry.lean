import Telemetry.Catalog.Record
import Telemetry.Errors

/-!
# Registry of source kinds

Source types by id.  Records are kept in the order of their ids, by code point.
Registering refuses an id that is present; upserting replaces its record.
-/
set_option autoImplicit false
namespace Telemetry

structure Registry where
  records : List SourceType
  deriving DecidableEq, Repr

namespace Registry

def empty : Registry := ⟨[]⟩

def find? (r : Registry) (id : String) : Option SourceType := r.records.find? fun k => k.id == id

def get (r : Registry) (id : String) : Except CatalogError SourceType :=
  match r.find? id with
  | some k => .ok k
  | none => .error (.notFound id)

def spec (r : Registry) (id : String) : Except CatalogError SourceSpec :=
  (r.get id).map SourceType.spec

def ids (r : Registry) : List String := r.records.map SourceType.id

def size (r : Registry) : Nat := r.records.length

def isEmpty (r : Registry) : Bool := r.records.isEmpty

def place (record : SourceType) : List SourceType → List SourceType
  | [] => [record]
  | k :: rest =>
    if record.id = k.id then record :: rest
    else if record.id < k.id then record :: k :: rest
    else k :: place record rest

def insert (r : Registry) (record : SourceType) : Registry := ⟨place record r.records⟩

def register (r : Registry) (record : SourceType) : Except CatalogError Registry :=
  match record.validate with
  | .error e => .error e
  | .ok () =>
    if (r.find? record.id).isSome then .error (.alreadyRegistered record.id)
    else .ok (r.insert record)

def registrationLine (record : SourceType) : Log.Line :=
  ⟨.debug, "registered source kind " ++ record.id ++ " (" ++ toString record.channels.length
    ++ " channels)"⟩

def upsert (r : Registry) (record : SourceType) :
    Except CatalogError (Option SourceType × Registry) :=
  match record.validate with
  | .error e => .error e
  | .ok () => .ok (r.find? record.id, r.insert record)

inductive Change where
  | register (record : SourceType)
  | upsert (record : SourceType)
  | registerDocument (origin text : String)
  | loadDefaults
  deriving DecidableEq, Repr

structure Outcome where
  registry : Registry
  error : Option CatalogError
  replaced : Option SourceType
  lines : List Log.Line
  deriving DecidableEq, Repr

def registerOutcome (r : Registry) (record : SourceType) : Outcome :=
  match r.register record with
  | .error e => ⟨r, some e, none, []⟩
  | .ok next => ⟨next, none, none, [registrationLine record]⟩

/-- Registers records one after the other up to the first that is refused; those before it stay. -/
def registerAll (r : Registry) : List SourceType → Outcome
  | [] => ⟨r, none, none, []⟩
  | record :: rest =>
    match r.register record with
    | .error e => ⟨r, some e, none, []⟩
    | .ok next =>
      let outcome := registerAll next rest
      { outcome with lines := registrationLine record :: outcome.lines }

def change (r : Registry) : Change → Outcome
  | .register record => r.registerOutcome record
  | .upsert record =>
    match r.upsert record with
    | .error e => ⟨r, some e, none, []⟩
    | .ok (replaced, next) => ⟨next, none, replaced, []⟩
  | .registerDocument origin text =>
    match Kind.parse origin text with
    | .error e => ⟨r, some e, none, []⟩
    | .ok record => r.registerOutcome record
  | .loadDefaults => r.registerAll Kind.defaults

def withDefaults : Outcome := empty.change .loadDefaults

end Registry
end Telemetry
