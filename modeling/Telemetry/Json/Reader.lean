import Telemetry.Json.Basic

/-!
# Reading values from documents

A record is an object with its fields by name, or an array with its fields in
order.  In an object no field may be given twice, under none of its names, and
unknown members are passed over; an array may end early but holds nothing
beyond the last field.  What a missing field means is up to the record.
-/
set_option autoImplicit false
namespace Telemetry.Json

def string? : Json → Option String
  | .string s => s
  | _ => none

def number? : Json → Option Binary64
  | .number n => n.toBinary64?
  | _ => none

def integer? (low high : Int) : Json → Option Int
  | .number n => n.integer?.bind fun i => if low ≤ i ∧ i ≤ high then some i else none
  | _ => none

def list? {α : Type} (item : Json → Option α) : Json → Option (List α)
  | .array items => items.mapM item
  | _ => none

def optional? {α : Type} (value : Json → Option α) : Json → Option (Option α)
  | .null => some none
  | j => (value j).map some

/-- A name out of a fixed choice: a string, or an object whose one member has that name and the value
`null`. -/
def choice? {α : Type} (named : String → Option α) : Json → Option α
  | .string (some s) => named s
  | .object [(some s, .null)] => named s
  | _ => none

abbrev Slot := Option Json

def fieldIndex? (fields : List (List String)) (name : String) : Option Nat :=
  fields.findIdx? fun names => names.contains name

/-- Members put into their fields' slots; nothing if a key is not a whole string or a field comes
twice. -/
def fillSlots (fields : List (List String)) (slots : List Slot) :
    List (Option String × Json) → Option (List Slot)
  | [] => some slots
  | (none, _) :: _ => none
  | (some k, j) :: rest =>
    match fieldIndex? fields k with
    | none => fillSlots fields slots rest
    | some i =>
      if (slots[i]?.getD none).isSome then none
      else fillSlots fields (slots.set i (some j)) rest

/-- One slot per field of a record, each field under a list of accepted names. -/
def slots? (fields : List (List String)) : Json → Option (List Slot)
  | .object members => fillSlots fields (fields.map fun _ => none) members
  | .array items =>
    if items.length ≤ fields.length then
      some (items.map some ++ List.replicate (fields.length - items.length) none)
    else none
  | _ => none

def required? {α : Type} (value : Json → Option α) (slot : Slot) : Option α := slot.bind value

def withDefault? {α : Type} (default : α) (value : Json → Option α) : Slot → Option α
  | none => some default
  | some j => value j

end Telemetry.Json
