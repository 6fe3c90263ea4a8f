import Telemetry.Json.Parser
import Telemetry.Json.Reader

/-!
# Catalog documents

A catalog is an array of records, or an object whose member `items` is one.
The whole document must be a plain value; the records are read all or none.
Where a catalog comes from can fail in itself, or deliver what is no catalog;
the details of such a failure come from outside.
-/
set_option autoImplicit false
namespace Telemetry

inductive DecodeFault where
  | itemsNotArray
  | noItems
  | unexpectedValue (kind : String)
  | other (details : String)
  deriving DecidableEq, Repr

def DecodeFault.message : DecodeFault → String
  | itemsNotArray => "\"items\" is not an array"
  | noItems => "object without \"items\""
  | unexpectedValue kind => "unexpected top-level value " ++ kind
  | other details => details

inductive ConnectorError where
  | request (details : String)
  | server (status : Nat) (body : String)
  | decode (origin : String) (fault : DecodeFault)
  | io (details : String)
  | config (reason : String)
  deriving DecidableEq, Repr

namespace ConnectorError

def name : ConnectorError → String
  | request _ => "Request"
  | server .. => "ServerError"
  | decode .. => "Decode"
  | io _ => "Io"
  | config _ => "Config"

def message : ConnectorError → String
  | request details => "Request failed: " ++ details
  | server status body => "Server error " ++ toString status ++ ": " ++ body
  | decode origin fault => "Failed to decode " ++ origin ++ ": " ++ fault.message
  | io details => "I/O error: " ++ details
  | config reason => "Configuration error: " ++ reason

def isTransient : ConnectorError → Bool
  | request _ => true
  | server status _ => 500 ≤ status || status == 429
  | _ => false

end ConnectorError

namespace Catalog

/-- Stands for details of a fault that this library does not word. -/
def unworded : String := "..."

def items? : Json → Except DecodeFault (List Json)
  | .array items => .ok items
  | .object members =>
    match members.lookup (some "items") with
    | some (.array items) => .ok items
    | some _ => .error .itemsNotArray
    | none => .error .noItems
  | .null => .error (.unexpectedValue "null")
  | .bool _ => .error (.unexpectedValue "boolean")
  | .number _ => .error (.unexpectedValue "number")
  | .string _ => .error (.unexpectedValue "string")

def records {α : Type} (record? : Json → Option α) (text : String) : Except DecodeFault (List α) :=
  match (Json.parse? text).bind Json.generic? with
  | none => .error (.other unworded)
  | some document =>
    match items? document with
    | .error fault => .error fault
    | .ok items =>
      match items.mapM record? with
      | some records => .ok records
      | none => .error (.other unworded)

def decode {α : Type} (record? : Json → Option α) (origin text : String) :
    Except ConnectorError (List α) :=
  match records record? text with
  | .ok records => .ok records
  | .error fault => .error (.decode origin fault)

end Catalog
end Telemetry
