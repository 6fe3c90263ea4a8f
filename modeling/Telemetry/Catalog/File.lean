import Telemetry.Cache.Settle
import Telemetry.Catalog.Document
import Telemetry.Catalog.Record
import Telemetry.Errors
import Telemetry.Text.Basic
import Telemetry.Text.Quoted

/-!
# Catalogs in files and in caches

A catalog can be read from a file.  The file is read anew by every fetch; a
file that is absent or holds no text is an input error.  A cache over records
with ids is given what a fetch brings when it loads.
-/
set_option autoImplicit false
namespace Telemetry

structure FileSource where
  path : String
  deriving DecidableEq, Repr

namespace FileSource

def label (s : FileSource) : String := "file:" ++ s.path

def debugText (s : FileSource) : String :=
  "FileCatalogSource \x7b path: " ++ Text.quoted s.path ++ " \x7d"

def fetch {α : Type} (s : FileSource) (record? : Json → Option α) (contents : Option (List UInt8)) :
    Except ConnectorError (List α) :=
  match contents.bind Text.decodeUtf8? with
  | none => .error (.io Catalog.unworded)
  | some text => Catalog.decode record? s.path text

def fetchLines {α : Type} (s : FileSource) : Except ConnectorError (List α) → List Log.Line
  | .error _ => []
  | .ok records =>
    [⟨.trace, "read " ++ toString records.length ++ " records from " ++ s.path⟩]

end FileSource

/-! ## Caches -/

namespace Catalog

def loadEnd {α : Type} : Except ConnectorError (List α) → Cache.LoadEnd α
  | .ok records => .delivered records
  | .error e => .failed e.message

end Catalog

/-- What loads give that read a file with the contents that it has at the time. -/
def FileSource.supply {α : Type} (s : FileSource) (record? : Json → Option α)
    (contents : Option (List UInt8)) : Cache.Supply α :=
  let fetched := s.fetch record? contents
  .replies (Catalog.loadEnd fetched) (s.fetchLines fetched)

namespace Cache

def byId {ν : Type} (name : String) (settings : CacheSettings) (label : String) (id : ν → String) :
    Cache String ν where
  name := name
  settings := settings
  label := label
  keyOf := fun record => some (id record)
  keyText := fun key => key

variable {κ ν : Type} [DecidableEq κ]

/-- Looks a key up; nothing if no answer comes. -/
def lookUp (k : Cache κ ν) (supply : Supply ν) (m : State κ ν) (key : κ) :
    Option (Except CacheError ν) × State κ ν :=
  match k.ask supply m (.get key) with
  | (some (.value record), m) => (some (.ok record), m)
  | (some (.error e), m) => (some (.error e), m)
  | (_, m) => (none, m)

end Cache
end Telemetry
