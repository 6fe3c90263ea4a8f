import Telemetry.Time.Instant

/-!
# Errors and log lines

What callers are told of failures: who caused them, the HTTP status that answers
them, and a text.  What an operation reports on the side is a list of lines,
each with a level; operations return their lines as data, and nothing is printed.
-/
set_option autoImplicit false
namespace Telemetry

inductive ErrorClass where
  | clientInput
  | notFound
  | supplier
  | internal
  deriving DecidableEq, Repr

namespace ErrorClass

def name : ErrorClass → String
  | .clientInput => "ClientInput"
  | .notFound => "NotFound"
  | .supplier => "Upstream"
  | .internal => "Internal"

def isClientError : ErrorClass → Bool
  | .clientInput | .notFound => true
  | .supplier | .internal => false

def statusCode : ErrorClass → Nat
  | .clientInput => 400
  | .notFound => 404
  | .supplier => 503
  | .internal => 500

end ErrorClass

/-! ## Settings -/

inductive SettingsError where
  | unreadable
  | malformed
  | invalid (reason : String)
  deriving DecidableEq, Repr

namespace SettingsError

def name : SettingsError → String
  | unreadable => "Io"
  | malformed => "Parse"
  | invalid _ => "Invalid"

def message : SettingsError → String
  | unreadable => "Failed to read config"
  | malformed => "Failed to parse config"
  | invalid reason => "Invalid config: " ++ reason

/-- Settings are the operator's, never the client's. -/
def errorClass (_ : SettingsError) : ErrorClass := .internal

end SettingsError

/-! ## Range queries -/

inductive WindowError where
  | invalidRange (start stop : Instant)
  | resolutionTooFine (buckets max : Nat)
  | invalidTimestamp (text : String)
  | unknownBucket (text : String)
  | emptyBucketTable
  | invalidConfig (reason : String)
  deriving DecidableEq, Repr

namespace WindowError

def name : WindowError → String
  | invalidRange .. => "InvalidRange"
  | resolutionTooFine .. => "ResolutionTooFine"
  | invalidTimestamp _ => "InvalidTimestamp"
  | unknownBucket _ => "UnknownBucket"
  | emptyBucketTable => "EmptyBucketTable"
  | invalidConfig _ => "InvalidConfig"

def message : WindowError → String
  | invalidRange start stop =>
    "Invalid range: start " ++ start.spacedText ++ " is after end " ++ stop.spacedText
  | resolutionTooFine buckets max =>
    "Resolution too fine: " ++ toString buckets ++ " buckets requested, at most " ++ toString max
      ++ " allowed"
  | invalidTimestamp text => "Invalid timestamp '" ++ text ++ "': expected ISO-8601 / RFC 3339"
  | unknownBucket text => "Unknown bucket size '" ++ text ++ "'"
  | emptyBucketTable => "No bucket sizes configured"
  | invalidConfig reason => "Invalid window config: " ++ reason

/-- Configuration errors are internal; the others come from the request. -/
def errorClass : WindowError → ErrorClass
  | emptyBucketTable | invalidConfig _ => .internal
  | _ => .clientInput

end WindowError

/-! ## Catalog cache -/

inductive CacheError where
  | unavailable (reason : String)
  | timeout (limit : Duration)
  | notFound (key : String)
  | lockPoisoned
  deriving DecidableEq, Repr

namespace CacheError

def name : CacheError → String
  | unavailable _ => "UpstreamUnavailable"
  | timeout _ => "Timeout"
  | notFound _ => "NotFound"
  | lockPoisoned => "LockPoisoned"

def message : CacheError → String
  | unavailable reason => "Upstream catalog unavailable: " ++ reason
  | timeout limit => "Catalog load timed out after " ++ limit.text
  | notFound key => "Key not found: " ++ key
  | lockPoisoned => "Cache lock poisoned"

/-- A missing key is the asker's matter, a poisoned lock the cache's own. -/
def errorClass : CacheError → ErrorClass
  | unavailable _ | timeout _ => .supplier
  | notFound _ => .notFound
  | lockPoisoned => .internal

end CacheError

/-! ## Source kinds -/

inductive CatalogError where
  | malformed (origin : String)
  | notFound (id : String)
  | emptyId
  | duplicateChannel (kind channel : String)
  | badFrequency (kind channel frequency : String)
  | alreadyRegistered (id : String)
  | lockPoisoned
  deriving DecidableEq, Repr

namespace CatalogError

/-- The cause, with the rules for kinds taken together. -/
def name : CatalogError → String
  | malformed _ => "ParseError"
  | notFound _ => "NotFound"
  | lockPoisoned => "LockPoisoned"
  | _ => "ValidationError"

/-- The text of an error, where `details` says what is wrong with a malformed document. -/
def messageWith (details : String) : CatalogError → String
  | malformed origin => "Failed to parse " ++ origin ++ ": " ++ details
  | notFound id => "Source kind not found: " ++ id
  | emptyId => "Validation failed: source type id is empty"
  | duplicateChannel kind channel => "Validation failed: " ++ kind ++ ": duplicate channel " ++ channel
  | badFrequency kind channel frequency =>
    "Validation failed: " ++ kind ++ ": channel " ++ channel ++ " has frequency " ++ frequency ++ " Hz"
  | alreadyRegistered id => "Validation failed: source kind " ++ id ++ " already registered"
  | lockPoisoned => "Registry lock poisoned"

def message (e : CatalogError) : String := e.messageWith "..."

end CatalogError

/-! ## Log lines -/

namespace Log

inductive Level where
  | trace
  | debug
  | info
  | warn
  deriving DecidableEq, Repr

def Level.name : Level → String
  | .trace => "TRACE"
  | .debug => "DEBUG"
  | .info => "INFO"
  | .warn => "WARN"

structure Line where
  level : Level
  text : String
  deriving DecidableEq, Repr

end Log
end Telemetry
