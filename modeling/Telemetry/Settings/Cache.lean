import Telemetry.Errors
import Telemetry.Json.Reader
import Telemetry.Time.Duration

/-!
# Cache settings

The two ages at which a snapshot counts as stale, and how long a load may take.
Durations are saved in whole milliseconds.
-/
set_option autoImplicit false
namespace Telemetry

structure CacheSettings where
  /-- Age from which reading the whole catalog reloads it. -/
  invalidateAfter : Duration
  /-- Age from which looking up an absent key reloads the catalog. -/
  retryAfter : Duration
  /-- How long a caller waits for a load; without it the caller loads itself. -/
  loadTimeout : Option Duration
  deriving DecidableEq, Repr

namespace CacheSettings

def standard : CacheSettings :=
  ⟨Duration.ofMillis 3600000, Duration.ofMillis 60000, some (Duration.ofMillis 30000)⟩

def validate (s : CacheSettings) : Except SettingsError Unit :=
  match s.loadTimeout with
  | some timeout =>
    if timeout.isZero then .error (.invalid "load_timeout must be positive") else .ok ()
  | none => .ok ()

def warnings (s : CacheSettings) : List Log.Line :=
  match s.validate with
  | .error _ => []
  | .ok () =>
    if s.invalidateAfter < s.retryAfter then
      [⟨.warn, "retry_after (" ++ s.retryAfter.text ++ ") exceeds invalidate_after ("
        ++ s.invalidateAfter.text ++ "); misses will never trigger an early reload"⟩]
    else []

def fields : List (List String) := [["invalidate_after_ms"], ["retry_after_ms"], ["load_timeout_ms"]]

def millis? (j : Json) : Option Duration :=
  (Json.integer? 0 18446744073709551615 j).map fun i => Duration.ofMillis (UInt64.ofNat i.toNat)

/-- Absent fields keep their standard values; a timeout of `null` is none. -/
def ofJson? (j : Json) : Option CacheSettings := do
  match ← Json.slots? fields j with
  | [invalidate, retry, timeout] =>
    let invalidateAfter ← Json.withDefault? standard.invalidateAfter millis? invalidate
    let retryAfter ← Json.withDefault? standard.retryAfter millis? retry
    let loadTimeout ← Json.withDefault? standard.loadTimeout (Json.optional? millis?) timeout
    some ⟨invalidateAfter, retryAfter, loadTimeout⟩
  | _ => none

def savedMillis (d : Duration) : Json := Json.int d.savedMillis.toNat

def toJson (s : CacheSettings) : Json :=
  Json.record [
    ("invalidate_after_ms", savedMillis s.invalidateAfter),
    ("retry_after_ms", savedMillis s.retryAfter),
    ("load_timeout_ms", (s.loadTimeout.map savedMillis).getD .null)]

def debugText (s : CacheSettings) : String :=
  let timeout := match s.loadTimeout with
    | some t => "Some(" ++ t.text ++ ")"
    | none => "None"
  "CacheConfig \x7b invalidate_after: " ++ s.invalidateAfter.text ++ ", retry_after: "
    ++ s.retryAfter.text ++ ", load_timeout: " ++ timeout ++ " \x7d"

end CacheSettings
end Telemetry
