import Telemetry.Json.Parser
import Telemetry.Settings.Cache
import Telemetry.Settings.Window
import Telemetry.Text.Basic
import Telemetry.Time.Span

/-!
# Settings

The settings of cache, range queries and monitor in one document.  Every field
may be left out.  Settings are validated after they are read.  The monitor's are
the length of the trailing window over which health is evaluated, and the grid
on which it ends.
-/
set_option autoImplicit false
namespace Telemetry

structure MonitorSettings where
  windowLength : Duration
  grid : Duration
  deriving DecidableEq, Repr

namespace MonitorSettings

def standard : MonitorSettings := ⟨Duration.ofSeconds 60, Duration.ofSeconds 10⟩

def validate (s : MonitorSettings) : Except SettingsError Unit :=
  if s.windowLength.isZero then .error (.invalid "window_length must be positive") else .ok ()

def windowAt (s : MonitorSettings) (now : Instant) : Span :=
  Span.trailing now (Elapsed.ofDuration s.windowLength) (Elapsed.ofDuration s.grid)

def fields : List (List String) := [["window_length_ms"], ["grid_ms"]]

def ofJson? (j : Json) : Option MonitorSettings := do
  match ← Json.slots? fields j with
  | [length, grid] =>
    let windowLength ← Json.withDefault? standard.windowLength CacheSettings.millis? length
    let grid ← Json.withDefault? standard.grid CacheSettings.millis? grid
    some ⟨windowLength, grid⟩
  | _ => none

def toJson (s : MonitorSettings) : Json :=
  Json.record [
    ("window_length_ms", CacheSettings.savedMillis s.windowLength),
    ("grid_ms", CacheSettings.savedMillis s.grid)]

end MonitorSettings

structure Settings where
  cache : CacheSettings
  window : WindowSettings
  monitor : MonitorSettings
  deriving DecidableEq, Repr

namespace Settings

def standard : Settings := ⟨.standard, .standard, .standard⟩

/-- The first rejection: cache before window before monitor. -/
def validate (s : Settings) : Except SettingsError Unit := do
  s.cache.validate
  s.window.validate
  s.monitor.validate

def warnings (s : Settings) : List Log.Line := s.cache.warnings

def fields : List (List String) := [["cache"], ["window"], ["monitor"]]

def ofJson? (j : Json) : Option Settings := do
  match ← Json.slots? fields j with
  | [cache, window, monitor] =>
    let cache ← Json.withDefault? CacheSettings.standard CacheSettings.ofJson? cache
    let window ← Json.withDefault? WindowSettings.standard WindowSettings.ofJson? window
    let monitor ← Json.withDefault? MonitorSettings.standard MonitorSettings.ofJson? monitor
    some ⟨cache, window, monitor⟩
  | _ => none

def toJson (s : Settings) : Json :=
  Json.record [
    ("cache", s.cache.toJson), ("window", s.window.toJson), ("monitor", s.monitor.toJson)]

def save (s : Settings) : String := s.toJson.render

/-- The settings in a text, not yet validated. -/
def parse? (text : String) : Option Settings := (Json.parse? text).bind ofJson?

def load (text : String) : Except SettingsError Settings :=
  match parse? text with
  | none => .error .malformed
  | some s => s.validate.map fun _ => s

def loadWarnings (text : String) : List Log.Line :=
  match parse? text with
  | none => []
  | some s => s.warnings

def loadFile (contents : Option (List UInt8)) : Except SettingsError Settings :=
  match contents.bind Text.decodeUtf8? with
  | none => .error .unreadable
  | some text => load text

end Settings
end Telemetry
