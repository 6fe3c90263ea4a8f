import Telemetry.Binary64.Shortest
import Telemetry.Errors
import Telemetry.Health.Basic
import Telemetry.Json.Parser
import Telemetry.Text.Basic

/-!
# Catalog records

A source type describes a kind of device and its channels; a source is one
registered device of such a type.  A valid source type has an id that is not
blank, channels with distinct ids, and finite positive frequencies.  A source
type may stand in a document of its own, and some are known without any.
-/
set_option autoImplicit false
namespace Telemetry

structure SourceType where
  id : String
  name : String
  description : Option String
  channels : List Channel
  deriving DecidableEq, Repr

namespace SourceType

def spec (r : SourceType) : SourceSpec := ⟨r.id, r.channels⟩

/-- The first channel that repeats an earlier id or has a frequency that is not finite and positive;
a repeated id is reported before a bad frequency. -/
def checkChannels (kind : String) (seen : List String) : List Channel → Except CatalogError Unit
  | [] => .ok ()
  | c :: rest =>
    if c.id ∈ seen then .error (.duplicateChannel kind c.id)
    else if c.frequency.isFinite && (Binary64.zero false).lt c.frequency then
      checkChannels kind (c.id :: seen) rest
    else .error (.badFrequency kind c.id c.frequency.text)

def validate (r : SourceType) : Except CatalogError Unit :=
  if Text.blank r.id then .error .emptyId else checkChannels r.id [] r.channels

/-- Description and channels may be missing, and the description may be `null`. -/
def ofJson? (j : Json) : Option SourceType := do
  match ← Json.slots? [["id"], ["name"], ["description"], ["channels"]] j with
  | [id, name, description, channels] =>
    let id ← Json.required? Json.string? id
    let name ← Json.required? Json.string? name
    let description ← Json.withDefault? none (Json.optional? Json.string?) description
    let channels ← Json.withDefault? [] (Json.list? Channel.ofJson?) channels
    some ⟨id, name, description, channels⟩
  | _ => none

end SourceType

structure Source where
  id : String
  name : String
  typeId : String
  deriving DecidableEq, Repr

namespace Source

/-- The type may be given under either of two names. -/
def ofJson? (j : Json) : Option Source := do
  match ← Json.slots? [["id"], ["name"], ["source_type_id", "type"]] j with
  | [id, name, typeId] =>
    let id ← Json.required? Json.string? id
    let name ← Json.required? Json.string? name
    let typeId ← Json.required? Json.string? typeId
    some ⟨id, name, typeId⟩
  | _ => none

end Source

/-! ## Source kinds -/

namespace Kind

def parse (origin text : String) : Except CatalogError SourceType :=
  match (Json.parse? text).bind SourceType.ofJson? with
  | none => .error (.malformed origin)
  | some r => r.validate.map fun _ => r

def channel (id : String) (numerator denominator : Nat) (unit : String) : Channel :=
  ⟨id, Binary64.ofNat numerator / Binary64.ofNat denominator, unit⟩

def airQuality : SourceType :=
  ⟨"air_quality", "Air quality monitor", none,
    [channel "pm2_5" 2 10 "ug/m3", channel "pm10" 2 10 "ug/m3", channel "no2" 1 10 "ppb",
      channel "o3" 1 10 "ppb", channel "co2" 1 1 "ppm"]⟩

def waterLevel : SourceType :=
  ⟨"water_level", "River gauge", some "Radar level gauge with water temperature sensor",
    [channel "level" 166667 10000000 "m", channel "water_temperature" 166667 10000000 "celsius",
      channel "battery" 33333 10000000 "V"]⟩

def weatherStation : SourceType :=
  ⟨"weather_station", "Weather station",
    some "Automatic weather station with mast-mounted wind sensors",
    [channel "temperature" 1 1 "celsius", channel "humidity" 1 1 "percent",
      channel "pressure" 1 1 "hPa", channel "wind_speed" 4 1 "m/s",
      channel "wind_direction" 4 1 "degree", channel "rain" 1 10 "mm",
      channel "irradiance" 5 10 "W/m2"]⟩

def defaults : List SourceType := [airQuality, waterLevel, weatherStation]

end Kind
end Telemetry
