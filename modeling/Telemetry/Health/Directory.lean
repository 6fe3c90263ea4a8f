import Telemetry.Catalog.File
import Telemetry.Catalog.Registry
import Telemetry.Health.Report
import Telemetry.Settings.Basic

/-!
# Health of registered sources

A directory finds a source by its id in one cache and the type of the source in
another.  Where the type is unknown there, a registry of kinds stands in.
-/
set_option autoImplicit false
namespace Telemetry

structure Directory where
  types : Cache String SourceType
  sources : Cache String Source
  /-- Kinds that stand in for types that are not found. -/
  fallback : Registry
  monitor : MonitorSettings

namespace Directory

def standard (settings : CacheSettings) (typesLabel sourcesLabel : String) : Directory where
  types := Cache.byId "source-types" settings typesLabel SourceType.id
  sources := Cache.byId "sources" settings sourcesLabel Source.id
  fallback := Registry.withDefaults.registry
  monitor := MonitorSettings.standard

structure State where
  types : Cache.State String SourceType
  sources : Cache.State String Source

def State.empty (now : Nat) : State := ⟨Cache.State.empty now, Cache.State.empty now⟩

inductive Fault where
  | cache (error : CacheError)
  | catalog (error : CatalogError)
  deriving DecidableEq, Repr

def specOf (d : Directory) (typeId : String) : Except CacheError SourceType → Except Fault SourceSpec
  | .ok type => .ok type.spec
  | .error (.notFound _) => (d.fallback.spec typeId).mapError .catalog
  | .error e => .error (.cache e)

/-- The health of a source at a time by the counts of its samples; nothing if no answer comes. -/
def health (d : Directory) (typesSupply : Cache.Supply SourceType) (sourcesSupply : Cache.Supply Source)
    (m : State) (sourceId : String) (now : Instant) (counts : Counts) :
    Option (Except Fault SourceReport) × State :=
  let (source, sources) := d.sources.lookUp sourcesSupply m.sources sourceId
  let m := { m with sources := sources }
  match source with
  | none => (none, m)
  | some (.error e) => (some (.error (.cache e)), m)
  | some (.ok source) =>
    let (type, types) := d.types.lookUp typesSupply m.types source.typeId
    let m := { m with types := types }
    match type with
    | none => (none, m)
    | some type =>
      let report := (d.specOf source.typeId type).map fun spec =>
        Completeness.evaluate source.id spec (d.monitor.windowAt now) counts
      (some report, m)

end Directory
end Telemetry
