import RegistrySync.Failure
import RegistrySync.Json.Decode

/-!
# Settings

Which registries to follow and how to reconcile them. `Settings.check` accepts settings that name at
least one backend, each acceptable by itself and of a kind of its own, and acceptable settings of
the reconciler; the first fault found is reported. The faults are causes, and
`SettingsFault.message` words them.
-/

namespace RegistrySync

/-- The settings of one registry. Intervals and waits are in seconds. -/
inductive BackendSettings where
  | consul (endpoint : String) (namespaceName : Option String) (tickInterval wait : UInt64)
  | cloudMap (region accessKeyId secretAccessKey : Option String) (interval : UInt64)
  /-- A registry of a kind added by the embedding program, with settings of its own. -/
  | custom (factory : String) (config : Json.Value)

/-- The settings of the reconciler. -/
structure CycleSettings where
  /-- Seconds between two cycles. -/
  interval : UInt64 := 5
  /-- The namespace objects are written to. -/
  namespaceName : String := "default"
  /-- How many events wait for their reader before new ones are dropped. -/
  eventCapacity : UInt64 := 1000
deriving DecidableEq

structure Settings where
  backends : List BackendSettings := []
  cycle : CycleSettings := {}

/-- Why settings are not acceptable. -/
inductive SettingsFault where
  | noBackends
  | repeatedBackend (kind : String)
  | consulEndpointMissing
  | consulTickZero
  | keyWithoutSecret
  | cloudMapIntervalZero
  | factoryMissing
  | customConfigNull
  | cycleIntervalZero
  | namespaceMissing
  | eventCapacityZero
deriving DecidableEq

namespace SettingsFault

def message : SettingsFault → String
  | noBackends => "No registry backends configured"
  | repeatedBackend kind => "Registry backend '" ++ kind ++ "' configured more than once"
  | consulEndpointMissing => "Consul endpoint not specified"
  | consulTickZero => "Consul tick interval must be > 0"
  | keyWithoutSecret => "Cloud Map access key id and secret must be set together"
  | cloudMapIntervalZero => "Cloud Map interval must be > 0"
  | factoryMissing => "Custom backend factory cannot be empty"
  | customConfigNull => "Custom backend config cannot be null"
  | cycleIntervalZero => "Synchronizer interval must be > 0"
  | namespaceMissing => "Synchronizer namespace cannot be empty"
  | eventCapacityZero => "Event channel capacity must be > 0"

def failure (f : SettingsFault) : Failure := .configuration f.message

end SettingsFault

namespace BackendSettings

/-- A Consul agent with the usual intervals. -/
def ofConsul (endpoint : String) : BackendSettings := .consul endpoint none 10 5

/-- The kind of registry. -/
def kind : BackendSettings → String
  | consul .. => "consul"
  | cloudMap .. => "cloudmap"
  | custom factory _ => factory

/-- The first fault of these settings, if they have one. -/
def check : BackendSettings → Except SettingsFault Unit
  | consul endpoint _ tickInterval _ => do
    demand (endpoint ≠ "") .consulEndpointMissing
    demand (tickInterval ≠ 0) .consulTickZero
  | cloudMap _ accessKeyId secretAccessKey interval => do
    demand (accessKeyId.isSome == secretAccessKey.isSome) .keyWithoutSecret
    demand (interval ≠ 0) .cloudMapIntervalZero
  | custom factory config => do
    demand (factory ≠ "") .factoryMissing
    demand (!config.isNull) .customConfigNull

/-- Check backends in turn, where `seen` lists the kinds of those before. -/
def checkAll (seen : List String) : List BackendSettings → Except SettingsFault Unit
  | [] => .ok ()
  | b :: bs => do
    b.check
    demand (!seen.contains b.kind) (.repeatedBackend b.kind)
    checkAll (b.kind :: seen) bs

end BackendSettings

namespace CycleSettings

def check (c : CycleSettings) : Except SettingsFault Unit := do
  demand (c.interval ≠ 0) .cycleIntervalZero
  demand (c.namespaceName ≠ "") .namespaceMissing
  demand (c.eventCapacity ≠ 0) .eventCapacityZero

end CycleSettings

namespace Settings

def check (s : Settings) : Except SettingsFault Unit := do
  demand (!s.backends.isEmpty) .noBackends
  BackendSettings.checkAll [] s.backends
  s.cycle.check

end Settings

end RegistrySync
