import RegistrySync.Reconcile.ObjectStore
import RegistrySync.Settings
import RegistrySync.Text.Blank
import RegistrySync.Text.Decimal

/-!
# The daemon's environment

The daemon follows one Consul agent and is set up by variables of its environment.
`Environment.read` reads them, with a default for each that is not set; a number may have blanks
around it. `check` tells the first fault of what was read, in the order in which a person would fill
in the variables.
-/

namespace RegistrySync.Daemon

/-- How much the daemon logs. -/
inductive LogLevel where
  | trace
  | debug
  | info
  | warn
  | error
deriving DecidableEq

namespace LogLevel

def name : LogLevel → String
  | trace => "TRACE"
  | debug => "DEBUG"
  | info => "INFO"
  | warn => "WARN"
  | error => "ERROR"

/-- The levels by the words that select them. -/
def words : List (String × LogLevel) :=
  [("trace", trace), ("debug", debug), ("info", info), ("warn", warn), ("error", error)]

/-- The level a word selects, in small or capital letters. -/
def ofText? (text : String) : Option LogLevel :=
  words.lookup (String.ofList (text.toList.map Char.toLower))

end LogLevel

/-- What the environment says. -/
structure Environment where
  endpoint : String
  consulNamespace : Option String
  tickInterval : UInt64
  wait : UInt64
  namespaceName : String
  syncInterval : UInt64
  storeKind : String
  logLevel : String
deriving DecidableEq

/-- Why the environment cannot be used. -/
inductive EnvironmentFault where
  | notNumber (name value : String) (fault : Text.Decimal.Fault)
  | endpointMissing
  | scheme (endpoint : String)
  | storeKind (kind : String)
  | namespaceMissing
  | syncInterval (seconds : UInt64)
  | wait (seconds : UInt64)
  | logLevel (text : String)
  | settings (fault : SettingsFault)
deriving DecidableEq

namespace EnvironmentFault

def writeSeconds (n : UInt64) : String := Text.Decimal.write n.toNat

def message : EnvironmentFault → String
  | notNumber name value fault =>
    name ++ " must be a number. Got: " ++ value ++ ": " ++ fault.message
  | endpointMissing => "MESHSYNC_CONSUL_ENDPOINT is required. " ++
      "Set it via: export MESHSYNC_CONSUL_ENDPOINT=http://127.0.0.1:8500"
  | scheme endpoint => "MESHSYNC_CONSUL_ENDPOINT must use HTTP or HTTPS scheme. Got: " ++ endpoint
  | storeKind kind => "MESHSYNC_CONFIG_STORE '" ++ kind ++
      "' is not supported. Supported stores: memory"
  | namespaceMissing => "MESHSYNC_NAMESPACE cannot be empty"
  | syncInterval seconds =>
    "MESHSYNC_SYNC_INTERVAL must be between 1 and 3600 seconds. Got: " ++ writeSeconds seconds
  | wait seconds =>
    "MESHSYNC_CONSUL_WAIT must be between 1 and 600 seconds. Got: " ++ writeSeconds seconds
  | logLevel text => "MESHSYNC_LOG_LEVEL '" ++ text ++
      "' is not valid. Valid levels: trace, debug, info, warn, error"
  | settings fault => "invalid backend configuration: " ++ fault.failure.message

end EnvironmentFault

namespace Environment

/-- The variables that the daemon reads. -/
def names : List String := [
  "MESHSYNC_CONSUL_ENDPOINT", "MESHSYNC_CONSUL_NAMESPACE", "MESHSYNC_CONSUL_TICK_INTERVAL",
  "MESHSYNC_CONSUL_WAIT", "MESHSYNC_NAMESPACE", "MESHSYNC_SYNC_INTERVAL",
  "MESHSYNC_CONFIG_STORE", "MESHSYNC_LOG_LEVEL"]

/-- The number in a variable, or the default when it is not set. -/
def readSeconds (lookup : String → Option String) (name : String) (default : UInt64) :
    Except EnvironmentFault UInt64 :=
  match lookup name with
  | none => .ok default
  | some value =>
    match Text.Decimal.readUInt64 (Text.trim value) with
    | .ok n => .ok n
    | .error fault => .error (.notNumber name value fault)

/-- Read the variables. -/
def read (lookup : String → Option String) : Except EnvironmentFault Environment := do
  let tickInterval ← readSeconds lookup "MESHSYNC_CONSUL_TICK_INTERVAL" 10
  let wait ← readSeconds lookup "MESHSYNC_CONSUL_WAIT" 5
  let syncInterval ← readSeconds lookup "MESHSYNC_SYNC_INTERVAL" 5
  return {
    endpoint := (lookup "MESHSYNC_CONSUL_ENDPOINT").getD ""
    consulNamespace := (lookup "MESHSYNC_CONSUL_NAMESPACE").filter (· ≠ "")
    tickInterval, wait
    namespaceName := (lookup "MESHSYNC_NAMESPACE").getD "default"
    syncInterval
    storeKind := (lookup "MESHSYNC_CONFIG_STORE").getD ObjectStore.kindName
    logLevel := (lookup "MESHSYNC_LOG_LEVEL").getD "info" }

/-- The settings that the environment amounts to. -/
def settings (e : Environment) : Settings where
  backends := [.consul e.endpoint e.consulNamespace e.tickInterval e.wait]
  cycle := { interval := e.syncInterval, namespaceName := e.namespaceName }

/-- The endpoint is written as one of HTTP. -/
def hasHttpScheme (e : Environment) : Bool :=
  "http://".toList.isPrefixOf e.endpoint.toList || "https://".toList.isPrefixOf e.endpoint.toList

def level (e : Environment) : Except EnvironmentFault LogLevel :=
  match LogLevel.ofText? e.logLevel with
  | some level => .ok level
  | none => .error (.logLevel e.logLevel)

/-- The first fault of the environment, if it has one. -/
def check (e : Environment) : Except EnvironmentFault Unit := do
  demand (e.endpoint ≠ "") .endpointMissing
  demand e.hasHttpScheme (.scheme e.endpoint)
  demand (e.storeKind == ObjectStore.kindName) (.storeKind e.storeKind)
  demand (e.namespaceName ≠ "") .namespaceMissing
  demand (1 ≤ e.syncInterval && e.syncInterval ≤ 3600) (.syncInterval e.syncInterval)
  demand (1 ≤ e.wait && e.wait ≤ 600) (.wait e.wait)
  let _ ← e.level
  match e.settings.check with
  | .ok () => .ok ()
  | .error fault => .error (.settings fault)

end Environment

end RegistrySync.Daemon
