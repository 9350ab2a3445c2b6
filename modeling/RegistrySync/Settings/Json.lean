import RegistrySync.Settings

/-!
# JSON forms of the settings

Backend settings are objects whose member `type` says which kind they are; as an array they begin
with the kind. All their fields are written, `null` for those that are not set.

The kind can stand anywhere among the members, so a reader has to hold the others until it comes to
the kind. That is why everything in backend settings has to be a value that can be held: no half
surrogate pairs, no numbers beyond floating point, and no more than 127 containers around any value,
those that enclose the backend settings included.
-/

namespace RegistrySync

open Json

/-- How deeply a text may nest containers, where it is held. -/
def heldDepth : Nat := 127

namespace BackendSettings

def toJson : BackendSettings → Value
  | consul endpoint namespaceName tickInterval wait => .object [
      ("type", .string "consul"),
      ("endpoint", .string endpoint),
      ("namespace", Value.ofOption Value.string namespaceName),
      ("tick_interval_secs", Value.ofNat tickInterval.toNat),
      ("wait_secs", Value.ofNat wait.toNat)]
  | cloudMap region accessKeyId secretAccessKey interval => .object [
      ("type", .string "cloud_map"),
      ("region", Value.ofOption Value.string region),
      ("access_key_id", Value.ofOption Value.string accessKeyId),
      ("secret_access_key", Value.ofOption Value.string secretAccessKey),
      ("interval_secs", Value.ofNat interval.toNat)]
  | custom factory config => .object [
      ("type", .string "custom"),
      ("factory", .string factory),
      ("config", config)]

def consulOfJson : Decoder BackendSettings := fun t => do
  let fs ← Decode.fields ["endpoint", "namespace", "tick_interval_secs", "wait_secs"] t
  let endpoint ← fs.required "endpoint" Decode.text
  let namespaceName ← fs.withDefault "namespace" (Decode.option Decode.text) none
  let tickInterval ← fs.withDefault "tick_interval_secs" Decode.uint64 10
  let wait ← fs.withDefault "wait_secs" Decode.uint64 5
  some (.consul endpoint namespaceName tickInterval wait)

def cloudMapOfJson : Decoder BackendSettings := fun t => do
  let fs ← Decode.fields ["region", "access_key_id", "secret_access_key", "interval_secs"] t
  let region ← fs.withDefault "region" (Decode.option Decode.text) none
  let accessKeyId ← fs.withDefault "access_key_id" (Decode.option Decode.text) none
  let secretAccessKey ← fs.withDefault "secret_access_key" (Decode.option Decode.text) none
  let interval ← fs.withDefault "interval_secs" Decode.uint64 5
  some (.cloudMap region accessKeyId secretAccessKey interval)

def customOfJson : Decoder BackendSettings := fun t => do
  let fs ← Decode.fields ["factory", "config"] t
  let factory ← fs.required "factory" Decode.text
  let config ← fs.required "config" (Tree.value? heldDepth)
  some (.custom factory config)

/-- The kind of backend settings and what is left of them without it. -/
def splitKind : Tree → Option (String × Tree)
  | .object ms =>
    match ms.partition (·.1 == some "type") with
    | ([(_, .string kind)], rest) => kind.map (·, .object rest)
    | _ => none
  | .array (.string kind :: rest) => kind.map (·, .array rest)
  | _ => none

/-- Read backend settings that `enclosing` containers enclose. -/
def ofJson (enclosing : Nat) : Decoder BackendSettings := fun t => do
  let (kind, rest) ← splitKind t
  if !rest.isHeld (heldDepth - enclosing) then none
  else if kind = "consul" then consulOfJson rest
  else if kind = "cloud_map" then cloudMapOfJson rest
  else if kind = "custom" then customOfJson rest
  else none

end BackendSettings

namespace CycleSettings

def toJson (c : CycleSettings) : Value :=
  .object [
    ("interval_secs", Value.ofNat c.interval.toNat),
    ("namespace", .string c.namespaceName),
    ("event_channel_capacity", Value.ofNat c.eventCapacity.toNat)]

def ofJson : Decoder CycleSettings := fun t => do
  let fs ← Decode.fields ["interval_secs", "namespace", "event_channel_capacity"] t
  let interval ← fs.withDefault "interval_secs" Decode.uint64 5
  let namespaceName ← fs.withDefault "namespace" Decode.text "default"
  let eventCapacity ← fs.withDefault "event_channel_capacity" Decode.uint64 1000
  some { interval, namespaceName, eventCapacity }

end CycleSettings

namespace Settings

def toJson (s : Settings) : Value :=
  .object [
    ("backends", Value.ofList BackendSettings.toJson s.backends),
    ("synchronizer", s.cycle.toJson)]

def ofJson : Decoder Settings := fun t => do
  let fs ← Decode.fields ["backends", "synchronizer"] t
  let backends ← fs.required "backends" (Decode.list (BackendSettings.ofJson 2))
  let cycle ← fs.withDefault "synchronizer" CycleSettings.ofJson {}
  some { backends, cycle }

end Settings

end RegistrySync
