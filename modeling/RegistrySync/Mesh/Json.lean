import RegistrySync.Json.Decode
import RegistrySync.Mesh.ServiceEntry

/-!
# JSON forms of the mesh model

For every type of the model a way to write it (`toJson`) and a way to read it (`ofJson`). A record
is written as an object of its fields, without a resource version that is not set. It is read by the
names of its fields, where only the fields that have no natural value need to be given.
-/

namespace RegistrySync

open Json

namespace Endpoint

def toJson (e : Endpoint) : Value :=
  .object [
    ("address", .string e.address),
    ("ports", .object (e.ports.map fun n => Value.ofNat n.toNat).entries)]

def ofJson : Decoder Endpoint := fun t => do
  let fs ← Decode.fields ["address", "ports"] t
  let address ← fs.required "address" Decode.text
  let ports ← fs.withDefault "ports" (Decode.table Decode.uint32) .empty
  some { address, ports }

end Endpoint

namespace Membership

def toJson (m : Membership) : Value :=
  .object (m.map (Value.ofList Endpoint.toJson)).entries

def ofJson : Decoder Membership := Decode.table (Decode.list Endpoint.ofJson)

end Membership

namespace Resolution

/-- The words for the two kinds of resolution. -/
def words : List (String × Resolution) := [("DNS", .dns), ("STATIC", .static)]

def toJson : Resolution → Value
  | .dns => .string "DNS"
  | .static => .string "STATIC"

def ofJson : Decoder Resolution := Decode.word words

end Resolution

namespace Location

/-- The words for the two kinds of location. -/
def words : List (String × Location) :=
  [("MESH_EXTERNAL", .meshExternal), ("MESH_INTERNAL", .meshInternal)]

def toJson : Location → Value
  | .meshExternal => .string "MESH_EXTERNAL"
  | .meshInternal => .string "MESH_INTERNAL"

def ofJson : Decoder Location := Decode.word words

end Location

namespace ServicePort

def toJson (p : ServicePort) : Value :=
  .object [
    ("number", Value.ofNat p.number.toNat),
    ("name", .string p.name),
    ("protocol", .string p.protocol)]

def ofJson : Decoder ServicePort := fun t => do
  let fs ← Decode.fields ["number", "name", "protocol"] t
  let number ← fs.required "number" Decode.uint32
  let name ← fs.required "name" Decode.text
  let protocol ← fs.required "protocol" Decode.text
  some { number, name, protocol }

end ServicePort

namespace ServiceEntry

namespace Spec

def toJson (s : Spec) : Value :=
  .object [
    ("hosts", Value.ofList Value.string s.hosts),
    ("location", s.location.toJson),
    ("resolution", s.resolution.toJson),
    ("ports", Value.ofList ServicePort.toJson s.ports),
    ("endpoints", Value.ofList Endpoint.toJson s.endpoints)]

def ofJson : Decoder Spec := fun t => do
  let fs ← Decode.fields ["hosts", "location", "resolution", "ports", "endpoints"] t
  let hosts ← fs.required "hosts" (Decode.list Decode.text)
  let location ← fs.withDefault "location" Location.ofJson .meshExternal
  let resolution ← fs.required "resolution" Resolution.ofJson
  let ports ← fs.withDefault "ports" (Decode.list ServicePort.ofJson) []
  let endpoints ← fs.withDefault "endpoints" (Decode.list Endpoint.ofJson) []
  some { hosts, location, resolution, ports, endpoints }

end Spec

namespace Metadata

/-- A map from text to text. -/
def textsToJson (t : Table String) : Value := .object (t.map Value.string).entries

def toJson (m : Metadata) : Value :=
  .object (
    [("name", .string m.name), ("namespace", .string m.namespaceName)] ++
    (m.resourceVersion.map fun v => ("resource_version", Value.string v)).toList ++
    [("labels", textsToJson m.labels), ("annotations", textsToJson m.annotations)])

def ofJson : Decoder Metadata := fun t => do
  let fs ← Decode.fields ["name", "namespace", "resource_version", "labels", "annotations"] t
  let name ← fs.required "name" Decode.text
  let namespaceName ← fs.withDefault "namespace" Decode.text ""
  let resourceVersion ← fs.withDefault "resource_version" (Decode.option Decode.text) none
  let labels ← fs.withDefault "labels" (Decode.table Decode.text) .empty
  let annotations ← fs.withDefault "annotations" (Decode.table Decode.text) .empty
  some { name, namespaceName, resourceVersion, labels, annotations }

end Metadata

def toJson (e : ServiceEntry) : Value :=
  .object [("metadata", e.metadata.toJson), ("spec", e.spec.toJson)]

def ofJson : Decoder ServiceEntry := fun t => do
  let fs ← Decode.fields ["metadata", "spec"] t
  let metadata ← fs.required "metadata" Metadata.ofJson
  let spec ← fs.required "spec" Spec.ofJson
  some { metadata, spec }

end ServiceEntry

end RegistrySync
