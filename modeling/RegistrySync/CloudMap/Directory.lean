import RegistrySync.Dialogue
import RegistrySync.Failure
import RegistrySync.Json.Decode
import RegistrySync.Mesh.Inference
import RegistrySync.Text.Decimal

/-!
# The AWS Cloud Map directory

Namespaces contain services, and services have instances that are described by attributes. An
instance becomes an endpoint by its IPv4 address, or else by its canonical name; one that has
neither becomes none. An IPv4 attribute that is present but empty hides the canonical name.
-/

namespace RegistrySync.CloudMap

open Json

/-- A namespace or a service, by its identifier and its name. -/
structure Summary where
  id : String := ""
  name : String := ""
deriving DecidableEq

def Summary.ofJson : Decoder Summary := fun t => do
  let fs ← Decode.fields ["Id", "Name"] t
  let id ← fs.withDefault "Id" Decode.text ""
  let name ← fs.withDefault "Name" Decode.text ""
  some { id, name }

/-- One registered instance of a service. -/
structure Instance where
  id : String := ""
  namespaceName : String := ""
  service : String := ""
  attributes : Table String := .empty
deriving DecidableEq

namespace Instance

def ipv4Key : String := "AWS_INSTANCE_IPV4"

def cnameKey : String := "AWS_INSTANCE_CNAME"

def portKey : String := "AWS_INSTANCE_PORT"

def ofJson : Decoder Instance := fun t => do
  let fs ← Decode.fields ["InstanceId", "NamespaceName", "ServiceName", "Attributes"] t
  let id ← fs.withDefault "InstanceId" Decode.text ""
  let namespaceName ← fs.withDefault "NamespaceName" Decode.text ""
  let service ← fs.withDefault "ServiceName" Decode.text ""
  let attributes ← fs.withDefault "Attributes" (Decode.table Decode.text) .empty
  some { id, namespaceName, service, attributes }

/-- Where an instance is reached. -/
def address? (i : Instance) : Option String :=
  ((i.attributes.find? ipv4Key).or (i.attributes.find? cnameKey)).filter (· ≠ "")

/-- The port an instance gives, when it is a number. -/
def port? (i : Instance) : Option Int :=
  (i.attributes.find? portKey).bind fun text => (Text.Decimal.readInt64 text).toOption

/-- The endpoint an instance stands for. -/
def endpoint? (i : Instance) : Option Endpoint :=
  i.address?.map fun address =>
    match i.port? with
    | some port => .ofPort address port
    | none => .web address

/-- An instance that is only known by a canonical name. -/
def ofCname (name : String) : Instance := { attributes := Table.empty.insert cnameKey name }

end Instance

/-- The endpoints of the instances that have one, in order. -/
def endpoints (instances : List Instance) : List Endpoint := instances.filterMap Instance.endpoint?

namespace Directory

/-- The questions a directory answers. -/
inductive Call where
  | namespaces
  /-- The services of the namespace with this identifier. -/
  | services (namespaceId : String)
  /-- The instances of a service, both given by name. -/
  | instances (namespaceName service : String)

@[reducible]
def Call.Reply : Call → Type
  | .namespaces => Except Failure (List Summary)
  | .services _ => Except Failure (List Summary)
  | .instances .. => Except Failure (List Instance)

def call (c : Call) : Dialogue Call.Reply c.Reply := .ask c .done

end Directory

end RegistrySync.CloudMap
