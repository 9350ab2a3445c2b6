import RegistrySync.Dialogue
import RegistrySync.Failure
import RegistrySync.Json.Decode
import RegistrySync.Json.Parser
import RegistrySync.Mesh.Inference

/-!
# The Consul catalog

What the catalog of a Consul agent tells, the two questions it answers, and how an instance becomes
an endpoint. An instance without an address has none.
-/

namespace RegistrySync.Consul

open Json

/-- One instance of a service. -/
structure Instance where
  id : String := ""
  service : String := ""
  address : String := ""
  port : Int := 0
  namespaceName : Option String := none
deriving DecidableEq

namespace Instance

def ofJson : Decoder Instance := fun t => do
  let fs ← Decode.fields ["ServiceID", "ServiceName", "Address", "ServicePort", "Namespace"] t
  let id ← fs.withDefault "ServiceID" Decode.text ""
  let service ← fs.withDefault "ServiceName" Decode.text ""
  let address ← fs.withDefault "Address" Decode.text ""
  let port ← fs.withDefault "ServicePort" Decode.int64 0
  let namespaceName ← fs.withDefault "Namespace" (Decode.option Decode.text) none
  some { id, service, address, port, namespaceName }

/-- The endpoint an instance stands for. -/
def endpoint? (i : Instance) : Option Endpoint :=
  if i.address = "" then none
  else if 0 < i.port then some (.ofPort i.address i.port)
  else some (.web i.address)

end Instance

namespace Catalog

/-- The questions a catalog answers, each restricted to an enterprise namespace if one is given. -/
inductive Call where
  /-- The service names, once the index of the catalog is another than this one. -/
  | list (index : UInt64) (namespaceName : Option String)
  /-- All instances of a service. -/
  | instances (service : String) (namespaceName : Option String)

@[reducible]
def Call.Reply : Call → Type
  | .list .. => Except Failure (List String × UInt64)
  | .instances .. => Except Failure (List Instance)

def call (c : Call) : Dialogue Call.Reply c.Reply := .ask c .done

/-- The service names in the body of an answer, sorted. -/
def readNames (body : String) : Except Failure (List String) :=
  match Tree.parse body >>= Decode.table (Decode.list Decode.text) with
  | some services => .ok services.keys
  | none => .error .json

/-- The instances in the body of an answer. -/
def readInstances (body : String) : Except Failure (List Instance) :=
  match Tree.parse body >>= Decode.list Instance.ofJson with
  | some instances => .ok instances
  | none => .error .json

end Catalog

end RegistrySync.Consul
