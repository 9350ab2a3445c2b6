import RegistrySync.Consul.Catalog
import RegistrySync.Net.Http
import RegistrySync.Text.Blank

/-!
# Consul agents over HTTP

How the questions to a catalog are put to the HTTP interface of a Consul agent and how its answers
are read. A listing waits at the agent, for as long as the `wait` of the agent says, until the index
of the catalog is another than the one shown; a request therefore may take ten seconds longer than
that.

An answer counts only if its status tells success, its index is a number of 64 bits (for a listing),
its body arrives whole, and the body is the JSON that is expected, checked in this order.
-/

namespace RegistrySync.Consul

open Net

/-- The HTTP interface of an agent. -/
structure Agent where
  base : Url
  /-- Seconds a listing may wait. -/
  wait : UInt64

namespace Agent

/-- How much longer than its wait a request may take, in seconds. -/
def patience : Nat := 10

/-- The agent at an endpoint. -/
def connect (endpoint : String) (wait : UInt64) : Except Refusal Agent :=
  if endpoint = "" then .error (.failure (.configuration "Consul endpoint not specified"))
  else match Url.parse endpoint with
    | .error f =>
      .error (.failure (.configuration
        ("error parsing endpoint " ++ endpoint ++ ": " ++ f.message)))
    | .ok base =>
      if !base.isBase then
        .error (.failure (.configuration ("Consul endpoint is not a base URL: " ++ endpoint)))
      else if UInt64.size ≤ wait.toNat + patience then .error .clockOverflow
      else .ok { base, wait }

/-- The URL of a resource of the agent. -/
def url (a : Agent) (segments : List String) : Url := a.base.append segments

def indexHeader : String := "X-Consul-Index"

/-- The parameter that restricts a question to a namespace. -/
def namespaceQuery (namespaceName : Option String) : List (String × String) :=
  ((namespaceName.filter (· ≠ "")).map fun ns => ("ns", ns)).toList

/-- The URL that lists the services. -/
def listUrl (a : Agent) (index : UInt64) (namespaceName : Option String) : Url :=
  (a.url ["v1", "catalog", "services"]).addQuery
    ([("index", Text.Decimal.write index.toNat),
      ("wait", Text.Decimal.write a.wait.toNat ++ "s")] ++ namespaceQuery namespaceName)

/-- The URL that describes a service. -/
def instancesUrl (a : Agent) (service : String) (namespaceName : Option String) : Url :=
  (a.url ["v1", "catalog", "service", service]).addQuery (namespaceQuery namespaceName)

/-- A response that tells success. -/
def accepted (reply : Except String Http.Response) : Except Failure Http.Response :=
  match reply with
  | .error reason => .error (.http ("Request failed: " ++ reason))
  | .ok response =>
    if response.isSuccess then .ok response
    else .error (.backend "consul" ("HTTP error: " ++ Http.statusText response.status))

def isHeaderBlank (c : Char) : Bool := c == ' ' || c == '\t'

/-- The index of the catalog that a response carries. -/
def readIndex (response : Http.Response) : Except Failure UInt64 :=
  let value := (response.header? indexHeader).map fun v =>
    String.ofList (Text.trimBy isHeaderBlank v.toList)
  match value.bind fun v => (Text.Decimal.readUInt64 v).toOption with
  | some index => .ok index
  | none => .error (.backend "consul" ("missing or invalid " ++ indexHeader ++ " header"))

def readBody (response : Http.Response) : Except Failure String :=
  match response.body with
  | .ok body => .ok body
  | .error reason => .error (.http ("Failed to read response: " ++ reason))

/-- The services and the index that an answer to a listing tells. -/
def readList (reply : Except String Http.Response) : Except Failure (List String × UInt64) := do
  let response ← accepted reply
  let index ← readIndex response
  let body ← readBody response
  let names ← Catalog.readNames body
  return (names, index)

/-- The instances that an answer tells. -/
def readInstances (reply : Except String Http.Response) : Except Failure (List Instance) := do
  let response ← accepted reply
  let body ← readBody response
  Catalog.readInstances body

/-- Answer a question to the catalog by asking the agent. -/
def serve (a : Agent) : (c : Catalog.Call) → Dialogue Http.Call.Reply c.Reply
  | .list index ns => (Http.get (a.listUrl index ns)).bind fun r => .done (readList r)
  | .instances service ns => (Http.get (a.instancesUrl service ns)).bind fun r =>
    .done (readInstances r)

end Agent

end RegistrySync.Consul
