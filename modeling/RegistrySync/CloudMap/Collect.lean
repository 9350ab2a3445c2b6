import RegistrySync.CloudMap.Directory
import RegistrySync.Text.Quoted
import RegistrySync.Watch.Poll

/-!
# Collecting a Cloud Map directory

The membership of a whole directory: every service of every namespace is a host, named
`service.namespace`. A service without instances is reached at its own host name. The first call
that fails ends the collection, so a membership is complete or not there at all. Of two services
with one host name the later counts.
-/

namespace RegistrySync.CloudMap

/-- A backend that follows a Cloud Map directory. -/
def backend : Backend := ⟨"cloudmap", "cloudmap-"⟩

/-- A part of a collection; the first failure ends the whole. -/
abbrev Collect := ExceptT Failure (Dialogue Directory.Call.Reply)

/-- A failure of the directory, with what was being asked. -/
def directoryFailure (doing : String) (f : Failure) : Failure :=
  .backend "cloudmap" (doing ++ ": " ++ f.message)

/-- Put a question to the directory. -/
def ask {α : Type} (doing : String) (question : Dialogue Directory.Call.Reply (Except Failure α)) :
    Collect α :=
  ExceptT.mk (question.bind fun reply => .done (reply.mapError (directoryFailure doing)))

/-- The host name of a service in a namespace. -/
def hostName (service space : Summary) : String := service.name ++ "." ++ space.name

/-- The instances that a service is published with. -/
def orCname (host : String) : List Instance → List Instance
  | [] => [.ofCname host]
  | instances => instances

/-- The endpoints of one service. -/
def serviceEndpoints (service space : Summary) : Collect (List Endpoint) := do
  let instances ← ask ("error retrieving instance list for " ++ Text.quoted service.name ++
    " in " ++ Text.quoted space.name) (Directory.call (.instances space.name service.name))
  return endpoints (orCname (hostName service space) instances)

/-- Add the hosts of services of a namespace to a membership. -/
def addServices (space : Summary) : List Summary → Membership → Collect Membership
  | [], members => return members
  | service :: rest, members => do
    let es ← serviceEndpoints service space
    addServices space rest (members.insert (hostName service space) es)

/-- The hosts of one namespace. -/
def namespaceMembers (space : Summary) : Collect Membership := do
  let services ← ask ("error retrieving service list for namespace " ++ Text.quoted space.name)
    (Directory.call (.services space.id))
  addServices space services .empty

/-- Add the hosts of namespaces to a membership. -/
def addNamespaces : List Summary → Membership → Collect Membership
  | [], members => return members
  | space :: rest, members => do
    let hosts ← namespaceMembers space
    addNamespaces rest (members.union hosts)

/-- The membership of the whole directory. -/
def collect : Collect Membership := do
  let spaces ← ask "error retrieving namespace list" (Directory.call .namespaces)
  addNamespaces spaces .empty

/-- Ask the directory once. -/
def poll : Dialogue Directory.Call.Reply Poll := do
  match ← collect.run with
  | .ok members => return .news members
  | .error f =>
    return .failed ("unable to refresh Cloud Map cache, using existing cache: " ++ f.message)

end RegistrySync.CloudMap
