import RegistrySync.CloudMap.Access
import RegistrySync.CloudMap.Collect
import RegistrySync.Consul.Agent
import RegistrySync.Consul.Poller
import RegistrySync.Settings

/-!
# The workshop: watchers made from settings

A watcher is a backend together with where it reads from and how often. The workshop knows a maker
for each kind of backend; embedding programs add makers for kinds of their own. A maker refuses
settings that are not of its kind.

Reading a Cloud Map directory takes a client that the embedding program builds for a region and a
key pair. Building one is a call (`ClientCall`), so that it is visible what is asked for and how
often.
-/

namespace RegistrySync

/-- Where a watcher reads. -/
inductive Source where
  | consul (agent : Consul.Agent) (namespaceName : Option String)
  | cloudMap (region : String) (keys : Option CloudMap.KeyPair)
  /-- A source only the embedding program knows. -/
  | custom

/-- A backend, where it reads, and the seconds between its polls. -/
structure Watcher where
  backend : Backend
  interval : UInt64
  source : Source

/-- The call for a client of a Cloud Map directory. -/
inductive ClientCall where
  | build (region : String) (keys : Option CloudMap.KeyPair)

/-- The client is built, or why not. -/
@[reducible]
def ClientCall.Reply : ClientCall → Type
  | .build .. => Except Failure Unit

/-- Makes watchers from settings. -/
abbrev Maker := BackendSettings → Dialogue ClientCall.Reply (Except Refusal Watcher)

namespace Maker

def refuse (message : String) : Except Refusal Watcher :=
  .error (.failure (.configuration message))

/-- Makes watchers of Consul agents. -/
def consul : Maker
  | .consul endpoint namespaceName tickInterval wait =>
    .done ((Consul.Agent.connect endpoint wait).map fun agent =>
      ⟨Consul.backend, tickInterval, .consul agent namespaceName⟩)
  | _ => .done (refuse "Invalid config for Consul watcher")

/-- Makes watchers of Cloud Map directories, given the region that the environment names. -/
def cloudMap (environmentRegion : Option String) : Maker
  | .cloudMap region accessKeyId secretAccessKey interval =>
    match CloudMap.region region environmentRegion with
    | .error f => .done (.error (.failure f))
    | .ok region =>
      let keys := CloudMap.KeyPair.ofSettings? accessKeyId secretAccessKey
      .ask (.build region keys) fun reply => .done <|
        match reply with
        | .error f => .error (.failure f)
        | .ok () => .ok ⟨CloudMap.backend, interval, .cloudMap region keys⟩
  | _ => .done (refuse "Invalid config for Cloud Map watcher")

end Maker

/-- Makers by the kind of backend they are for. -/
structure Workshop where
  makers : Table Maker := .empty

namespace Workshop

/-- Make `maker` responsible for a kind. -/
def register (w : Workshop) (kind : String) (maker : Maker) : Workshop where
  makers := w.makers.insert kind maker

/-- The kinds watchers can be made for, sorted. -/
def kinds (w : Workshop) : List String := w.makers.keys

def knows (w : Workshop) (kind : String) : Bool := w.makers.contains kind

/-- Make a watcher. -/
def make (w : Workshop) : Maker := fun settings =>
  match w.makers.find? settings.kind with
  | some maker => maker settings
  | none => .done (Maker.refuse ("Unknown backend type: " ++ settings.kind))

end Workshop

end RegistrySync
