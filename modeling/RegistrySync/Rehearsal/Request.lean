import RegistrySync.Failure

/-!
# Requests to collaborators

The calls that a rehearsal can see: to the control plane, to its cache, to watchers, to a Consul
catalog and to a Cloud Map directory. Each has a kind and is about something, by which rules pick
requests out.
-/

namespace RegistrySync.Rehearsal

inductive RequestKind where
  | get
  | create
  | update
  | delete
  | cacheGet
  | cacheList
  | poll
  | list
  | instances
  | namespaces
  | services
  | discover
deriving DecidableEq

/-- The kinds by their names. -/
def RequestKind.words : List (String × RequestKind) := [
  ("get", .get), ("create", .create), ("update", .update), ("delete", .delete),
  ("cache_get", .cacheGet), ("cache_list", .cacheList), ("poll", .poll), ("list", .list),
  ("instances", .instances), ("namespaces", .namespaces), ("services", .services),
  ("discover", .discover)]

/-- One call with what it says. -/
inductive Request where
  | get (name : String)
  | create (name : String)
  /-- An update shows a version. -/
  | update (name : String) (version : Option String)
  | delete (name : String)
  | cacheGet (name : String)
  | cacheList (scope : String)
  | poll (watcher : String)
  | list (index : UInt64) (namespaceName : Option String)
  | instances (service : String) (namespaceName : Option String)
  | namespaces
  | services (namespaceId : String)
  | discover (namespaceName service : String)
deriving DecidableEq

namespace Request

def kind : Request → RequestKind
  | get _ => .get
  | create _ => .create
  | update .. => .update
  | delete _ => .delete
  | cacheGet _ => .cacheGet
  | cacheList _ => .cacheList
  | poll _ => .poll
  | list .. => .list
  | instances .. => .instances
  | namespaces => .namespaces
  | services _ => .services
  | discover .. => .discover

/-- What a request is about. -/
def subject : Request → String
  | get name | create name | update name _ | delete name | cacheGet name => name
  | cacheList scope => scope
  | poll watcher => watcher
  | list .. | namespaces => ""
  | instances service _ => service
  | services id => id
  | discover space service => space ++ "/" ++ service

end Request

/-- Which requests a rule is for: those of a kind, perhaps only those about one thing. -/
structure Pattern where
  kind : RequestKind
  subject : Option String := none

/-- The pattern picks this request out. -/
def Pattern.picks (p : Pattern) (r : Request) : Bool :=
  p.kind = r.kind && p.subject.all (· == r.subject)

end RegistrySync.Rehearsal
