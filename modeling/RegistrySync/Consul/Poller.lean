import RegistrySync.Consul.Catalog
import RegistrySync.Watch.Poll

/-!
# Polling a Consul catalog

The poller remembers the index of the catalog that it listed last. A listing with the same index
means that nothing has changed. A listing with another index is remembered, and then every service
it names is described in turn. A service whose description fails, and one without any endpoint, is
left out of the membership. A failed listing leaves the index as it is, so that the same question is
asked again.
-/

namespace RegistrySync.Consul

/-- A backend that follows a Consul catalog. -/
def backend : Backend := ⟨"consul", "consul-"⟩

/-- What a poller keeps between polls. -/
structure Poller where
  /-- The enterprise namespace to ask for. -/
  namespaceName : Option String := none
  /-- The index of the last successful listing. -/
  lastIndex : UInt64 := 0
deriving DecidableEq

namespace Poller

/-- The endpoints of each service that has some. -/
def describe (namespaceName : Option String) :
    List String → Membership → Dialogue Catalog.Call.Reply Membership
  | [], members => return members
  | name :: names, members => do
    match ← Catalog.call (.instances name namespaceName) with
    | .error _ => describe namespaceName names members
    | .ok instances =>
      match instances.filterMap Instance.endpoint? with
      | [] => describe namespaceName names members
      | endpoints => describe namespaceName names (members.insert name endpoints)

/-- Ask the catalog once. -/
def poll (p : Poller) : Dialogue Catalog.Call.Reply (Poll × Poller) := do
  match ← Catalog.call (.list p.lastIndex p.namespaceName) with
  | .error f => return (.failed ("error listing services from Consul: " ++ f.message), p)
  | .ok (names, index) =>
    if index = p.lastIndex then return (.same, p)
    else
      let members ← describe p.namespaceName names .empty
      return (.news members, { p with lastIndex := index })

end Poller

end RegistrySync.Consul
