import RegistrySync.Mesh.Endpoint

/-!
# Rosters

A `Roster` is what one backend publishes: its latest membership, replaced as a whole by every
publication. In a published membership no host has two endpoints with one address
(`Endpoint.distinct_nodup`); of several, the first stays, and no address is lost
(`Endpoint.mem_addresses_distinct`). A membership once read does not change when another is
published.
-/

namespace RegistrySync

/-- The endpoints whose address is new, given the addresses already met. -/
def Endpoint.distinctFrom (met : List String) : List Endpoint → List Endpoint
  | [] => []
  | e :: es =>
    if met.contains e.address then distinctFrom met es
    else e :: distinctFrom (e.address :: met) es

/-- The first endpoint of every address. -/
def Endpoint.distinct (es : List Endpoint) : List Endpoint := distinctFrom [] es

theorem Endpoint.distinctFrom_sublist (met : List String) (es : List Endpoint) :
    (distinctFrom met es).Sublist es := by
  induction es generalizing met with
  | nil => exact .slnil
  | cons e es ih =>
    rw [distinctFrom]
    split
    · exact (ih met).cons e
    · exact (ih _).cons_cons e

theorem Endpoint.mem_addresses_distinctFrom {met : List String} {es : List Endpoint}
    {address : String} : address ∈ (distinctFrom met es).map (·.address) ↔
      address ∉ met ∧ address ∈ es.map (·.address) := by
  induction es generalizing met with
  | nil => simp [distinctFrom]
  | cons e es ih =>
    rw [distinctFrom]
    split
    · next he =>
      rw [ih]
      have := List.contains_iff_mem.1 he
      grind
    · next he =>
      have : e.address ∉ met := fun h => he (List.contains_iff_mem.2 h)
      rw [List.map_cons, List.mem_cons, ih]
      grind

theorem Endpoint.distinctFrom_nodup (met : List String) (es : List Endpoint) :
    ((distinctFrom met es).map (·.address)).Nodup := by
  induction es generalizing met with
  | nil => exact .nil
  | cons e es ih =>
    rw [distinctFrom]
    split
    · exact ih met
    · rw [List.map_cons, List.nodup_cons]
      refine ⟨fun h => ?_, ih _⟩
      exact (mem_addresses_distinctFrom.1 h).1 List.mem_cons_self

/-- What stays are endpoints of the list, in its order. -/
theorem Endpoint.distinct_sublist (es : List Endpoint) : (distinct es).Sublist es :=
  distinctFrom_sublist [] es

/-- No address is lost. -/
theorem Endpoint.mem_addresses_distinct {es : List Endpoint} {address : String} :
    address ∈ (distinct es).map (·.address) ↔ address ∈ es.map (·.address) := by
  simp [distinct, mem_addresses_distinctFrom]

/-- No address stays twice. -/
theorem Endpoint.distinct_nodup (es : List Endpoint) : ((distinct es).map (·.address)).Nodup :=
  distinctFrom_nodup [] es

/-- The latest membership of one backend, and how many have been published. -/
structure Roster where
  hosts : Membership := .empty
  revision : Nat := 0

namespace Roster

/-- Replace the membership. -/
def publish (r : Roster) (m : Membership) : Roster where
  hosts := m.map Endpoint.distinct
  revision := r.revision + 1

/-- Some membership has been published. -/
def isPublished (r : Roster) : Bool := r.revision ≠ 0

/-- The endpoints of a host. -/
def endpoints? (r : Roster) (host : String) : Option (List Endpoint) := r.hosts.find? host

end Roster

end RegistrySync
