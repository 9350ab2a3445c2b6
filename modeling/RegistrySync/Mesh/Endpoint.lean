import RegistrySync.Sorted
import RegistrySync.Table

/-!
# Endpoints and memberships

An `Endpoint` is one reachable member of a host: an address and its ports by protocol label. A
`Membership` tells, for every host of a registry, which endpoints it has. Endpoints are ordered by
address and then by their port tables, entry by entry; the order tells different endpoints apart.
-/

namespace RegistrySync

/-- One reachable member of a host. -/
structure Endpoint where
  /-- An IP literal or a DNS name. -/
  address : String
  /-- The port numbers by protocol label. -/
  ports : Table UInt32 := .empty
deriving DecidableEq

/-- The endpoints of every host a registry knows. -/
abbrev Membership := Table (List Endpoint)

namespace Endpoint

/-- Label first, then number. -/
def comparePort : String × UInt32 → String × UInt32 → Ordering :=
  compareLex (compareOn (·.1)) (compareOn (·.2))

instance : Std.TransCmp comparePort := inferInstanceAs (Std.TransCmp (compareLex _ _))

theorem eq_of_comparePort {a b : String × UInt32} (h : comparePort a b = .eq) : a = b := by
  rw [comparePort, compareLex, compareOn, compareOn, Ordering.then_eq_eq] at h
  exact Prod.ext (Std.LawfulEqCmp.eq_of_compare h.1) (Std.LawfulEqCmp.eq_of_compare h.2)

instance : Std.LawfulEqCmp comparePort where
  eq_of_compare := eq_of_comparePort

/-- Port tables, entry by entry. -/
def comparePorts (a b : Endpoint) : Ordering :=
  List.compareLex comparePort a.ports.entries b.ports.entries

instance : Std.TransCmp comparePorts where
  eq_swap {a b} := by
    have : List.compareLex comparePort a.ports.entries b.ports.entries =
        (List.compareLex comparePort b.ports.entries a.ports.entries).swap :=
      Std.OrientedCmp.eq_swap
    exact this
  isLE_trans {a b c} hab hbc := by
    have : (List.compareLex comparePort a.ports.entries c.ports.entries).isLE :=
      Std.TransCmp.isLE_trans hab hbc
    exact this

instance : Ord Endpoint where
  compare := compareLex (compareOn (·.address)) comparePorts

instance : Std.TransOrd Endpoint :=
  inferInstanceAs (Std.TransCmp (compareLex (compareOn Endpoint.address) comparePorts))

theorem eq_of_compare {a b : Endpoint} (h : compare a b = .eq) : a = b := by
  have h : compareLex (compareOn Endpoint.address) comparePorts a b = .eq := h
  rw [compareLex, compareOn, Ordering.then_eq_eq] at h
  have hp : List.compareLex comparePort a.ports.entries b.ports.entries = .eq := h.2
  have hp := Std.LawfulEqCmp.eq_of_compare hp
  have ha := Std.LawfulEqCmp.eq_of_compare h.1
  obtain ⟨_, ⟨_, _⟩⟩ := a
  obtain ⟨_, ⟨_, _⟩⟩ := b
  simp_all

instance : Std.LawfulEqOrd Endpoint where
  eq_of_compare := eq_of_compare

/-- The endpoint with one more port. -/
def withPort (e : Endpoint) (label : String) (number : UInt32) : Endpoint :=
  { e with ports := e.ports.insert label number }

end Endpoint

end RegistrySync
