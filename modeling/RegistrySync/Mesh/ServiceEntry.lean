import RegistrySync.Mesh.Endpoint
import RegistrySync.Text.UpperCase

/-!
# Service entries

What the control plane of a mesh holds for a host outside of it. The `Spec` is the part that the
mesh acts on; the `Metadata` names the object and carries the version of its last write.

`Spec.equivalent` decides whether two specs say the same to the mesh: equal resolution, and the same
hosts, ports and endpoints counted with repetition but in any order. The location takes no part.
-/

namespace RegistrySync

/-- How the mesh finds the members of a host. -/
inductive Resolution where
  /-- By name, when connecting. -/
  | dns
  /-- By the listed addresses. -/
  | static
deriving DecidableEq

/-- Where a host lives. -/
inductive Location where
  | meshExternal
  | meshInternal
deriving DecidableEq

/-- One port of a service entry. -/
structure ServicePort where
  number : UInt32
  name : String
  protocol : String
deriving DecidableEq

namespace ServicePort

/-- A port named by its protocol label, with the protocol in upper case. -/
def ofLabel (number : UInt32) (label : String) : ServicePort :=
  ⟨number, label, Text.upper label⟩

instance : Ord ServicePort where
  compare := compareLex (compareOn (·.number))
    (compareLex (compareOn (·.name)) (compareOn (·.protocol)))

instance : Std.TransOrd ServicePort :=
  inferInstanceAs (Std.TransCmp (compareLex (compareOn ServicePort.number)
    (compareLex (compareOn ServicePort.name) (compareOn ServicePort.protocol))))

theorem eq_of_compare {a b : ServicePort} (h : compare a b = .eq) : a = b := by
  have h : compareLex (compareOn ServicePort.number)
    (compareLex (compareOn ServicePort.name) (compareOn ServicePort.protocol)) a b = .eq := h
  rw [compareLex, compareLex, Ordering.then_eq_eq, Ordering.then_eq_eq] at h
  simp only [compareOn] at h
  have h1 := Std.LawfulEqCmp.eq_of_compare h.1
  have h2 := Std.LawfulEqCmp.eq_of_compare h.2.1
  have h3 := Std.LawfulEqCmp.eq_of_compare h.2.2
  cases a; cases b; simp_all

instance : Std.LawfulEqOrd ServicePort where
  eq_of_compare := eq_of_compare

end ServicePort

namespace ServiceEntry

/-- The name of an object and what the control plane notes about it. -/
structure Metadata where
  name : String
  namespaceName : String := ""
  /-- Changes with every write; a writer shows the one it read. -/
  resourceVersion : Option String := none
  labels : Table String := .empty
  annotations : Table String := .empty
deriving DecidableEq

/-- The part of a service entry that the mesh acts on. -/
structure Spec where
  hosts : List String
  location : Location := .meshExternal
  resolution : Resolution
  ports : List ServicePort := []
  endpoints : List Endpoint := []
deriving DecidableEq

namespace Spec

/-- The two specs say the same to the mesh. -/
def equivalent (a b : Spec) : Bool :=
  a.resolution == b.resolution && sorted a.hosts == sorted b.hosts &&
    sorted a.ports == sorted b.ports && sorted a.endpoints == sorted b.endpoints

end Spec

end ServiceEntry

/-- An object of the mesh configuration that describes one host. -/
structure ServiceEntry where
  metadata : ServiceEntry.Metadata
  spec : ServiceEntry.Spec
deriving DecidableEq

def ServiceEntry.name (e : ServiceEntry) : String := e.metadata.name

end RegistrySync
