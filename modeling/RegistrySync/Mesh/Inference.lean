import RegistrySync.Mesh.ServiceEntry
import RegistrySync.Net.IpLiteral

/-!
# Inference: from endpoints to the service entry

The rules that turn what a registry reports into what the mesh shall hold.

**Resolution.** A host resolves statically exactly when it has endpoints and every address is an IP
literal (`Resolution.infer_eq_static_iff`).

**Ports.** A host has the ports of its endpoints (`mem_portPairs`), each pair of number and label
once (`nodup_portPairs`), by number and then by label (`portPairs_ascending`).

**Endpoints from registry data.** A port number between 1 and 2³² - 1 gives the one port of its
well-known protocol; any other number means that no port was given, and the endpoint gets the two
web ports.

**Ownership.** A backend owns the objects whose names begin with its scope; the object of a host is
named by the scope followed by the host.
-/

namespace RegistrySync

/-- A registry as the reconciler sees it: what it is called, and the beginning of the names of all
objects it owns. -/
structure Backend where
  name : String
  scope : String
deriving DecidableEq

/-- The name of the object that stands for a host of this backend. -/
def Backend.objectName (b : Backend) (host : String) : String := b.scope ++ host

/-- The host an object of this backend stands for, read off its name. -/
def Backend.hostOf? (b : Backend) (name : String) : Option String :=
  (Text.after? b.scope.toList name.toList).map String.ofList

theorem Backend.hostOf?_eq_some_iff {b : Backend} {name host : String} :
    b.hostOf? name = some host ↔ name = b.objectName host := by
  simp only [hostOf?, objectName, Option.map_eq_some_iff, Text.after?_eq_some_iff]
  constructor
  · rintro ⟨cs, hcs, rfl⟩
    rw [← String.toList_inj, hcs]
    simp
  · rintro rfl
    exact ⟨host.toList, by simp, by simp⟩

/-! ## Resolution -/

/-- How a host with these endpoints is found. -/
def Resolution.infer (endpoints : List Endpoint) : Resolution :=
  if !endpoints.isEmpty && endpoints.all fun e => Net.isIpLiteral e.address then .static else .dns

theorem Resolution.infer_eq_static_iff {endpoints : List Endpoint} :
    Resolution.infer endpoints = .static ↔
      endpoints ≠ [] ∧ ∀ e ∈ endpoints, Net.isIpLiteral e.address := by
  rw [infer]
  cases endpoints <;> simp

/-! ## Ports -/

/-- The pairs of number and label in use, each once, by number and then by label. -/
def portPairs (endpoints : List Endpoint) : List (UInt32 × String) :=
  ((endpoints.flatMap fun e => e.ports.entries.map fun p => (p.2, p.1)).eraseDups).mergeSort
    fun a b => (compareLex (compareOn (·.1)) (compareOn (·.2)) a b).isLE

theorem mem_portPairs {endpoints : List Endpoint} {number : UInt32} {label : String} :
    (number, label) ∈ portPairs endpoints ↔
      ∃ e ∈ endpoints, e.ports.find? label = some number := by
  simp only [portPairs, List.mem_mergeSort, List.mem_eraseDups, List.mem_flatMap, List.mem_map,
    Table.find?_eq_some_iff]
  constructor
  · rintro ⟨e, he, p, hp, h⟩
    cases h
    exact ⟨e, he, hp⟩
  · rintro ⟨e, he, h⟩
    exact ⟨e, he, _, h, rfl⟩

theorem nodup_eraseDups {α : Type} [BEq α] [LawfulBEq α] (xs : List α) : xs.eraseDups.Nodup := by
  match xs with
  | [] => exact .nil
  | x :: xs =>
    rw [List.eraseDups_cons, List.nodup_cons]
    refine ⟨fun hx => ?_, nodup_eraseDups _⟩
    have hx := (List.mem_filter.1 (List.mem_eraseDups.1 hx)).2
    simp at hx
termination_by xs.length
decreasing_by exact Nat.lt_succ_of_le (List.length_filter_le _ _)

theorem nodup_portPairs (endpoints : List Endpoint) : (portPairs endpoints).Nodup :=
  (List.mergeSort_perm _ _).nodup_iff.2 (nodup_eraseDups _)

theorem portPairs_pairwise (endpoints : List Endpoint) : (portPairs endpoints).Pairwise fun a b =>
    (compareLex (compareOn (·.1)) (compareOn (·.2)) a b).isLE := by
  refine List.pairwise_mergeSort (fun _ _ _ => Std.TransCmp.isLE_trans) (fun a b => ?_) _
  have hswap : compareLex (compareOn (·.1)) (compareOn (·.2)) b a =
      (compareLex (compareOn (·.1)) (compareOn (·.2)) a b).swap := Std.OrientedCmp.eq_swap
  rw [hswap]
  cases compareLex (compareOn (·.1)) (compareOn (·.2)) a b <;> rfl

theorem portPairs_ascending (endpoints : List Endpoint) :
    (portPairs endpoints).Pairwise fun a b => a.1 ≤ b.1 :=
  (portPairs_pairwise endpoints).imp fun h =>
    Std.isLE_compare.1 (Ordering.isLE_then_iff_and.1 h).1

/-- The ports of a host with these endpoints. -/
def ServicePort.infer (endpoints : List Endpoint) : List ServicePort :=
  (portPairs endpoints).map fun p => .ofLabel p.1 p.2

/-- The label of the protocol that is commonly spoken on a port. -/
def protocolLabel (port : UInt32) : String :=
  if port = 80 then "http" else if port = 443 then "https" else "tcp"

/-! ## Endpoints -/

namespace Endpoint

/-- An endpoint with the two web ports, for a registry that reports none. -/
def web (address : String) : Endpoint :=
  ({ address : Endpoint }.withPort "http" 80).withPort "https" 443

/-- An endpoint for the port number a registry reports. -/
def ofPort (address : String) (port : Int) : Endpoint :=
  if 0 < port ∧ port < UInt32.size then
    let number := port.toNat.toUInt32
    { address : Endpoint }.withPort (protocolLabel number) number
  else web address

@[simp] theorem address_ofPort (address : String) (port : Int) :
    (ofPort address port).address = address := by
  rw [ofPort]
  split <;> rfl

/-- In order of address; endpoints with one address keep their order. -/
def byAddress (endpoints : List Endpoint) : List Endpoint :=
  endpoints.mergeSort fun a b => (compare a.address b.address).isLE

end Endpoint

/-! ## The desired entry -/

namespace ServiceEntry

/-- The label every reconciled object carries, and its value. -/
def ownerLabel : String × String := ("app.kubernetes.io/managed-by", "meshsync")

/-- The annotation that names the registry a host comes from. -/
def sourceKey : String := "meshsync.io/registry"

/-- What the control plane shall hold for a host of a backend. -/
def desired (b : Backend) (namespaceName host : String) (endpoints : List Endpoint) :
    ServiceEntry where
  metadata := {
    name := b.objectName host
    namespaceName
    labels := Table.empty.insert ownerLabel.1 ownerLabel.2
    annotations := Table.empty.insert sourceKey b.name }
  spec := {
    hosts := [host]
    resolution := Resolution.infer endpoints
    ports := ServicePort.infer endpoints
    endpoints := Endpoint.byAddress endpoints }

end ServiceEntry

end RegistrySync
