import Mathlib.Data.List.Induction
import Mathlib.Data.List.Nodup
import RegistrySync.Proofs.PortUnion
import RegistrySync.Watch.Roster

/-!
# Specs that say the same

**Theorem (`equivalence_compares_multisets`).** Two specs are equivalent exactly when they resolve
alike and have the same hosts, the same ports and the same endpoints, each as often, in whatever
order and wherever they are located.

**Theorem (`desired_tells_members_apart`).** What is desired of two lists of endpoints is equivalent
exactly when it is for one host and the lists are permutations of each other. If moreover no address
comes twice, as in all that is published, permutations give one and the same entry.

Specs are compared by sorting, and each of the three orders tells different things apart, so what is
compared are multisets (`sorted_eq_sorted_iff`). What is inferred from endpoints does not depend on
their order: the resolution asks for all addresses (`Resolution.infer_of_perm`), and the ports are a
set in ascending order (`ServicePort.infer_congr`). The endpoints themselves keep their order only
among those with one address (`Endpoint.byAddress_of_perm`).
-/

namespace RegistrySync

namespace ServiceEntry.Spec

/-! ## Equivalence -/

variable {a b c : Spec}

theorem equivalent_iff : a.equivalent b ↔ a.resolution = b.resolution ∧
    a.hosts.Perm b.hosts ∧ a.ports.Perm b.ports ∧ a.endpoints.Perm b.endpoints := by
  simp only [equivalent, Bool.and_eq_true, beq_iff_eq, sorted_eq_sorted_iff, and_assoc]

theorem equivalent_self (a : Spec) : a.equivalent a := equivalent_iff.2 ⟨rfl, .rfl, .rfl, .rfl⟩

theorem equivalent_symm (h : a.equivalent b) : b.equivalent a := by
  rw [equivalent_iff] at *
  exact ⟨h.1.symm, h.2.1.symm, h.2.2.1.symm, h.2.2.2.symm⟩

theorem equivalent_trans (h : a.equivalent b) (h' : b.equivalent c) : a.equivalent c := by
  rw [equivalent_iff] at *
  exact ⟨h.1.trans h'.1, h.2.1.trans h'.2.1, h.2.2.1.trans h'.2.2.1, h.2.2.2.trans h'.2.2.2⟩

/-- A spec with its lists in another order. -/
theorem equivalent_rearranged {hosts : List String} {ports : List ServicePort}
    {endpoints : List Endpoint} (hhosts : hosts.Perm a.hosts) (hports : ports.Perm a.ports)
    (hendpoints : endpoints.Perm a.endpoints) :
    { a with hosts, ports, endpoints }.equivalent a :=
  equivalent_iff.2 ⟨rfl, hhosts, hports, hendpoints⟩

/-- Equivalence does not tell equivalent specs apart. -/
theorem equivalent_congr (h : a.equivalent b) (c : Spec) :
    a.equivalent c = b.equivalent c ∧ c.equivalent a = c.equivalent b := by
  refine ⟨Bool.eq_iff_iff.2 ⟨?_, ?_⟩, Bool.eq_iff_iff.2 ⟨?_, ?_⟩⟩
  · exact equivalent_trans (equivalent_symm h)
  · exact equivalent_trans h
  · exact fun hc => equivalent_trans hc h
  · exact fun hc => equivalent_trans hc (equivalent_symm h)

end ServiceEntry.Spec

/-- **Equivalence compares multisets.** Specs are equivalent if and only if they have one resolution
and their hosts, ports and endpoints are permutations of each other, so that everything occurs as
often in the one as in the other. The location takes no part. This is an equivalence relation, and
putting the lists of either spec in another order does not change the outcome. -/
theorem equivalence_compares_multisets :
    (∀ a b : ServiceEntry.Spec, a.equivalent b ↔ a.resolution = b.resolution ∧
      a.hosts.Perm b.hosts ∧ a.ports.Perm b.ports ∧ a.endpoints.Perm b.endpoints) ∧
    (∀ (a b : ServiceEntry.Spec) location location',
      { a with location }.equivalent { b with location := location' } = a.equivalent b) ∧
    Equivalence (fun a b : ServiceEntry.Spec => a.equivalent b) ∧
    ∀ (a b : ServiceEntry.Spec) hosts ports endpoints,
      hosts.Perm a.hosts → ports.Perm a.ports → endpoints.Perm a.endpoints →
      { a with hosts, ports, endpoints }.equivalent b = a.equivalent b ∧
      b.equivalent { a with hosts, ports, endpoints } = b.equivalent a := by
  refine ⟨fun a b => ServiceEntry.Spec.equivalent_iff, fun a b location location' => rfl, ?_, ?_⟩
  · exact ⟨ServiceEntry.Spec.equivalent_self, ServiceEntry.Spec.equivalent_symm,
      ServiceEntry.Spec.equivalent_trans⟩
  · intro a b hosts ports endpoints hhosts hports hendpoints
    have hrearranged := ServiceEntry.Spec.equivalent_rearranged hhosts hports hendpoints
    exact ServiceEntry.Spec.equivalent_congr hrearranged b

/-- Two endpoints with one address and other ports, one of them listed twice. -/
theorem rearranged_specs_are_equivalent :
    let a : ServiceEntry.Spec := {
      hosts := ["b.example", "a.example"]
      resolution := .static
      ports := [.ofLabel 443 "https", .ofLabel 80 "http"]
      endpoints := [.ofPort "10.0.0.1" 443, .ofPort "10.0.0.1" 80, .ofPort "10.0.0.1" 443] }
    let b := { a with
      hosts := a.hosts.reverse, location := .meshInternal, ports := a.ports.reverse
      endpoints := [.ofPort "10.0.0.1" 443, .ofPort "10.0.0.1" 443, .ofPort "10.0.0.1" 80] }
    a.equivalent b ∧ ¬ a.equivalent { a with endpoints := a.endpoints.take 2 } := by
  intro a b
  obtain ⟨hiff, -⟩ := equivalence_compares_multisets
  constructor
  · refine (hiff a b).2 ⟨rfl, a.hosts.reverse_perm.symm, a.ports.reverse_perm.symm, ?_⟩
    exact .cons _ (.swap _ _ _)
  · intro h
    have hlength := ((hiff _ _).1 h).2.2.2.length_eq
    cases hlength

/-! ## What is inferred from endpoints in another order -/

section

variable {es es' : List Endpoint}

theorem Resolution.infer_of_perm (h : es.Perm es') : infer es = infer es' := by
  have hstatic : infer es = .static ↔ infer es' = .static := by
    rw [infer_eq_static_iff, infer_eq_static_iff]
    simp only [h.mem_iff, ne_eq, ← List.length_eq_zero_iff, h.length_eq]
  cases h₁ : infer es <;> cases h₂ : infer es' <;> simp_all

namespace Endpoint

theorem byAddress_perm (es : List Endpoint) : (byAddress es).Perm es := List.mergeSort_perm es _

theorem byAddress_pairwise (es : List Endpoint) :
    (byAddress es).Pairwise fun a b => (compare a.address b.address).isLE :=
  List.pairwise_mergeSort (fun _ _ _ => Std.TransCmp.isLE_trans)
    (fun a b => isLE_total a.address b.address) es

/-- Endpoints with different addresses have one order by address. -/
theorem byAddress_of_perm (hes : (es.map (·.address)).Nodup) (h : es.Perm es') :
    byAddress es = byAddress es' := by
  have hperm : (byAddress es).Perm (byAddress es') :=
    (byAddress_perm es).trans (h.trans (byAddress_perm es').symm)
  refine hperm.eq_of_pairwise (fun a b ha hb hab hba => ?_) (byAddress_pairwise es)
    (byAddress_pairwise es')
  have ha := (byAddress_perm es).mem_iff.1 ha
  have hb := h.mem_iff.2 ((byAddress_perm es').mem_iff.1 hb)
  exact List.inj_on_of_nodup_map hes ha hb (eq_of_isLE_of_isLE hab hba)

end Endpoint

/-- Desired entries say the same for one host and the same endpoints in any order, and only for
these. -/
theorem ServiceEntry.desired_equivalent_iff {b b' : Backend}
    {namespaceName namespaceName' host host' : String} :
    (desired b namespaceName host es).spec.equivalent (desired b' namespaceName' host' es').spec ↔
      host = host' ∧ es.Perm es' := by
  have hendpoints : (Endpoint.byAddress es).Perm (Endpoint.byAddress es') ↔ es.Perm es' :=
    ((Endpoint.byAddress_perm es).congr_left _).trans ((Endpoint.byAddress_perm es').congr_right _)
  rw [Spec.equivalent_iff]
  constructor
  · intro h
    exact ⟨List.singleton_perm_singleton.1 h.2.1, hendpoints.1 h.2.2.2⟩
  · rintro ⟨rfl, h⟩
    refine ⟨Resolution.infer_of_perm h, .rfl, ?_, hendpoints.2 h⟩
    exact .of_eq (ServicePort.infer_congr fun e => h.mem_iff)

/-- With different addresses, the same endpoints in any order give one desired entry. -/
theorem ServiceEntry.desired_of_perm (b : Backend) (namespaceName host : String)
    (hes : (es.map (·.address)).Nodup) (h : es.Perm es') :
    desired b namespaceName host es = desired b namespaceName host es' := by
  have hports : ServicePort.infer es = ServicePort.infer es' :=
    ServicePort.infer_congr fun e => h.mem_iff
  rw [desired, desired, Resolution.infer_of_perm h, hports, Endpoint.byAddress_of_perm hes h]

end

/-! ## What a roster holds -/

theorem Roster.nodup_of_publish {roster : Roster} {members : Membership} {host : String}
    {es : List Endpoint} (h : (roster.publish members).hosts.find? host = some es) :
    (es.map (·.address)).Nodup := by
  rw [publish, Table.find?_map] at h
  obtain ⟨listed, -, rfl⟩ := Option.map_eq_some_iff.1 h
  exact Endpoint.distinct_nodup listed

/-- Whatever has been published in turn, no host has two endpoints with one address. -/
theorem Roster.nodup_of_publishes {memberships : List Membership} {host : String}
    {es : List Endpoint} (h : (memberships.foldl publish {}).hosts.find? host = some es) :
    (es.map (·.address)).Nodup := by
  induction memberships using List.reverseRecOn with
  | nil => cases h
  | append_singleton earlier members _ =>
    rw [List.foldl_append] at h
    exact nodup_of_publish h

/-- **The comparison sees exactly changes of membership.** Whatever the backends and namespaces, the
specs desired of two hosts and their endpoints are equivalent if and only if the hosts are the same
and the endpoints are permutations of each other, repeated ones as often. If no address comes twice,
a permutation does not change the desired entry at all; and in a roster none ever does. -/
theorem desired_tells_members_apart :
    (∀ (b b' : Backend) namespaceName namespaceName' host host' es es',
      (ServiceEntry.desired b namespaceName host es).spec.equivalent
          (ServiceEntry.desired b' namespaceName' host' es').spec ↔
        host = host' ∧ es'.Perm es) ∧
    (∀ (b : Backend) namespaceName host (es es' : List Endpoint),
      (es.map (·.address)).Nodup → es'.Perm es →
      ServiceEntry.desired b namespaceName host es' =
        ServiceEntry.desired b namespaceName host es) ∧
    ∀ (memberships : List Membership) host es,
      (memberships.foldl Roster.publish {}).hosts.find? host = some es →
      (es.map (·.address)).Nodup := by
  refine ⟨?_, ?_, fun memberships host es => Roster.nodup_of_publishes⟩
  · intro b b' namespaceName namespaceName' host host' es es'
    rw [ServiceEntry.desired_equivalent_iff, List.perm_comm]
  · intro b namespaceName host es es' hes h
    exact (ServiceEntry.desired_of_perm b namespaceName host hes h.symm).symm

/-- Three endpoints in another order, and then one of them twice. -/
theorem turned_endpoints_desire_alike :
    let b : Backend := ⟨"consul", "consul-"⟩
    let es : List Endpoint := [.ofPort "10.0.0.2" 443, .ofPort "10.0.0.1" 80, .ofPort "web" 80]
    ServiceEntry.desired b "default" "web" es.reverse =
        ServiceEntry.desired b "default" "web" es ∧
      ¬ (ServiceEntry.desired b "default" "web" es).spec.equivalent
        (ServiceEntry.desired b "default" "web" (es ++ es.take 1)).spec := by
  intro b es
  obtain ⟨hiff, hsame, -⟩ := desired_tells_members_apart
  refine ⟨hsame b "default" "web" es es.reverse (by decide) es.reverse_perm, fun h => ?_⟩
  have hlength := ((hiff _ _ _ _ _ _ _ _).1 h).2.length_eq
  cases hlength

end RegistrySync
