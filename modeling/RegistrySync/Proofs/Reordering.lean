import RegistrySync.Proofs.Quiescence

/-!
# Endpoints in another order

**Theorem (`reordering_silent_iff`).** Publish the endpoints of a host, reconcile, publish other
endpoints for the host and reconcile again. The second cycle makes no call to the control plane
exactly when, for every address, the endpoint that comes first with it is the same as before. So
endpoints may change places as long as those with one address are equal
(`Endpoint.first?_of_perm`); if two with one address but other ports change places, the host changes
(`swapped_ports_are_a_change`).

Three things are done to a list of endpoints on its way to the control plane. Publishing keeps the
first of every address: of two lists the same endpoints stay exactly when the first ones are the
same (`Endpoint.distinct_perm_iff`). What is inferred and sorted from them says the same for the
same endpoints in any order, and only for these (`ServiceEntry.desired_equivalent_iff`). So an
object that is as one list asks is as the other asks, too, if and only if they are permutations of
each other (`converged_iff_perm`).
-/

namespace RegistrySync

variable {es es' : List Endpoint}

/-! ## The first endpoint of every address -/

namespace Endpoint

/-- The first endpoint with an address. -/
def first? (address : String) (es : List Endpoint) : Option Endpoint :=
  es.find? fun e => e.address = address

theorem mem_distinctFrom {met : List String} {e : Endpoint} :
    e ∈ distinctFrom met es ↔ e.address ∉ met ∧ first? e.address es = some e := by
  induction es generalizing met with
  | nil => simp [distinctFrom, first?]
  | cons x es ih =>
    have hfirst : first? e.address (x :: es) =
        if x.address = e.address then some x else first? e.address es := by
      rw [first?, List.find?_cons]
      by_cases h : x.address = e.address <;> simp [h, first?]
    rw [distinctFrom, hfirst]
    by_cases hmet : met.contains x.address
    · rw [if_pos hmet, ih]
      have hmet := List.contains_iff_mem.1 hmet
      by_cases hx : x.address = e.address
      · simp [← hx, hmet]
      · simp [hx]
    · rw [if_neg hmet, List.mem_cons, ih]
      have hmet : x.address ∉ met := fun h => hmet (List.contains_iff_mem.2 h)
      by_cases hx : x.address = e.address
      · rw [hx] at hmet
        simp [hx, hmet, eq_comm]
      · have hne : e ≠ x := fun he => hx (congrArg address he).symm
        simp [hx, hne, Ne.symm hx]

theorem mem_distinct {e : Endpoint} : e ∈ distinct es ↔ first? e.address es = some e := by
  simp [distinct, mem_distinctFrom]

theorem address_of_first? {address : String} {e : Endpoint} (h : first? address es = some e) :
    e.address = address := by
  simpa using List.find?_some h

/-- The same endpoints stay exactly when those that come first are the same. -/
theorem distinct_perm_iff :
    (distinct es).Perm (distinct es') ↔ ∀ address, first? address es = first? address es' := by
  have hnodup : ∀ list, (distinct list).Nodup := fun list =>
    (List.pairwise_map.1 (distinct_nodup list)).imp fun hne heq => hne (congrArg address heq)
  rw [List.perm_ext_iff_of_nodup (hnodup es) (hnodup es')]
  simp only [mem_distinct]
  constructor
  · intro h address
    refine Option.ext fun e => ?_
    constructor
    · intro he
      obtain rfl := address_of_first? he
      exact (h e).1 he
    · intro he
      obtain rfl := address_of_first? he
      exact (h e).2 he
  · intro h e
    rw [h]

/-- When endpoints with one address are the same, the first one is any. -/
theorem first?_eq_some_iff (hone : ∀ e ∈ es, ∀ e' ∈ es, e.address = e'.address → e = e')
    {address : String} {e : Endpoint} :
    first? address es = some e ↔ e ∈ es ∧ e.address = address := by
  constructor
  · intro h
    exact ⟨List.mem_of_find?_eq_some h, address_of_first? h⟩
  · rintro ⟨he, rfl⟩
    obtain ⟨x, hx⟩ : ∃ x, first? e.address es = some x :=
      Option.isSome_iff_exists.1 (List.find?_isSome.2 ⟨e, he, by simp⟩)
    rw [hx, hone x (List.mem_of_find?_eq_some hx) e he (address_of_first? hx)]

theorem first?_of_perm (h : es'.Perm es)
    (hone : ∀ e ∈ es, ∀ e' ∈ es, e.address = e'.address → e = e') (address : String) :
    first? address es' = first? address es := by
  have hone' : ∀ e ∈ es', ∀ e' ∈ es', e.address = e'.address → e = e' := fun e he e' he' =>
    hone e (h.mem_iff.1 he) e' (h.mem_iff.1 he')
  refine Option.ext fun e => ?_
  rw [first?_eq_some_iff hone', first?_eq_some_iff hone, h.mem_iff]

end Endpoint

/-! ## What is published -/

open RegistrySync.Drill RegistrySync.ObjectStore

section

variable {b : Backend} {namespaceName : String} {members members' : Backend → Membership}
  {bs : List Backend} {s : ObjectStore}

/-- An object says the same as either of two desired entries when these say the same. -/
theorem says_iff_of_says {desired desired' : ServiceEntry} {o : Option ServiceEntry}
    (h : Says desired o) : Says desired' o ↔ desired.spec.equivalent desired'.spec := by
  obtain ⟨entry, rfl, hsame⟩ := h
  constructor
  · rintro ⟨entry', heq, hsame'⟩
    cases heq
    exact ServiceEntry.Spec.equivalent_trans (ServiceEntry.Spec.equivalent_symm hsame) hsame'
  · intro hdesired
    exact ⟨entry, rfl, ServiceEntry.Spec.equivalent_trans hsame hdesired⟩

/-- When other endpoints are published for one host of one backend, all objects stay as the
memberships ask exactly when the endpoints are the same in another order. -/
theorem converged_iff_perm (host : String) (hb : b ∈ bs)
    (hbackends : ∀ c, c ≠ b → members' c = members c)
    (hhosts : ∀ other, other ≠ host → (members' b).find? other = (members b).find? other)
    (hes : (members b).find? host = some es) (hes' : (members' b).find? host = some es')
    (h : Converged namespaceName members bs s) :
    Converged namespaceName members' bs s ↔ es.Perm es' := by
  have hsays : Says (.desired b namespaceName host es) (s.find? (b.objectName host)) :=
    (fits_iff_of_member hes).1 (h b hb _ (b.owns_objectName host))
  have hdesired : (ServiceEntry.desired b namespaceName host es).spec.equivalent
      (ServiceEntry.desired b namespaceName host es').spec ↔ es.Perm es' := by
    rw [ServiceEntry.desired_equivalent_iff, and_iff_right rfl]
  rw [← hdesired, ← says_iff_of_says hsays, ← fits_iff_of_member hes']
  refine ⟨fun h' => h' b hb _ (b.owns_objectName host), fun hfits c hc name hname => ?_⟩
  by_cases hcb : c = b
  · subst hcb
    intro other hother
    by_cases hsame : other = host
    · subst hsame
      exact hother ▸ hfits other rfl
    · rw [hhosts other hsame]
      exact h c hc name hname other hother
  · rw [hbackends c hcb]
    exact h c hc name hname

end

/-- This roster for one backend, and any memberships for the others. -/
def publishing (others : Backend → Membership) (b : Backend) (roster : Roster) (c : Backend) :
    Membership :=
  if c = b then roster.hosts else others c

theorem find?_publish (roster : Roster) (m : Membership) (host other : String)
    (es : List Endpoint) : (roster.publish (m.insert host es)).hosts.find? other =
      if other = host then some (Endpoint.distinct es)
      else (m.find? other).map Endpoint.distinct := by
  rw [Roster.publish, Table.find?_map, Table.find?_insert]
  split <;> rfl

/-- **Publishing a host's endpoints anew changes nothing exactly when every address keeps its first
endpoint.** One roster publishes the endpoints of a host, among other hosts and beside other
backends, and a cycle in which no call fails brings the control plane in line. Then other endpoints
are published for the host. The next cycle makes no call to the control plane, and reports no
change, if and only if for every address the first endpoint is the same. This is so for every
permutation of the endpoints when those with one address are the same. -/
theorem reordering_silent_iff {backends : List Backend} {settings : CycleSettings} {r : Reconciler}
    (h : Reconciler.assemble backends settings = .ok r) {b : Backend} (hb : b ∈ backends)
    (others : Backend → Membership) (roster : Roster) (m : Membership) (host : String)
    (es es' : List Endpoint) {s : ObjectStore} (hs : s.Reachable) :
    let first := roster.publish (m.insert host es)
    let second := first.publish (m.insert host es')
    let settled := (r.cycle.run (ObjectStore.answer (publishing others b first)) s).2
    let report := (r.cycle.run (ObjectStore.answer (publishing others b second)) settled).1
    let quiet := Silent (publishing others b second) r.cycle settled ∧ report.hasChanges = false
    (quiet ↔ ∀ address, Endpoint.first? address es' = Endpoint.first? address es) ∧
    (es'.Perm es → (∀ e ∈ es, ∀ e' ∈ es, e.address = e'.address → e = e') → quiet) := by
  obtain ⟨-, hapart, rfl⟩ := Reconciler.assemble_eq_ok_iff.1 h
  intro first second settled report quiet
  have hreach : settled.Reachable :=
    Dialogue.run_keeps (fun c v hv => hv.answer _ c) _ hs
  have hconverged : Converged settings.namespaceName (publishing others b first) backends settled :=
    converged_run_once hapart hs
  have hiff : Converged settings.namespaceName (publishing others b second) backends settled ↔
      (Endpoint.distinct es).Perm (Endpoint.distinct es') := by
    refine converged_iff_perm host hb (fun c hc => ?_) (fun other hother => ?_) ?_ ?_
      hconverged
    · rw [publishing, publishing, if_neg hc, if_neg hc]
    · rw [publishing, publishing, if_pos rfl, if_pos rfl, find?_publish, find?_publish,
        if_neg hother, if_neg hother]
    · rw [publishing, if_pos rfl, find?_publish, if_pos rfl]
    · rw [publishing, if_pos rfl, find?_publish, if_pos rfl]
  have hquiet : quiet ↔ ∀ address, Endpoint.first? address es' = Endpoint.first? address es := by
    rw [← Endpoint.distinct_perm_iff, List.perm_comm, ← hiff]
    refine ⟨fun hq => (silent_once hreach.wellKept).1 hq.1, fun hconv => ?_⟩
    refine ⟨(silent_once hreach.wellKept).2 hconv, ?_⟩
    have hrun := run_once_of_converged hreach.wellKept hconv
    exact congrArg (fun outcome => outcome.1.hasChanges) hrun
  exact ⟨hquiet, fun hperm hone => hquiet.2 (Endpoint.first?_of_perm hperm hone)⟩

/-- An endpoint goes behind one with another address, and stays before one with its own. -/
theorem moved_address_is_silent :
    let r : Reconciler := ⟨[Consul.backend, CloudMap.backend], {}⟩
    let rest : List Endpoint := [.ofPort "10.0.0.1" 8080]
    let es := .ofPort "10.0.0.1" 80 :: .ofPort "10.0.0.2" 80 :: rest
    let es' := .ofPort "10.0.0.2" 80 :: .ofPort "10.0.0.1" 80 :: rest
    let first := ({} : Roster).publish (Table.empty.insert "a" es)
    let second := first.publish (Table.empty.insert "a" es')
    let others := fun _ => .empty
    let settled :=
      (r.cycle.run (ObjectStore.answer (publishing others Consul.backend first)) {}).2
    Reconciler.assemble [Consul.backend, CloudMap.backend] {} = .ok r ∧
    (ObjectStore.Reachable {}) ∧ es'.Perm es ∧ settled.writes = 1 ∧
    Silent (publishing others Consul.backend second) r.cycle settled := by
  intro r rest es es' first second others settled
  have hassemble : Reconciler.assemble [Consul.backend, CloudMap.backend] {} = .ok r := rfl
  obtain ⟨hiff, -⟩ := reordering_silent_iff hassemble List.mem_cons_self others {} .empty "a" es es'
    ObjectStore.Reachable.empty
  refine ⟨hassemble, .empty, .swap _ _ _, by decide +kernel, (hiff.2 fun address => ?_).1⟩
  by_cases haddress : "10.0.0.1" = address
  · subst haddress
    rfl
  · simp [Endpoint.first?, es, es', rest, List.find?_cons, haddress]

/-- Two endpoints with one address and other ports change places. -/
theorem swapped_ports_are_a_change :
    let r : Reconciler := ⟨[Consul.backend, CloudMap.backend], {}⟩
    let es : List Endpoint := [.ofPort "10.0.0.1" 80, .ofPort "10.0.0.1" 8080]
    let first := ({} : Roster).publish (Table.empty.insert "a" es)
    let second := first.publish (Table.empty.insert "a" es.reverse)
    let members := publishing (fun _ => .empty) Consul.backend
    let settled := (r.cycle.run (ObjectStore.answer (members first)) {}).2
    es.reverse.Perm es ∧
    (r.cycle.run (ObjectStore.answer (members first)) settled).1 = { unchanged := 1 } ∧
    (r.cycle.run (ObjectStore.answer (members second)) settled).1 = { updated := 1 } := by
  intro r es first second members settled
  exact ⟨List.reverse_perm es, by decide +kernel, by decide +kernel⟩

end RegistrySync
