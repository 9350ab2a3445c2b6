import RegistrySync.Proofs.Convergence
import RegistrySync.Proofs.Isolation

/-!
# Caches that lag

**Theorem (`cycle_alike_with_frozen_cache`).** A cycle whose cache shows the control plane as it was
when the cycle began makes the same calls as one whose cache is the control plane itself, ends with
the same tally and leaves the same objects with the same versions, whichever calls to the control
plane fail.

The cache comes to lag with every write of the cycle, but the cycle does not see it:

* an object is looked up before anything is written under its name (`Shows`),
* what was written for the members of a backend is not stray, so a sweep passes it over, and stray
  objects are not written before the sweep; and
* the turns of other backends are about other names.
-/

namespace RegistrySync

open RegistrySync.Cycle

/-- A call leaves all objects alone but its own. -/
theorem ObjectStore.find?_answer {members : Backend → Membership} {c : Call} {name : String}
    (h : c.object? ≠ some name) (s : ObjectStore) :
    (ObjectStore.answer members c s).2.find? name = s.find? name := by
  cases c with
  | create entry => exact @find?_perform (.create entry) s name fun ht => h (congrArg some ht.1)
  | update entry => exact @find?_perform (.update entry) s name fun ht => h (congrArg some ht.1)
  | delete other => exact @find?_perform (.delete other) s name fun ht => h (congrArg some ht.1)
  | members b | lookup other | list scope | get other | tell event => rfl

/-- The call is one to the cache. -/
def Cycle.Call.asksCache : Call → Bool
  | .lookup _ | .list _ => true
  | .members _ | .get _ | .create _ | .update _ | .delete _ | .tell _ => false

/-- An object store as control plane, and how many calls there have been to it. -/
structure Lagged where
  objects : ObjectStore
  calls : Nat := 0

namespace Lagged

/-- A call to the control plane. As `faults` says, by how many there were before, it fails without
effect. -/
def request (members : Backend → Membership) (faults : Nat → Option Failure) (c : Call)
    (w : Lagged) : c.Reply × Lagged :=
  match (faults w.calls).bind c.refusal? with
  | some reply => (reply, ⟨w.objects, w.calls + 1⟩)
  | none =>
    let r := ObjectStore.answer members c w.objects
    (r.1, ⟨r.2, w.calls + 1⟩)

/-- Replies to a cycle, whose cache holds what `shown` says of the control plane. -/
def answer (members : Backend → Membership) (faults : Nat → Option Failure)
    (shown : ObjectStore → ObjectStore) : Answerer Call.Reply Lagged
  | .members b, w => (members b, w)
  | .tell _, w => ((), w)
  | .lookup name, w => (.ok ((shown w.objects).find? name), w)
  | .list scope, w => (.ok ((shown w.objects).list scope), w)
  | c, w => request members faults c w

variable {members : Backend → Membership} {faults : Nat → Option Failure}
  {shown shown' : ObjectStore → ObjectStore}

/-- A call has its effect on the store, or none at all. -/
theorem objects_request (c : Call) (w : Lagged) :
    (request members faults c w).2.objects = w.objects ∨
      (request members faults c w).2.objects = (ObjectStore.answer members c w.objects).2 := by
  rw [request]
  split
  · exact .inl rfl
  · exact .inr rfl

theorem objects_answer (members : Backend → Membership) (faults : Nat → Option Failure)
    (shown : ObjectStore → ObjectStore) (c : Call) (w : Lagged) :
    (answer members faults shown c w).2.objects = w.objects ∨
      (answer members faults shown c w).2.objects =
        (ObjectStore.answer members c w.objects).2 := by
  cases c with
  | members b | tell event | lookup name | list scope => exact .inl rfl
  | get name | create entry | update entry | delete name => exact objects_request _ w

theorem reachable_answer (c : Call) (w : Lagged) (h : w.objects.Reachable) :
    (answer members faults shown c w).2.objects.Reachable := by
  rcases objects_answer members faults shown c w with hc | hc
  · rwa [hc]
  · rw [hc]
    exact h.answer members c

theorem find?_answer {c : Call} {name : String} (h : c.object? ≠ some name) (w : Lagged) :
    (answer members faults shown c w).2.objects.find? name = w.objects.find? name := by
  rcases objects_answer members faults shown c w with hc | hc
  · rw [hc]
  · rw [hc, ObjectStore.find?_answer h]

/-- What the cache shows makes a difference to it alone. -/
theorem answer_eq {c : Call} (hc : c.asksCache = false) (w : Lagged) :
    answer members faults shown c w = answer members faults shown' c w := by
  cases c with
  | lookup name | list scope => cases hc
  | members b | tell event | get name | create entry | update entry | delete name => rfl

/-- An object that is read has the name that it was asked for by. -/
theorem readsByName {α : Type} {m : Steps α} {w : Lagged} (hw : w.objects.Reachable) :
    ReadsByName (answer members faults shown) (m.trace (answer members faults shown) w) := by
  intro name v entry hmem hget
  have hv : v.objects.Reachable := Dialogue.trace_keeps reachable_answer hw hmem
  change (request members faults (.get name) v).1 = .ok entry at hget
  rw [request] at hget
  split at hget
  · next reply hrefused =>
    obtain ⟨f, -, ⟨⟩⟩ := Option.bind_eq_some_iff.1 hrefused
    cases hget
  · change v.objects.get name = .ok entry at hget
    rw [ObjectStore.get] at hget
    split at hget
    · next found hfind =>
      cases hget
      exact hv.wellKept.named hfind
    · cases hget

/-! ## What the cache still shows -/

/-- The store has a history, and under these names it holds what `S` holds. -/
structure Shows (S : ObjectStore) (names : String → Prop) (w : Lagged) : Prop where
  reachable : w.objects.Reachable
  find?_eq : ∀ name, names name → w.objects.find? name = S.find? name

theorem Shows.imp {S : ObjectStore} {names names' : String → Prop} {w : Lagged}
    (h : Shows S names w) (hnames : ∀ name, names' name → names name) : Shows S names' w :=
  ⟨h.reachable, fun name hname => h.find?_eq name (hnames name hname)⟩

/-- Calls about other objects make no difference. -/
theorem Shows.run {α : Type} {S : ObjectStore} {names : String → Prop} {w : Lagged} {m : Steps α}
    (h : Shows S names w)
    (hm : ∀ x ∈ m.trace (answer members faults shown) w, ∀ name, x.1.object? = some name →
      ¬ names name) :
    Shows S names (m.run (answer members faults shown) w).2 := by
  refine Dialogue.run_keeps_of_trace (fun x hx hshows => ?_) h
  refine ⟨reachable_answer x.1 x.2 hshows.reachable, fun name hname => ?_⟩
  rw [find?_answer (fun hobject => hm x hx name hobject hname) x.2]
  exact hshows.find?_eq name hname

/-! ## The two caches -/

/-- With the cache that shows `S` the run goes as with the store as its own cache. -/
abbrev AlikeFrozen {α : Type} (members : Backend → Membership) (faults : Nat → Option Failure)
    (S : ObjectStore) (m : Steps α) (w : Lagged) : Prop :=
  Dialogue.Alike (answer members faults fun objects => objects)
    (answer members faults fun _ => S) m w

section

variable {S : ObjectStore} {w : Lagged} {b : Backend} {namespaceName : String}

theorem alike_settleMember {m : String × List Endpoint}
    (h : Shows S (· = b.objectName m.1) w) :
    AlikeFrozen members faults S (settleMember b namespaceName m) w := by
  obtain ⟨next, heq, hnext⟩ := settleEntry_eq (.desired b namespaceName m.1 m.2)
  have hsettle : AlikeFrozen members faults S
      (settleEntry (.desired b namespaceName m.1 m.2)) w := by
    rw [heq]
    refine Dialogue.alike_ask rfl ?_ (Dialogue.alike_of_only ?_)
    · exact congrArg (fun found => next (.ok found)) (h.find?_eq _ rfl)
    · refine (hnext _).imp fun c hc v => answer_eq ?_ v
      cases c with
      | lookup name | list scope => exact hc.elim
      | members b | tell event | get name | create entry | update entry | delete name => rfl
  exact hsettle.bind ⟨rfl, rfl⟩

/-- Settling a member is about its object only. -/
theorem eq_of_mem_settleMember {m : String × List Endpoint} (hw : w.objects.Reachable)
    {x : Call × Lagged}
    (hx : x ∈ (settleMember b namespaceName m).trace (answer members faults shown) w)
    {name : String} (hname : x.1.object? = some name) : name = b.objectName m.1 := by
  rw [trace_settleMember] at hx
  exact eq_of_settling (readsByName hw) (settling_of_mem_settleEntry hx) hname

theorem alike_settleHosts (m : Membership) (h : Shows S (fun name => b.owns name) w) :
    AlikeFrozen members faults S (settleHosts b namespaceName m.entries) w := by
  rw [settleHosts_eq]
  refine alike_tallyEach (fun e => Shows S (· = b.objectName e.1))
    (fun e _ v hv => alike_settleMember hv) ?_ ?_
  · refine (List.pairwise_map.1 m.keys_nodup).imp fun {e e'} hne v _ hv => ?_
    refine hv.run fun x hx name hname hname' => hne ?_
    have hown : name = b.objectName e.1 := eq_of_mem_settleMember hv.reachable hx hname
    exact Backend.objectName_inj.1 (hown.symm.trans hname')
  · refine fun e _ => h.imp ?_
    rintro name rfl
    exact b.owns_objectName e.1

/-- Settling the members of a backend is about no stray object. -/
theorem shows_settleHosts {m : Membership} (h : Shows S (Stray b m) w) :
    Shows S (Stray b m)
      ((settleHosts b namespaceName m.entries).run (answer members faults shown) w).2 := by
  rw [settleHosts_eq]
  refine h.run fun x hx name hname => ?_
  obtain ⟨stage, hstage, hx⟩ := mem_trace_tallyEach hx
  have hstate : stage.2.objects.Reachable :=
    Dialogue.stages_keep reachable_answer h.reachable hstage
  have hmember : stage.1 ∈ m.entries := Dialogue.mem_of_mem_stages hstage
  rw [eq_of_mem_settleMember hstate hx hname]
  exact not_stray_of_member ⟨stage.1.1, List.mem_map_of_mem hmember, rfl⟩

/-- A sweep finds the same stray objects in both caches. -/
theorem alike_sweep {m : Membership} (hS : S.WellKept) (h : Shows S (Stray b m) w) :
    AlikeFrozen members faults S (sweep b m) w := by
  have hstrays : (w.objects.list b.scope).filter (isStray b m) =
      (S.list b.scope).filter (isStray b m) :=
    h.reachable.wellKept.filter_list_eq hS
      (fun e he => h.find?_eq e.name (isStray_iff.1 he)) b.scope
  have hsweep : sweepObjects b m (w.objects.list b.scope) = sweepObjects b m (S.list b.scope) := by
    rw [sweepObjects_eq_deletes, sweepObjects_eq_deletes, hstrays]
  refine Dialogue.alike_ask rfl ?_ (Dialogue.alike_of_only ?_)
  · show (sweepObjects b m (w.objects.list b.scope)).bind _ = (sweepObjects b m _).bind _
    rw [hsweep]
  · show Dialogue.Only _ ((sweepObjects b m (w.objects.list b.scope)).bind _)
    rw [sweepObjects_eq_deletes]
    refine (only_tallyEach (fun name => (only_deleteObject name).imp fun c hc v => ?_) _).bind
      fun _ => trivial
    refine answer_eq ?_ v
    cases c with
    | lookup name | list scope => exact hc.elim
    | members b | tell event | get name | create entry | update entry | delete name => rfl

/-! ## Turns and cycles -/

theorem alike_syncBackend (hS : S.WellKept) (h : Shows S (fun name => b.owns name) w) :
    AlikeFrozen members faults S (syncBackend namespaceName b) w := by
  have hstray : Shows S (Stray b (members b)) w := h.imp fun name hname => by
    obtain ⟨host, rfl, -⟩ := hname
    exact b.owns_objectName host
  refine Dialogue.alike_ask rfl rfl ?_
  exact (alike_settleHosts (members b) h).bind
    ((alike_sweep hS (shows_settleHosts hstray)).bind ⟨rfl, rfl⟩)

/-- The turn of a backend is about its own objects. -/
theorem owns_of_mem_syncBackend {bs : List Backend} (hapart : Backend.Apart bs) (hb : b ∈ bs)
    (hw : w.objects.Reachable) {x : Call × Lagged}
    (hx : x ∈ (syncBackend namespaceName b).trace (answer members faults shown) w) {name : String}
    (hname : x.1.object? = some name) : b.owns name :=
  (keepsTo_of_mem_syncBackend hapart hb hx fun _ _ => readsByName hw).owns hname

theorem alike_once {bs : List Backend} (hapart : Backend.Apart bs) (hS : S.WellKept)
    (h : Shows S (fun _ => True) w) : AlikeFrozen members faults S (once namespaceName bs) w := by
  have hturns : AlikeFrozen members faults S (syncBackends namespaceName bs) w := by
    rw [syncBackends_eq]
    refine alike_tallyEach (fun b => Shows S fun name => b.owns name)
      (fun b _ v hv => alike_syncBackend hS hv) ?_ fun b _ => h.imp fun _ _ => trivial
    refine hapart.pairwise_owns.imp_of_mem fun {b c} hb _ hdisjoint v hv hv' => ?_
    refine hv'.run fun x hx name hname => ?_
    exact hdisjoint name (owns_of_mem_syncBackend hapart hb hv.reachable hx hname)
  exact hturns.bind (Dialogue.alike_ask rfl rfl ⟨rfl, rfl⟩)

end

end Lagged

open Lagged

/-- **A cache that stays as it was when the cycle began is as good as one that follows the control
plane.** The cycle makes the same calls with the same contents, events among them, each in the same
state of the control plane, and ends with the same tally, objects and versions. -/
theorem cycle_alike_with_frozen_cache {backends : List Backend} {settings : CycleSettings}
    {r : Reconciler} (h : Reconciler.assemble backends settings = .ok r)
    (members : Backend → Membership) (faults : Nat → Option Failure) {s : ObjectStore}
    (hs : s.Reachable) :
    let live := Lagged.answer members faults fun objects => objects
    let frozen := Lagged.answer members faults fun _ => s
    r.cycle.trace frozen { objects := s } = r.cycle.trace live { objects := s } ∧
    r.cycle.run frozen { objects := s } = r.cycle.run live { objects := s } := by
  obtain ⟨-, hapart, rfl⟩ := Reconciler.assemble_eq_ok_iff.1 h
  intro live frozen
  have hshows : Shows s (fun _ => True) { objects := s } := ⟨hs, fun _ _ => rfl⟩
  have halike : AlikeFrozen members faults s (once settings.namespaceName backends)
      { objects := s } := alike_once hapart hs.wellKept hshows
  exact ⟨halike.trace_eq.symm, halike.run_eq.symm⟩

/-- The third call to the control plane is told that the object is missing. -/
def lastCallFails (n : Nat) : Option Failure :=
  if n = 2 then some (.notFound "cloudmap-x") else none

/-- The frozen cache holds an object as it was before the update. The deletion of the other is tried
in vain. -/
theorem drifted_cycle_alike :
    Reconciler.assemble [Consul.backend, CloudMap.backend] {} =
      .ok ⟨[Consul.backend, CloudMap.backend], {}⟩ ∧
    drifted.Reachable ∧
    let cycle := (⟨[Consul.backend, CloudMap.backend], {}⟩ : Reconciler).cycle
    let live := Lagged.answer oneHost lastCallFails fun objects => objects
    let frozen := Lagged.answer oneHost lastCallFails fun _ => drifted
    (cycle.run live { objects := drifted }).1 = { updated := 1 } ∧
    cycle.trace frozen { objects := drifted } = cycle.trace live { objects := drifted } ∧
    cycle.run frozen { objects := drifted } = cycle.run live { objects := drifted } := by
  have hassemble : Reconciler.assemble [Consul.backend, CloudMap.backend] {} =
      .ok ⟨[Consul.backend, CloudMap.backend], {}⟩ := rfl
  have hstore : drifted.Reachable := ObjectStore.Reachable.empty.replay _
  obtain ⟨htrace, hrun⟩ := cycle_alike_with_frozen_cache hassemble oneHost lastCallFails hstore
  exact ⟨hassemble, hstore, rfl, htrace, hrun⟩

end RegistrySync
