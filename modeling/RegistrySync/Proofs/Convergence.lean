import RegistrySync.CloudMap.Collect
import RegistrySync.Consul.Poller
import RegistrySync.Proofs.Drill
import RegistrySync.Proofs.Equivalence

/-!
# Convergence under partial failure

**Theorem (`cycle_converges`).** A cycle brings every object of its backends to what their
memberships ask for, except those that a failed call bears on; an object about which a call failed
stays as it was, and so does every object without an owner. The tally counts each failed call once.

**One entry.** The store is client and cache at once, so the object that is read anew is the one
that was looked up, and its update shows the version that is stored. Settling an entry therefore
fails only when one of its calls is made to fail, and that call changes nothing.

**Whole cycles.** The hosts of a membership have names of their own, and so have the stray objects
that are listed; hosts and strays together are all names of the backend. Backends that are apart
share no name. So all three loops work on disjoint names.
-/

namespace RegistrySync

open RegistrySync.Cycle

namespace Drill

variable {members : Backend → Membership} {plan : FaultPlan}

/-- An object is there and says what the desired entry says. -/
def Says (desired : ServiceEntry) (o : Option ServiceEntry) : Prop :=
  ∃ entry, o = some entry ∧ entry.spec.equivalent desired.spec

/-! ## One entry -/

/-- Run from `w'`, the steps end what was begun at `w`: work on the name of the desired entry, where
a failure is counted once. -/
def Settles (members : Backend → Membership) (plan : FaultPlan) (desired : ServiceEntry)
    (m : Steps (Except Failure Change)) (w w' : Drill) : Prop :=
  ∃ failed,
    Work (· = desired.name) (fun _ => Says desired) w (m.run (answer members plan) w').2 failed ∧
    (hostTally (m.run (answer members plan) w').1).failed = failed.length

section

variable {desired entry : ServiceEntry} {w : Drill}

/-- A call that is made to fail ends the matter; otherwise the steps go on with what is served. -/
theorem settles_ask {c : Call} {next : c.Reply → Steps (Except Failure Change)}
    (hc : c.object? = some desired.name)
    (hrefused : ∀ f reply, f.isNotFound = false → c.refusal? f = some reply →
      ∃ operation, next reply = fail desired.name operation f)
    (hserved : Settles members plan desired (next (ObjectStore.answer members c w.objects).1) w
      { w with objects := (ObjectStore.answer members c w.objects).2, calls := w.calls + 1 }) :
    Settles members plan desired (.ask c next) w w := by
  rw [Settles, Dialogue.run_ask]
  rcases answer_cases members plan c w with ⟨f, reply, hf, hreply, hans⟩ | hans
  · obtain ⟨operation, hnext⟩ := hrefused f reply hf hreply
    refine ⟨[c], ?_, ?_⟩ <;> rw [hans, hnext, run_fail]
    · exact .refused hc _
    · rfl
  · rw [hans]
    exact hserved

/-- What was stored last says what is desired, and it remains to tell of it. -/
theorem settles_put (entry : ServiceEntry) (hname : entry.name = desired.name)
    (hspec : entry.spec = desired.spec) (event : Event) (change : Change) (k : Nat) :
    Settles members plan desired (.ask (.tell event) fun _ => .done (.ok change)) w
      { w with objects := (w.objects.put entry).2, calls := k } := by
  refine ⟨[], ?_, by cases change <;> rfl⟩
  rw [Dialogue.run_ask, answer_tell]
  have hsays : Says desired ((w.objects.put entry).2.find? desired.name) := by
    rw [ObjectStore.find?_put, if_pos hname.symm]
    refine ⟨_, rfl, ?_⟩
    show entry.spec.equivalent desired.spec
    rw [hspec]
    exact desired.spec.equivalent_self
  have hframe : ∀ other ≠ desired.name,
      (w.objects.put entry).2.find? other = w.objects.find? other := by
    intro other hother
    rw [ObjectStore.find?_put, if_neg]
    rwa [hname]
  exact .reached hsays hframe _

theorem settles_createEntry (hfree : w.objects.find? desired.name = none) :
    Settles members plan desired (createEntry desired) w w := by
  refine settles_ask (c := .create desired) rfl ?_ ?_
  · rintro f reply - ⟨⟩
    exact ⟨.create, rfl⟩
  · have hserved : ObjectStore.answer members (.create desired) w.objects =
        (.ok (w.objects.put desired).1, (w.objects.put desired).2) :=
      ObjectStore.create_of_free hfree
    rw [hserved]
    exact settles_put desired rfl rfl _ _ _

theorem settles_updateEntry (hname : entry.name = desired.name)
    (hfind : w.objects.find? desired.name = some entry) :
    Settles members plan desired (updateEntry entry desired) w w := by
  refine settles_ask (c := .update { entry with spec := desired.spec }) (congrArg some hname) ?_ ?_
  · rintro f reply - ⟨⟩
    exact ⟨.update, rfl⟩
  · have hcurrent : w.objects.find? entry.name = some entry := by rw [hname, hfind]
    have hserved : ObjectStore.answer members (.update { entry with spec := desired.spec })
        w.objects = (.ok (w.objects.put { entry with spec := desired.spec }).1,
          (w.objects.put { entry with spec := desired.spec }).2) :=
      ObjectStore.update_of_current hcurrent rfl
    rw [hserved]
    exact settles_put { entry with spec := desired.spec } hname rfl _ _ _

theorem Settles.of_calls {m : Steps (Except Failure Change)} {k : Nat}
    (h : Settles members plan desired m { w with calls := k } { w with calls := k }) :
    Settles members plan desired m w { w with calls := k } := by
  obtain ⟨failed, hwork, hcount⟩ := h
  exact ⟨failed, hwork.of_calls, hcount⟩

theorem settles_replaceEntry (hname : entry.name = desired.name)
    (hfind : w.objects.find? desired.name = some entry) :
    Settles members plan desired (replaceEntry desired) w w := by
  refine settles_ask (c := .get desired.name) rfl ?_ ?_
  · rintro f reply hf ⟨⟩
    refine ⟨.get, ?_⟩
    show (if f.isNotFound then createEntry desired else fail desired.name .get f) = _
    rw [hf]
    rfl
  · have hserved : ObjectStore.answer members (.get desired.name) w.objects =
        (.ok entry, w.objects) := by
      simp [ObjectStore.answer, ObjectStore.get, hfind]
    rw [hserved]
    exact .of_calls (settles_updateEntry hname hfind)

/-- **Settling an entry works on its name and on no other.** -/
theorem settles_settleEntry (hw : w.objects.WellKept) :
    Settles members plan desired (settleEntry desired) w w := by
  refine settles_ask (c := .lookup desired.name) rfl ?_ ?_
  · rintro f reply - ⟨⟩
    exact ⟨.lookup, rfl⟩
  · have hserved : ObjectStore.answer members (.lookup desired.name) w.objects =
        (.ok (w.objects.find? desired.name), w.objects) := rfl
    rw [hserved]
    refine .of_calls ?_
    rw [Dialogue.done_bind]
    cases hfind : w.objects.find? desired.name with
    | none => exact settles_createEntry hfind
    | some entry =>
      by_cases hsame : entry.spec.equivalent desired.spec
      · simp only [hsame, if_true]
        refine ⟨[], ?_, rfl⟩
        rw [Dialogue.bind_eq, run_tell]
        exact .reached ⟨entry, hfind, hsame⟩ (fun _ _ => rfl) _
      · simp only [hsame, Bool.false_eq_true, if_false]
        exact settles_replaceEntry (hw.named hfind) hfind

end

section

variable (members : Backend → Membership) (plan : FaultPlan)

/-- The same for a host of a membership. -/
theorem does_settleMember (b : Backend) (namespaceName : String) (m : String × List Endpoint) :
    Does members plan (· = b.objectName m.1)
      (fun _ => Says (.desired b namespaceName m.1 m.2)) (settleMember b namespaceName m) := by
  intro w hw
  obtain ⟨failed, hwork, hcount⟩ : Settles members plan (.desired b namespaceName m.1 m.2)
    (settleEntry (.desired b namespaceName m.1 m.2)) w w := settles_settleEntry hw.wellKept
  refine ⟨failed, ?_, ?_⟩
  · rw [settleMember, Dialogue.bind_eq, Dialogue.run_bind]
    exact hwork
  · rw [settleMember, Dialogue.bind_eq, Dialogue.run_bind]
    exact hcount

/-! ## Sweeps -/

theorem does_deleteObject (name : String) :
    Does members plan (· = name) (fun _ o => o = none) (deleteObject name) := by
  intro w _
  rw [deleteObject, Dialogue.bind_eq, call, Dialogue.ask_bind, Dialogue.run_ask]
  rcases answer_cases members plan (.delete name) w with ⟨f, reply, hf, ⟨⟩, hans⟩ | hans
  · refine ⟨[.delete name], ?_, ?_⟩ <;>
      simp only [hans, hf, Dialogue.bind_eq, Dialogue.done_bind, run_tell, Bool.false_eq_true,
        if_false]
    · exact .refused rfl _
    · rfl
  · have hgone : (w.objects.delete name).2.find? name = none := by
      rw [ObjectStore.find?_delete, if_pos rfl]
    have hframe : ∀ other ≠ name,
        (w.objects.delete name).2.find? other = w.objects.find? other := by
      intro other hother
      rw [ObjectStore.find?_delete, if_neg hother]
    have hserved : ObjectStore.answer members (.delete name) w.objects =
        w.objects.delete name := rfl
    rw [hans, hserved]
    cases hfind : w.objects.find? name with
    | none =>
      have hreply : (w.objects.delete name).1 = .error (.notFound name) := by
        simp [ObjectStore.delete, hfind]
      refine ⟨[], ?_, ?_⟩ <;> rw [hreply]
      · exact .reached hgone hframe _
      · rfl
    | some entry =>
      have hreply : (w.objects.delete name).1 = .ok () := by simp [ObjectStore.delete, hfind]
      refine ⟨[], ?_, ?_⟩ <;> rw [hreply, Dialogue.done_bind, Dialogue.bind_eq, run_tell]
      · exact .reached hgone hframe _
      · rfl

/-- Sweeping what the store lists takes every stray name: no others are there. -/
theorem work_sweepObjects (b : Backend) (m : Membership) {w : Drill} (hw : w.objects.Reachable) :
    ∃ failed, Work (Stray b m) (fun _ o => o = none) w
        ((sweepObjects b m (w.objects.list b.scope)).run (answer members plan) w).2 failed ∧
      ((sweepObjects b m (w.objects.list b.scope)).run (answer members plan) w).1.failed =
        failed.length := by
  have hkept := hw.wellKept
  rw [sweepObjects_eq_deletes]
  have hdisjoint : (((w.objects.list b.scope).filter (isStray b m)).map (·.name)).Pairwise
      fun listed listed' => ∀ name, name = listed → ¬ name = listed' :=
    ((hkept.nodup_list b.scope).sublist (List.filter_sublist.map _)).imp
      fun hne name h h' => hne (h.symm.trans h')
  obtain ⟨failed, hwork, hcount⟩ := does_tallyEach hdisjoint
    (fun name _ => does_deleteObject members plan name) w hw
  refine ⟨failed, hwork.widen ?_ ?_ ?_, hcount⟩
  · rintro name ⟨listed, hlisted, rfl⟩
    obtain ⟨entry, hentry, rfl⟩ := List.mem_map.1 hlisted
    exact isStray_iff.1 (List.mem_filter.1 hentry).2
  · rintro name o ⟨listed, hlisted, hname⟩ hgoal
    exact hgoal listed hlisted hname
  · -- A stray name that is not listed is not in the store at all.
    intro name hstray hunlisted
    cases hfind : w.objects.find? name with
    | none => rfl
    | some entry =>
      have hname := hkept.named hfind
      have hlisted : entry ∈ w.objects.list b.scope := hkept.mem_list_of_stray hstray hfind
      have hentry : isStray b m entry := isStray_iff.2 (hname ▸ hstray)
      have hmem := List.mem_map_of_mem (f := ServiceEntry.name)
        (List.mem_filter.2 ⟨hlisted, hentry⟩)
      exact absurd ⟨entry.name, hmem, hname.symm⟩ hunlisted

/-- A sweep works on the stray names, unless the listing fails. -/
theorem does_sweep (b : Backend) (m : Membership) :
    Does members plan (Stray b m) (fun _ o => o = none)
      ((sweep b m).bind fun swept => .done (sweepTally swept)) := by
  intro w hw
  rw [sweep, Dialogue.bind_eq, call, Dialogue.ask_bind, Dialogue.ask_bind, Dialogue.run_ask]
  rcases answer_cases members plan (.list b.scope) w with ⟨f, reply, hf, ⟨⟩, hans⟩ | hans
  · refine ⟨[.list b.scope], ?_, ?_⟩ <;>
      rw [hans, Dialogue.done_bind, Dialogue.run_bind, run_fail]
    · refine ⟨rfl, ?_, fun _ _ => rfl, fun _ _ _ _ => rfl, ?_⟩
      · intro c hc name hname
        rw [List.mem_singleton.1 hc] at hname
        cases hname
      · -- The failed listing bears on every name of the backend.
        rintro name ⟨host, rfl, -⟩ hnone
        exact absurd (Backend.owns_iff_begins.1 (b.owns_objectName host))
          (hnone _ List.mem_cons_self)
    · rfl
  · have hserved : ObjectStore.answer members (.list b.scope) w.objects =
        (.ok (w.objects.list b.scope), w.objects) := rfl
    have hw' : ({ w with calls := w.calls + 1 } : Drill).objects.Reachable := hw
    obtain ⟨failed, hwork, hcount⟩ := work_sweepObjects members plan b m hw'
    rw [hans, hserved]
    refine ⟨failed, ?_, ?_⟩ <;> simp only [Dialogue.bind_eq, Dialogue.pure_eq_done,
      Dialogue.done_bind, Dialogue.run_bind, Dialogue.run_done]
    · exact hwork.of_calls
    · exact hcount

/-! ## Turns and cycles -/

/-- What shall be there under a name, if it is the name of a host of the backend: for a member an
object that says what is desired for it, and for others nothing. -/
def Fits (namespaceName : String) (b : Backend) (m : Membership) (name : String)
    (o : Option ServiceEntry) : Prop :=
  ∀ host, name = b.objectName host → match m.find? host with
    | some endpoints => Says (.desired b namespaceName host endpoints) o
    | none => o = none

section

variable {namespaceName : String} {b : Backend} {m : Membership} {o : Option ServiceEntry}

theorem fits_iff_of_member {host : String} {endpoints : List Endpoint}
    (h : m.find? host = some endpoints) :
    Fits namespaceName b m (b.objectName host) o ↔
      Says (.desired b namespaceName host endpoints) o := by
  constructor
  · intro hfits
    have hhost := hfits host rfl
    rwa [h] at hhost
  · intro hsays host' hname
    rw [← Backend.objectName_inj.1 hname, h]
    exact hsays

/-- Nothing shall be there under a stray name. -/
theorem fits_iff_of_stray {name : String} (h : Stray b m name) :
    Fits namespaceName b m name o ↔ o = none := by
  obtain ⟨host, rfl, hgone⟩ := h
  rw [Table.contains_eq_false_iff] at hgone
  constructor
  · intro hfits
    have hhost := hfits host rfl
    rwa [hgone] at hhost
  · rintro rfl host' hname
    rw [← Backend.objectName_inj.1 hname, hgone]

end

theorem does_settleHosts (namespaceName : String) (b : Backend) (m : Membership) :
    Does members plan (fun name => ∃ host ∈ m.keys, name = b.objectName host)
      (Fits namespaceName b m) (settleHosts b namespaceName m.entries) := by
  have hdisjoint : m.entries.Pairwise fun e e' => ∀ name,
      name = b.objectName e.1 → ¬ name = b.objectName e'.1 := by
    refine (List.pairwise_map.1 m.keys_nodup).imp fun {e e'} hne name h h' => ?_
    exact hne (Backend.objectName_inj.1 (h.symm.trans h'))
  rw [settleHosts_eq]
  have hhosts := does_tallyEach hdisjoint fun e _ =>
    does_settleMember members plan b namespaceName e
  refine hhosts.imp ?_ ?_
  · intro name
    simp [Table.keys]
  · rintro name o ⟨e, he, rfl⟩ hgoal
    exact (fits_iff_of_member (Table.find?_eq_some_iff.2 he)).2 (hgoal e he rfl)

/-- **The turn of a backend works on its names and on no others.** -/
theorem does_syncBackend (namespaceName : String) (b : Backend) :
    Does members plan (fun name => b.owns name) (Fits namespaceName b (members b))
      (syncBackend namespaceName b) := by
  have hsplit : syncBackend namespaceName b = .ask (.members b) fun m =>
      (settleHosts b namespaceName m.entries).bind fun settled =>
        ((sweep b m).bind fun swept => .done (sweepTally swept)).bind fun others =>
          .done (settled + others) := by
    simp [syncBackend, call, Dialogue.bind_assoc]
  have hboth := (does_settleHosts members plan namespaceName b (members b)).append
    (does_sweep members plan b (members b)) fun name => not_stray_of_member
  have hgoal : ∀ name o, ((∃ host ∈ (members b).keys, name = b.objectName host) ∨
      Stray b (members b) name) →
      ((∃ host ∈ (members b).keys, name = b.objectName host) →
        Fits namespaceName b (members b) name o) ∧ (Stray b (members b) name → o = none) →
      Fits namespaceName b (members b) name o := by
    rintro name o (hmember | hstray) ⟨hfits, hgone⟩
    · exact hfits hmember
    · exact (fits_iff_of_stray hstray).2 (hgone hstray)
  intro w hw
  obtain ⟨failed, hwork, hcount⟩ := hboth.imp (fun name => owns_iff_member_or_stray.symm) hgoal
    { w with calls := w.calls + 1 } hw
  rw [hsplit, Dialogue.run_ask, answer_members]
  exact ⟨failed, hwork.of_calls, hcount⟩

/-- **A cycle works on all names that its backends own.** -/
theorem does_once (namespaceName : String) {bs : List Backend} (hapart : Backend.Apart bs) :
    Does members plan (fun name => ∃ b ∈ bs, b.owns name)
      (fun name o => ∀ b ∈ bs, b.owns name → Fits namespaceName b (members b) name o)
      (once namespaceName bs) := by
  intro w hw
  obtain ⟨failed, hwork, hcount⟩ := does_tallyEach hapart.pairwise_owns
    (fun b _ => does_syncBackend members plan namespaceName b) w hw
  rw [once, syncBackends_eq]
  refine ⟨failed, ?_, ?_⟩ <;> rw [Dialogue.bind_eq, Dialogue.run_bind, Dialogue.bind_eq, run_tell]
  · exact ⟨hwork.failed_eq, hwork.own, hwork.frame, hwork.troubled, hwork.settled⟩
  · exact hcount

end

end Drill

open Drill

/-- **A cycle converges, but for what failed calls bear on.** -/
theorem cycle_converges {backends : List Backend} {settings : CycleSettings} {r : Reconciler}
    (h : Reconciler.assemble backends settings = .ok r) (members : Backend → Membership)
    (plan : FaultPlan) {s : ObjectStore} (hs : s.Reachable) :
    let outcome := r.cycle.run (Drill.answer members plan) { objects := s }
    let after := outcome.2.objects
    let failed := outcome.2.failed
    let fits := fun name => ∀ b ∈ backends, b.owns name →
      Fits settings.namespaceName b (members b) name (after.find? name)
    (∀ name, (∀ c ∈ failed, ¬ c.BearsOn name) → fits name) ∧
    (∀ c ∈ failed, ∀ name, c.object? = some name → after.find? name = s.find? name) ∧
    (∀ name, (∀ b ∈ backends, ¬ b.owns name) → after.find? name = s.find? name) ∧
    outcome.1.failed = failed.length ∧
    (failed = [] → outcome.1.failed = 0 ∧ ∀ name, fits name) ∧
    after.Reachable := by
  obtain ⟨-, hapart, rfl⟩ := Reconciler.assemble_eq_ok_iff.1 h
  obtain ⟨failed, hwork, hcount⟩ := does_once members plan settings.namespaceName hapart
    { objects := s } hs
  intro outcome after failed' fits
  have hfailed : failed' = failed := by
    rw [← List.append_nil failed]
    exact hwork.failed_eq
  have hfits : ∀ name, (∀ c ∈ failed', ¬ c.BearsOn name) → fits name := by
    intro name hnone b hb hname
    rw [hfailed] at hnone
    exact hwork.settled name ⟨b, hb, hname⟩ hnone b hb hname
  refine ⟨hfits, ?_, fun name hname => ?_, ?_, fun hnone => ⟨?_, fun name => ?_⟩, ?_⟩
  · rw [hfailed]
    exact hwork.troubled
  · exact hwork.frame name fun ⟨b, hb, hn⟩ => hname b hb hn
  · rw [hfailed]
    exact hcount
  · rw [hfailed] at hnone
    rw [hnone] at hcount
    exact hcount
  · exact hfits name (by simp [hnone])
  · exact Dialogue.run_keeps reachable_answer _ hs

/-- One registry has the host `a`, all others are empty. -/
def oneHost (b : Backend) : Membership :=
  if b.name = Consul.backend.name then Table.empty.insert "a" [] else .empty

/-- An object for that host which says something else, and one for a host that is gone. -/
def drifted : ObjectStore :=
  ObjectStore.replay {} [.seed ⟨{ name := "consul-a" }, { hosts := ["z"], resolution := .static }⟩,
    .seed ⟨{ name := "cloudmap-x" }, { hosts := ["x"], resolution := .dns }⟩]

/-- The second call fails. -/
def shaken : FaultPlan where
  failure? n := if n = 1 then some (.controlPlane "unreachable") else none
  not_isNotFound h := by
    split at h <;> cases h
    rfl

theorem shaken_cycle_converges :
    Reconciler.assemble [Consul.backend, CloudMap.backend] {} =
      .ok ⟨[Consul.backend, CloudMap.backend], {}⟩ ∧
    drifted.Reachable ∧
    let outcome := (⟨[Consul.backend, CloudMap.backend], {}⟩ : Reconciler).cycle.run
      (Drill.answer oneHost shaken) { objects := drifted }
    outcome.2.failed = [.lookup "consul-a"] ∧ outcome.1.failed = 1 ∧
      outcome.2.objects.find? "consul-a" = drifted.find? "consul-a" ∧
      outcome.2.objects.find? "cloudmap-x" = none := by
  have hassemble : Reconciler.assemble [Consul.backend, CloudMap.backend] {} =
      .ok ⟨[Consul.backend, CloudMap.backend], {}⟩ := rfl
  have hstore : drifted.Reachable := ObjectStore.Reachable.empty.replay _
  refine ⟨hassemble, hstore, ?_⟩
  intro outcome
  have hfailed : outcome.2.failed = [.lookup "consul-a"] := rfl
  obtain ⟨hfits, htroubled, -, hcount, -, -⟩ := cycle_converges hassemble oneHost shaken hstore
  rw [hfailed] at hfits htroubled hcount
  refine ⟨hfailed, hcount, htroubled _ List.mem_cons_self _ rfl, ?_⟩
  have hnone : ∀ c ∈ [Call.lookup "consul-a"], ¬ c.BearsOn "cloudmap-x" := by
    intro c hc hbears
    cases List.mem_singleton.1 hc
    exact absurd (Option.some.inj hbears) (by decide)
  exact hfits "cloudmap-x" hnone CloudMap.backend (by simp) rfl "x" rfl

end RegistrySync
