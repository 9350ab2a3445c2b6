import Mathlib.Algebra.GroupWithZero.Nat
import RegistrySync.Proofs.Convergence

/-!
# Quiescence

**Theorem (`cycle_silent_iff_converged`).** A cycle makes no call to the control plane exactly when
all objects of its backends are as the memberships ask; then it changes nothing and reports every
host as unchanged. After one cycle all further cycles are like that.

**Silent parts.** Only calls to the control plane change it, so the parts of a silent cycle all meet
the same store. Therefore a cycle is silent if and only if each of its parts is, run on that store
(`silent_bind`, `silent_tallyEach`).

**One entry** is settled silently when the store has an object that says the same
(`silent_settleMember`), and a **sweep** is silent when no stray object is there (`silent_sweep`).
Both together say that every name of the backend fits (`forall_fits_iff`).
-/

namespace RegistrySync

open RegistrySync.Cycle RegistrySync.Drill

/-- The call is one to the control plane. -/
def Cycle.Call.asksControlPlane : Call → Bool
  | .get _ | .create _ | .update _ | .delete _ => true
  | .members _ | .lookup _ | .list _ | .tell _ => false

/-- All objects of the backends are as the memberships ask. -/
def Converged (namespaceName : String) (members : Backend → Membership) (bs : List Backend)
    (s : ObjectStore) : Prop :=
  ∀ b ∈ bs, ∀ name, b.owns name → Fits namespaceName b (members b) name (s.find? name)

namespace ObjectStore

variable {α β ι : Type} {members : Backend → Membership} {s : ObjectStore}

/-- With `s` as control plane and cache, there is no call to the control plane. -/
def Silent (members : Backend → Membership) (m : Steps α) (s : ObjectStore) : Prop :=
  ∀ x ∈ m.trace (answer members) s, x.1.asksControlPlane = false

theorem answer_of_not_asksControlPlane {c : Call} (hc : c.asksControlPlane = false) :
    (answer members c s).2 = s := by
  cases c with
  | get name | create entry | update entry | delete name => cases hc
  | members b | lookup name | list scope | tell event => rfl

/-- Silent runs change nothing. -/
theorem Silent.run_eq {m : Steps α} (h : Silent members m s) :
    (m.run (answer members) s).2 = s := by
  refine Dialogue.run_keeps_of_trace (P := fun v => v = s) ?_ rfl
  rintro ⟨c, v⟩ hx rfl
  exact answer_of_not_asksControlPlane (h _ hx)

theorem silent_bind {m : Steps α} {f : α → Steps β} : Silent members (m.bind f) s ↔
    Silent members m s ∧ Silent members (f (m.run (answer members) s).1) s := by
  rw [Silent, Dialogue.trace_bind, List.forall_mem_append]
  refine and_congr_right fun hm => ?_
  have hm : Silent members m s := hm
  rw [hm.run_eq, Silent]

theorem silent_ask {c : Call} {next : c.Reply → Steps α} (hc : c.asksControlPlane = false) :
    Silent members (.ask c next) s ↔ Silent members (next (answer members c s).1) s := by
  rw [Silent, Dialogue.trace_ask, List.forall_mem_cons, answer_of_not_asksControlPlane hc, Silent]
  exact and_iff_right hc

theorem silent_done (a : α) : Silent members (.done a) s := fun _ hx => nomatch hx

theorem not_silent_ask {c : Call} {next : c.Reply → Steps α} (hc : c.asksControlPlane = true) :
    ¬ Silent members (.ask c next) s := by
  intro h
  have hfirst : c.asksControlPlane = false := h (c, s) List.mem_cons_self
  rw [hc] at hfirst
  cases hfirst

/-- A loop is silent when it is for every member. -/
theorem silent_tallyEach {body : ι → Steps Tally} {is : List ι} :
    Silent members (tallyEach body is) s ↔ ∀ i ∈ is, Silent members (body i) s := by
  induction is with
  | nil => exact iff_of_true (silent_done _) (by simp)
  | cons i is ih =>
    rw [tallyEach, Dialogue.bind_eq, silent_bind, Dialogue.bind_eq, silent_bind, ih,
      List.forall_mem_cons]
    exact and_congr_right fun _ => and_iff_left (silent_done _)

/-- Members that only count as unchanged add up. -/
theorem run_tallyEach_of_unchanged {body : ι → Steps Tally} (count : ι → Nat) {is : List ι}
    (h : ∀ i ∈ is, (body i).run (answer members) s = ({ unchanged := count i }, s)) :
    (tallyEach body is).run (answer members) s = ({ unchanged := (is.map count).sum }, s) := by
  induction is with
  | nil => rfl
  | cons i is ih =>
    obtain ⟨hi, his⟩ := List.forall_mem_cons.1 h
    simp only [tallyEach, Dialogue.bind_eq, Dialogue.run_bind, hi, ih his]
    rfl

/-! ## One entry -/

section

variable {desired : ServiceEntry}

theorem silent_settleEntry :
    Silent members (settleEntry desired) s ↔ Says desired (s.find? desired.name) := by
  have hlookup : answer members (.lookup desired.name) s = (.ok (s.find? desired.name), s) := rfl
  refine (silent_ask (c := .lookup desired.name) rfl).trans ?_
  rw [hlookup, Dialogue.done_bind]
  cases s.find? desired.name with
  | none =>
    refine iff_of_false (not_silent_ask (c := .create desired) rfl) ?_
    rintro ⟨entry, ⟨⟩, -⟩
  | some entry =>
    by_cases hsame : entry.spec.equivalent desired.spec
    · simp only [hsame, if_true]
      refine iff_of_true ((silent_ask rfl).2 (silent_done _)) ⟨entry, rfl, hsame⟩
    · simp only [hsame, Bool.false_eq_true, if_false]
      refine iff_of_false (not_silent_ask (c := .get desired.name) rfl) ?_
      rintro ⟨entry', heq, hsame'⟩
      cases heq
      exact hsame hsame'

theorem run_settleEntry_of_says (h : Says desired (s.find? desired.name)) :
    (settleEntry desired).run (answer members) s = (.ok .unchanged, s) := by
  obtain ⟨entry, hfind, hsame⟩ := h
  have hlookup : answer members (.lookup desired.name) s = (.ok (some entry), s) := by
    rw [answer, hfind]
  simp only [settleEntry, call, Cycle.tell, Dialogue.bind_eq, Dialogue.ask_bind, Dialogue.done_bind,
    Dialogue.pure_eq_done, Dialogue.run_ask, hlookup, hsame, if_true]
  rfl

end

section

variable {b : Backend} {namespaceName : String} {m : Membership}

theorem silent_settleHosts : Silent members (settleHosts b namespaceName m.entries) s ↔
    ∀ e ∈ m.entries, Says (.desired b namespaceName e.1 e.2) (s.find? (b.objectName e.1)) := by
  rw [settleHosts_eq, silent_tallyEach]
  refine forall₂_congr fun e _ => ?_
  rw [settleMember, Dialogue.bind_eq, silent_bind]
  exact (and_iff_left (silent_done _)).trans silent_settleEntry

theorem run_settleHosts_of_says
    (h : ∀ e ∈ m.entries, Says (.desired b namespaceName e.1 e.2) (s.find? (b.objectName e.1))) :
    (settleHosts b namespaceName m.entries).run (answer members) s =
      ({ unchanged := m.size }, s) := by
  have hsum : (m.entries.map fun _ => 1).sum = m.size := by
    simp [Table.size, List.map_const']
  rw [settleHosts_eq, run_tallyEach_of_unchanged (fun _ => 1), hsum]
  intro e he
  have hentry : (settleHost b namespaceName e.1 e.2).run (answer members) s =
      (.ok .unchanged, s) := run_settleEntry_of_says (h e he)
  rw [settleMember, Dialogue.bind_eq, Dialogue.run_bind, hentry]
  rfl

/-! ## Sweeps -/

/-- A store lists stray objects of a backend if it has any. -/
theorem WellKept.strays_eq_nil_iff (h : s.WellKept) :
    (s.list b.scope).filter (isStray b m) = [] ↔ ∀ name, Stray b m name → s.find? name = none := by
  rw [List.filter_eq_nil_iff]
  constructor
  · intro hlist name hstray
    cases hfind : s.find? name with
    | none => rfl
    | some entry =>
      have hentry : isStray b m entry := isStray_iff.2 (h.named hfind ▸ hstray)
      exact absurd hentry (hlist entry (h.mem_list_of_stray hstray hfind))
  · intro hnone entry hentry hstray
    have hfind := (h.mem_list.1 hentry).1
    rw [hnone _ (isStray_iff.1 hstray)] at hfind
    cases hfind

theorem silent_sweep (hs : s.WellKept) :
    Silent members (sweep b m) s ↔ ∀ name, Stray b m name → s.find? name = none := by
  have hlist : answer members (.list b.scope) s = (.ok (s.list b.scope), s) := rfl
  refine (silent_ask (c := .list b.scope) rfl).trans ?_
  simp only [hlist, Dialogue.done_bind, Dialogue.bind_eq, Dialogue.pure_eq_done]
  rw [silent_bind, sweepObjects_eq_deletes, silent_tallyEach, ← hs.strays_eq_nil_iff,
    ← List.map_eq_nil_iff (f := ServiceEntry.name), List.eq_nil_iff_forall_not_mem]
  refine (and_iff_left (silent_done _)).trans (forall_congr' fun name => ?_)
  exact imp_congr_right fun _ => iff_of_false (not_silent_ask (c := .delete name) rfl) id

theorem run_sweep_of_no_strays (hs : s.WellKept)
    (h : ∀ name, Stray b m name → s.find? name = none) :
    (sweep b m).run (answer members) s = (.ok {}, s) := by
  have hlist : answer members (.list b.scope) s = (.ok (s.list b.scope), s) := rfl
  simp only [sweep, call, Dialogue.bind_eq, Dialogue.ask_bind, Dialogue.done_bind,
    Dialogue.pure_eq_done, Dialogue.run_ask, hlist, Dialogue.run_bind, sweepObjects_eq_deletes,
    hs.strays_eq_nil_iff.2 h]
  rfl

/-! ## Turns and cycles -/

/-- The names of a backend fit when its members are there as desired and nothing is stray. -/
theorem forall_fits_iff {o : String → Option ServiceEntry} :
    (∀ name, b.owns name → Fits namespaceName b m name (o name)) ↔
      (∀ e ∈ m.entries, Says (.desired b namespaceName e.1 e.2) (o (b.objectName e.1))) ∧
      ∀ name, Stray b m name → o name = none := by
  constructor
  · intro h
    refine ⟨fun e he => ?_, fun name hstray => ?_⟩
    · exact (fits_iff_of_member (Table.find?_eq_some_iff.2 he)).1 (h _ (b.owns_objectName e.1))
    · exact (fits_iff_of_stray hstray).1 (h name (owns_iff_member_or_stray.2 (.inr hstray)))
  · rintro ⟨hmembers, hstrays⟩ name hname
    rcases owns_iff_member_or_stray.1 hname with ⟨host, hhost, rfl⟩ | hstray
    · obtain ⟨e, he, rfl⟩ := List.mem_map.1 hhost
      exact (fits_iff_of_member (Table.find?_eq_some_iff.2 he)).2 (hmembers e he)
    · exact (fits_iff_of_stray hstray).2 (hstrays name hstray)

theorem silent_syncBackend (hs : s.WellKept) : Silent members (syncBackend namespaceName b) s ↔
    ∀ name, b.owns name → Fits namespaceName b (members b) name (s.find? name) := by
  refine (silent_ask (c := .members b) rfl).trans ?_
  have hmembers : answer members (.members b) s = (members b, s) := rfl
  simp only [hmembers, Dialogue.done_bind, Dialogue.bind_eq, Dialogue.pure_eq_done]
  rw [silent_bind, silent_bind, silent_settleHosts, silent_sweep hs, forall_fits_iff]
  exact and_congr_right fun _ => and_iff_left (silent_done _)

theorem run_syncBackend_of_fits (hs : s.WellKept)
    (h : ∀ name, b.owns name → Fits namespaceName b (members b) name (s.find? name)) :
    (syncBackend namespaceName b).run (answer members) s =
      ({ unchanged := (members b).size }, s) := by
  obtain ⟨hthere, hnone⟩ := forall_fits_iff.1 h
  have hmembers : answer members (.members b) s = (members b, s) := rfl
  simp only [syncBackend, call, Dialogue.bind_eq, Dialogue.ask_bind, Dialogue.done_bind,
    Dialogue.pure_eq_done, Dialogue.run_ask, hmembers, Dialogue.run_bind,
    run_settleHosts_of_says hthere, run_sweep_of_no_strays hs hnone]
  rfl

variable {bs : List Backend}

theorem silent_once (hs : s.WellKept) : Silent members (once namespaceName bs) s ↔
    Converged namespaceName members bs s := by
  rw [once, Dialogue.bind_eq, silent_bind, syncBackends_eq, silent_tallyEach]
  refine (and_iff_left ?_).trans (forall₂_congr fun b _ => silent_syncBackend hs)
  exact (silent_ask rfl).2 (silent_done _)

theorem run_once_of_converged (hs : s.WellKept) (h : Converged namespaceName members bs s) :
    (once namespaceName bs).run (answer members) s =
      ({ unchanged := (bs.map fun b => (members b).size).sum }, s) := by
  have hturns : (tallyEach (syncBackend namespaceName) bs).run (answer members) s =
      ({ unchanged := (bs.map fun b => (members b).size).sum }, s) :=
    run_tallyEach_of_unchanged (fun b => (members b).size) fun b hb =>
      run_syncBackend_of_fits hs (h b hb)
  rw [once, Dialogue.bind_eq, Dialogue.run_bind, syncBackends_eq, hturns]
  rfl

/-- A cycle in which no call fails converges. -/
theorem converged_run_once (hapart : Backend.Apart bs) (hs : s.Reachable) :
    Converged namespaceName members bs ((once namespaceName bs).run (answer members) s).2 := by
  have hcalm : ∀ c (w : Drill), answer members c w.objects =
      ((Drill.answer members .calm c w).1, (Drill.answer members .calm c w).2.objects) :=
    fun c w => by rw [Drill.answer_calm]
  have hkeeps : ∀ c (w : Drill), w.failed = [] → (Drill.answer members .calm c w).2.failed = [] :=
    fun c w hw => by rwa [Drill.answer_calm]
  have hview := Dialogue.run_view Drill.objects hcalm (once namespaceName bs) { objects := s }
  have hnone := Dialogue.run_keeps hkeeps (once namespaceName bs) (s := { objects := s }) rfl
  obtain ⟨failed, hwork, -⟩ := Drill.does_once members .calm namespaceName hapart
    { objects := s } hs
  have hfailed : failed = [] := List.append_eq_nil_iff.1 (hwork.failed_eq.symm.trans hnone) |>.1
  rw [hfailed] at hwork
  intro b hb name hname
  rw [hview]
  exact hwork.settled name ⟨b, hb, hname⟩ (fun _ hc => nomatch hc) b hb hname

end

end ObjectStore

open ObjectStore

/-- **A cycle is silent exactly when everything has converged**, and then it changes nothing and
reports every host as unchanged. Whatever the objects are, after one cycle all further cycles are
like that. -/
theorem cycle_silent_iff_converged {backends : List Backend} {settings : CycleSettings}
    {r : Reconciler} (h : Reconciler.assemble backends settings = .ok r)
    (members : Backend → Membership) {s : ObjectStore} (hs : s.Reachable) :
    let answer := ObjectStore.answer members
    let converged := Converged settings.namespaceName members backends
    let unchanged : Tally := { unchanged := (backends.map fun b => (members b).size).sum }
    (Silent members r.cycle s ↔ converged s) ∧
    (Silent members r.cycle s ∧ r.cycle.run answer s = (unchanged, s) ↔ converged s) ∧
    ∀ k, let later := Dialogue.after answer r.cycle (k + 1) s
      later = (r.cycle.run answer s).2 ∧ Silent members r.cycle later ∧
        r.cycle.run answer later = (unchanged, later) := by
  obtain ⟨-, hapart, rfl⟩ := Reconciler.assemble_eq_ok_iff.1 h
  intro answer converged unchanged
  have hsilent : ∀ {v : ObjectStore}, v.Reachable →
      (Silent members (once settings.namespaceName backends) v ↔ converged v) :=
    fun hv => silent_once hv.wellKept
  have hrun : ∀ {v : ObjectStore}, v.Reachable → converged v →
      (once settings.namespaceName backends).run answer v = (unchanged, v) :=
    fun hv => run_once_of_converged hv.wellKept
  have hkeeps : ∀ c v, v.Reachable → (answer c v).2.Reachable := fun c v hv => hv.answer members c
  have hfirst : converged ((once settings.namespaceName backends).run answer s).2 :=
    converged_run_once hapart hs
  have hreach := Dialogue.run_keeps hkeeps (once settings.namespaceName backends) hs
  refine ⟨hsilent hs, ⟨fun hboth => (hsilent hs).1 hboth.1, fun hconv => ?_⟩, fun k => ?_⟩
  · exact ⟨(hsilent hs).2 hconv, hrun hs hconv⟩
  · have hlater : Dialogue.after answer (once settings.namespaceName backends) (k + 1) s =
        ((once settings.namespaceName backends).run answer s).2 := by
      induction k with
      | zero => rfl
      | succ k ih => rw [Dialogue.after, ih, hrun hreach hfirst]
    intro later
    have hlater : later = ((once settings.namespaceName backends).run answer s).2 := hlater
    refine ⟨hlater, ?_⟩
    rw [hlater]
    exact ⟨(hsilent hreach).2 hfirst, hrun hreach hfirst⟩

/-- A store that has drifted is not left in silence, but after one cycle it is. -/
theorem drifted_cycle_falls_silent :
    Reconciler.assemble [Consul.backend, CloudMap.backend] {} =
      .ok ⟨[Consul.backend, CloudMap.backend], {}⟩ ∧
    drifted.Reachable ∧
    let r : Reconciler := ⟨[Consul.backend, CloudMap.backend], {}⟩
    let answer := ObjectStore.answer oneHost
    let later := (r.cycle.run answer drifted).2
    ¬ Converged r.settings.namespaceName oneHost r.backends drifted ∧ later.writes = 3 ∧
      Silent oneHost r.cycle later ∧ r.cycle.run answer later = ({ unchanged := 1 }, later) := by
  have hassemble : Reconciler.assemble [Consul.backend, CloudMap.backend] {} =
      .ok ⟨[Consul.backend, CloudMap.backend], {}⟩ := rfl
  have hstore : drifted.Reachable := ObjectStore.Reachable.empty.replay _
  obtain ⟨hiff, -, hlater⟩ := cycle_silent_iff_converged hassemble oneHost hstore
  obtain ⟨-, hsilent, hrun⟩ := hlater 0
  refine ⟨hassemble, hstore, fun hconv => ?_, rfl, hsilent, hrun⟩
  -- The third call of the cycle reads the object that has drifted.
  have hread : (Call.get "consul-a", drifted) ∈ Dialogue.trace (ObjectStore.answer oneHost)
      (Reconciler.cycle ⟨[Consul.backend, CloudMap.backend], {}⟩) drifted :=
    List.mem_of_getElem? (i := 2) rfl
  cases hiff.2 hconv _ hread

end RegistrySync
