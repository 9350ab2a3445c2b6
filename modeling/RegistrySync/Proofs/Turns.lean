import RegistrySync.Proofs.Ownership
import RegistrySync.Proofs.Trace
import RegistrySync.Reconcile.Reconciler

/-!
# The turns of a cycle

A cycle takes its backends in turn, a turn takes the hosts in turn and then the listed objects, and
each time the tallies are added up: all three loops are `Cycle.tallyEach`. So the calls of a cycle
are those of its turns, one after the other (`Cycle.trace_once`), and the calls of a turn are those
for its hosts and then those of its sweep (`Cycle.trace_syncBackend`).

**One host.** `Cycle.Settling` lists the calls that settling an entry can make. The one update among
them follows at once on the read of the same name, and writes what was read with the desired spec.
Whatever is replied, the first call is the look-up and all others serve the entry
(`Cycle.settleEntry_eq`).

**One object.** A sweep is a loop of deletions, over the names of the listed objects of the backend
whose host is not a member (`Cycle.sweepObjects_eq_deletes`).

**One turn.** `Cycle.Acting` lists the calls of a turn, and it leaves no call out
(`Cycle.acting_of_mem_syncBackend`). What is claimed of all calls of a cycle is read off from it, as
in `Cycle.read_of_update_mem`.
-/

namespace RegistrySync

/-- The object that an event is about. -/
def Event.object? : Event → Option String
  | .created name | .updated name | .unchanged name | .deleted name | .failed name _ _ => some name
  | .started _ | .cycleCompleted _ | .stopped _ => none

theorem Tally.empty_add (t : Tally) : ({} : Tally) + t = t := by
  cases t
  show (⟨_, _, _, _, _⟩ : Tally) = _
  simp only [Nat.zero_add]

namespace Cycle

variable {σ ι : Type}

/-- The object that a call reads or writes. -/
def Call.object? : Call → Option String
  | .lookup name | .get name | .delete name => some name
  | .create entry | .update entry => some entry.name
  | .members _ | .list _ | .tell _ => none

theorem only_call_bind {α : Type} {P : Call → Prop} {c : Call} {next : c.Reply → Steps α}
    (hc : P c) (hnext : ∀ r, (next r).Only P) : ((call c).bind next).Only P :=
  ⟨hc, hnext⟩

/-! ## Loops -/

/-- Do `body` for each member of a list and add up the tallies. -/
def tallyEach (body : ι → Steps Tally) : List ι → Steps Tally
  | [] => return {}
  | i :: is => do
    let first ← body i
    let others ← tallyEach body is
    return first + others

/-- What settling one host of a backend adds to the tally. -/
def settleMember (b : Backend) (namespaceName : String) (m : String × List Endpoint) :
    Steps Tally := do
  return hostTally (← settleHost b namespaceName m.1 m.2)

theorem settleHosts_eq (b : Backend) (namespaceName : String) (ms : List (String × List Endpoint)) :
    settleHosts b namespaceName ms = tallyEach (settleMember b namespaceName) ms := by
  induction ms with
  | nil => rfl
  | cons m ms ih => simp [settleHosts, tallyEach, settleMember, ih, Dialogue.bind_assoc]

theorem syncBackends_eq (namespaceName : String) (bs : List Backend) :
    syncBackends namespaceName bs = tallyEach (syncBackend namespaceName) bs := by
  induction bs with
  | nil => rfl
  | cons b bs ih => rw [syncBackends, tallyEach, ih]

theorem trace_tallyEach (answer : Answerer Call.Reply σ) (body : ι → Steps Tally) (is : List ι)
    (s : σ) : (tallyEach body is).trace answer s =
      (Dialogue.stages answer body is s).flatMap fun stage =>
        (body stage.1).trace answer stage.2 := by
  induction is generalizing s with
  | nil => rfl
  | cons i is ih => simp [tallyEach, Dialogue.stages, Dialogue.trace_bind, ih]

theorem run_tallyEach_cons (answer : Answerer Call.Reply σ) (body : ι → Steps Tally) (i : ι)
    (is : List ι) (s : σ) : ((tallyEach body (i :: is)).run answer s).2 =
      ((tallyEach body is).run answer ((body i).run answer s).2).2 := by
  simp [tallyEach, Dialogue.run_bind]

theorem trace_tallyEach_append (answer : Answerer Call.Reply σ) (body : ι → Steps Tally)
    (is js : List ι) (s : σ) : (tallyEach body (is ++ js)).trace answer s =
      (tallyEach body is).trace answer s ++
        (tallyEach body js).trace answer ((tallyEach body is).run answer s).2 := by
  induction is generalizing s with
  | nil => rfl
  | cons i is ih =>
    rw [run_tallyEach_cons]
    simp [tallyEach, Dialogue.trace_bind, ih]

theorem only_tallyEach {P : Call → Prop} {body : ι → Steps Tally} (h : ∀ i, (body i).Only P)
    (is : List ι) : (tallyEach body is).Only P := by
  induction is with
  | nil => trivial
  | cons i is ih => exact (h i).bind fun _ => ih.bind fun _ => trivial

theorem mem_trace_tallyEach {answer : Answerer Call.Reply σ} {body : ι → Steps Tally}
    {is : List ι} {s : σ} {x : Call × σ} (h : x ∈ (tallyEach body is).trace answer s) :
    ∃ stage ∈ Dialogue.stages answer body is s, x ∈ (body stage.1).trace answer stage.2 := by
  rw [trace_tallyEach] at h
  exact List.mem_flatMap.1 h

/-- When the answerers are alike for each member from every state that fits it, and the others leave
a fitting state so, they are alike for all members. -/
theorem alike_tallyEach {answer answer' : Answerer Call.Reply σ} {body : ι → Steps Tally}
    (fits : ι → σ → Prop) {is : List ι}
    (halike : ∀ i ∈ is, ∀ s, fits i s → Dialogue.Alike answer answer' (body i) s)
    (hkeep : is.Pairwise fun i j => ∀ s, fits i s → fits j s → fits j ((body i).run answer s).2)
    {s : σ} (hs : ∀ i ∈ is, fits i s) : Dialogue.Alike answer answer' (tallyEach body is) s := by
  induction is generalizing s with
  | nil => exact ⟨rfl, rfl⟩
  | cons i is ih =>
    obtain ⟨hi, his⟩ := List.forall_mem_cons.1 hs
    obtain ⟨hkeepi, hkeep⟩ := List.pairwise_cons.1 hkeep
    obtain ⟨halikei, halike⟩ := List.forall_mem_cons.1 halike
    have hnext : ∀ j ∈ is, fits j ((body i).run answer s).2 := fun j hj =>
      hkeepi j hj s hi (his j hj)
    exact (halikei s hi).bind ((ih halike hkeep hnext).bind ⟨rfl, rfl⟩)

/-- The calls for one member are made in one stretch. -/
theorem trace_stage_within {answer : Answerer Call.Reply σ} {body : ι → Steps Tally} {is : List ι}
    {s : σ} {stage : ι × σ} (h : stage ∈ Dialogue.stages answer body is s) :
    (body stage.1).trace answer stage.2 <:+: (tallyEach body is).trace answer s := by
  rw [trace_tallyEach, List.flatMap_def]
  exact List.infix_of_mem_flatten (List.mem_map_of_mem h)

/-- The turns of a cycle: its backends, each with the state in which its turn begins. -/
def turns (namespaceName : String) (answer : Answerer Call.Reply σ) (bs : List Backend) (s : σ) :
    List (Backend × σ) :=
  Dialogue.stages answer (syncBackend namespaceName) bs s

/-- A cycle makes the calls of its turns, and at its end tells that it is complete. -/
theorem trace_once (namespaceName : String) (answer : Answerer Call.Reply σ) (bs : List Backend)
    (s : σ) : ∃ w, (once namespaceName bs).trace answer s =
      ((turns namespaceName answer bs s).flatMap fun turn =>
        (syncBackend namespaceName turn.1).trace answer turn.2) ++
        [(.tell (.cycleCompleted ((once namespaceName bs).run answer s).1), w)] := by
  refine ⟨((syncBackends namespaceName bs).run answer s).2, ?_⟩
  simp [once, tell, call, Dialogue.trace_bind, Dialogue.run_bind, syncBackends_eq, trace_tallyEach,
    turns]

/-- A turn reads the membership, settles its hosts and then sweeps. -/
theorem trace_syncBackend (namespaceName : String) (answer : Answerer Call.Reply σ) (b : Backend)
    (s : σ) : ∃ w, (syncBackend namespaceName b).trace answer s =
      (.members b, s) ::
        (tallyEach (settleMember b namespaceName) (answer (.members b) s).1.entries).trace answer
          (answer (.members b) s).2 ++
        (sweep b (answer (.members b) s).1).trace answer w := by
  refine ⟨((settleHosts b namespaceName (answer (.members b) s).1.entries).run answer
    (answer (.members b) s).2).2, ?_⟩
  simp [syncBackend, call, Dialogue.trace_bind, settleHosts_eq]

/-! ## One host -/

/-- What is told of a creation. -/
def creationEvent (entry : ServiceEntry) : Except Failure ServiceEntry → Event
  | .ok _ => .created entry.name
  | .error f => .failed entry.name .create f.message

/-- What is told of an update. -/
def updateEvent (desired : ServiceEntry) : Except Failure ServiceEntry → Event
  | .ok _ => .updated desired.name
  | .error f => .failed desired.name .update f.message

theorem trace_fail {α : Type} (answer : Answerer Call.Reply σ) (name : String)
    (operation : Operation) (failure : Failure) (s : σ) :
    (fail name operation failure : Steps (Except Failure α)).trace answer s =
      [(.tell (.failed name operation failure.message), s)] := rfl

theorem trace_createEntry (answer : Answerer Call.Reply σ) (entry : ServiceEntry) (s : σ) :
    (createEntry entry).trace answer s =
      [(.create entry, s), (.tell (creationEvent entry (answer (.create entry) s).1),
        (answer (.create entry) s).2)] := by
  cases h : (answer (.create entry) s).1 <;>
    simp [createEntry, call, fail, Cycle.tell, creationEvent, h]

theorem trace_updateEntry (answer : Answerer Call.Reply σ) (entry desired : ServiceEntry) (s : σ) :
    (updateEntry entry desired).trace answer s =
      let c := .update { entry with spec := desired.spec }
      [(c, s), (.tell (updateEvent desired (answer c s).1), (answer c s).2)] := by
  cases h : (answer (.update { entry with spec := desired.spec }) s).1 <;>
    simp [updateEntry, call, fail, Cycle.tell, updateEvent, h]

section

variable {answer : Answerer Call.Reply σ} {desired entry : ServiceEntry} {f : Failure} {s : σ}

theorem trace_replaceEntry_of_ok (h : (answer (.get desired.name) s).1 = .ok entry) :
    (replaceEntry desired).trace answer s = (.get desired.name, s) ::
      (updateEntry entry desired).trace answer (answer (.get desired.name) s).2 := by
  simp [replaceEntry, call, h]

theorem trace_replaceEntry_of_gone (h : (answer (.get desired.name) s).1 = .error f)
    (hf : f.isNotFound) : (replaceEntry desired).trace answer s = (.get desired.name, s) ::
      (createEntry desired).trace answer (answer (.get desired.name) s).2 := by
  simp [replaceEntry, call, h, hf]

theorem trace_replaceEntry_of_error (h : (answer (.get desired.name) s).1 = .error f)
    (hf : ¬ f.isNotFound) : (replaceEntry desired).trace answer s = [(.get desired.name, s),
      (.tell (.failed desired.name .get f.message), (answer (.get desired.name) s).2)] := by
  simp [replaceEntry, call, h, hf, trace_fail]

theorem trace_settleEntry_of_error (h : (answer (.lookup desired.name) s).1 = .error f) :
    (settleEntry desired).trace answer s = [(.lookup desired.name, s),
      (.tell (.failed desired.name .lookup f.message), (answer (.lookup desired.name) s).2)] := by
  simp [settleEntry, call, h, trace_fail]

theorem trace_settleEntry_of_none (h : (answer (.lookup desired.name) s).1 = .ok none) :
    (settleEntry desired).trace answer s = (.lookup desired.name, s) ::
      (createEntry desired).trace answer (answer (.lookup desired.name) s).2 := by
  simp [settleEntry, call, h]

theorem trace_settleEntry_of_same (h : (answer (.lookup desired.name) s).1 = .ok (some entry))
    (hsame : entry.spec.equivalent desired.spec) : (settleEntry desired).trace answer s =
      [(.lookup desired.name, s),
        (.tell (.unchanged desired.name), (answer (.lookup desired.name) s).2)] := by
  simp [settleEntry, call, Cycle.tell, h, hsame]

theorem trace_settleEntry_of_other (h : (answer (.lookup desired.name) s).1 = .ok (some entry))
    (hother : ¬ entry.spec.equivalent desired.spec) : (settleEntry desired).trace answer s =
      (.lookup desired.name, s) ::
        (replaceEntry desired).trace answer (answer (.lookup desired.name) s).2 := by
  simp [settleEntry, call, h, hother]

end

/-! ## The calls for one host -/

/-- A call to the control plane for this entry, which writes only what is desired, or an event about
it. -/
def Call.Serves (desired : ServiceEntry) : Call → Prop
  | .get name => name = desired.name
  | .create entry => entry = desired
  | .update entry => entry.spec = desired.spec
  | .tell event => event.object? = some desired.name
  | .members _ | .lookup _ | .list _ | .delete _ => False

theorem only_createEntry (desired : ServiceEntry) :
    (createEntry desired).Only (Call.Serves desired) := by
  refine only_call_bind rfl fun reply => ?_
  cases reply with
  | error f => exact only_call_bind rfl fun _ => trivial
  | ok stored => exact only_call_bind rfl fun _ => trivial

theorem only_replaceEntry (desired : ServiceEntry) :
    (replaceEntry desired).Only (Call.Serves desired) := by
  refine only_call_bind rfl fun reply => ?_
  cases reply with
  | error f =>
    show Dialogue.Only _ (if f.isNotFound then createEntry desired else fail desired.name .get f)
    split
    · exact only_createEntry desired
    · exact only_call_bind rfl fun _ => trivial
  | ok entry =>
    refine only_call_bind rfl fun reply => ?_
    cases reply with
    | error f => exact only_call_bind rfl fun _ => trivial
    | ok stored => exact only_call_bind rfl fun _ => trivial

/-- Settling an entry looks it up, and after that it only serves the entry. -/
theorem settleEntry_eq (desired : ServiceEntry) : ∃ next,
    settleEntry desired = .ask (.lookup desired.name) next ∧
      ∀ reply, (next reply).Only (Call.Serves desired) := by
  refine ⟨_, rfl, fun reply => ?_⟩
  rcases reply with f | _ | entry
  · exact only_call_bind rfl fun _ => trivial
  · exact only_createEntry desired
  · show Dialogue.Only _ (if entry.spec.equivalent desired.spec then _ else replaceEntry desired)
    split
    · exact only_call_bind rfl fun _ => trivial
    · exact only_replaceEntry desired

/-- The calls that settling an entry can make. -/
inductive Settling (answer : Answerer Call.Reply σ) (desired : ServiceEntry) (s : σ) :
    Call × σ → Prop
  | lookup (w : σ) : Settling answer desired s (.lookup desired.name, w)
  | create (w : σ) : Settling answer desired s (.create desired, w)
  | get (w : σ) : Settling answer desired s (.get desired.name, w)
  /-- An update follows at once on the read of the same name. -/
  | update {w : σ} {entry : ServiceEntry} (hget : (answer (.get desired.name) w).1 = .ok entry)
      (hnext : [(.get desired.name, w), (.update { entry with spec := desired.spec },
        (answer (.get desired.name) w).2)] <:+: (settleEntry desired).trace answer s) :
      Settling answer desired s
        (.update { entry with spec := desired.spec }, (answer (.get desired.name) w).2)
  | tell (event : Event) (w : σ) : Settling answer desired s (.tell event, w)

section

variable {answer : Answerer Call.Reply σ} {desired : ServiceEntry} {s w : σ} {x : Call × σ}

/-- A call and what is told of it. -/
theorem settling_of_mem_told {c : Call} {event : Event} {v : σ}
    (hc : Settling answer desired s (c, w)) (h : x ∈ [(c, w), (.tell event, v)]) :
    Settling answer desired s x := by
  rcases List.mem_cons.1 h with rfl | h
  · exact hc
  · rw [List.mem_singleton.1 h]
    exact .tell event v

theorem settling_of_mem_createEntry (h : x ∈ (createEntry desired).trace answer w) :
    Settling answer desired s x := by
  rw [trace_createEntry] at h
  exact settling_of_mem_told (.create w) h

theorem settling_of_mem_replaceEntry
    (hwithin : (replaceEntry desired).trace answer w <:+: (settleEntry desired).trace answer s)
    (h : x ∈ (replaceEntry desired).trace answer w) : Settling answer desired s x := by
  cases hget : (answer (.get desired.name) w).1 with
  | error f =>
    by_cases hf : f.isNotFound
    · rw [trace_replaceEntry_of_gone hget hf] at h
      rcases List.mem_cons.1 h with rfl | h
      · exact .get w
      · exact settling_of_mem_createEntry h
    · rw [trace_replaceEntry_of_error hget hf] at h
      exact settling_of_mem_told (.get w) h
  | ok entry =>
    rw [trace_replaceEntry_of_ok hget, trace_updateEntry] at h hwithin
    rcases List.mem_cons.1 h with rfl | h
    · exact .get w
    · exact settling_of_mem_told (.update hget (.trans ⟨[], [_], rfl⟩ hwithin)) h

/-- **Settling an entry makes no other calls.** -/
theorem settling_of_mem_settleEntry (h : x ∈ (settleEntry desired).trace answer s) :
    Settling answer desired s x := by
  cases hcached : (answer (.lookup desired.name) s).1 with
  | error f =>
    rw [trace_settleEntry_of_error hcached] at h
    exact settling_of_mem_told (.lookup s) h
  | ok cached =>
    cases cached with
    | none =>
      rw [trace_settleEntry_of_none hcached] at h
      rcases List.mem_cons.1 h with rfl | h
      · exact .lookup s
      · exact settling_of_mem_createEntry h
    | some entry =>
      by_cases hsame : entry.spec.equivalent desired.spec
      · rw [trace_settleEntry_of_same hcached hsame] at h
        exact settling_of_mem_told (.lookup s) h
      · have htrace := trace_settleEntry_of_other hcached hsame
        rw [htrace] at h
        rcases List.mem_cons.1 h with rfl | h
        · exact .lookup s
        · refine settling_of_mem_replaceEntry ?_ h
          rw [htrace]
          exact (List.suffix_cons _ _).isInfix

end

/-! ## Sweeps -/

/-- The name stands for a host that is not a member. -/
def Stray (b : Backend) (members : Membership) (name : String) : Prop :=
  ∃ host, name = b.objectName host ∧ members.contains host = false

/-- What a sweep asks of an object before it deletes it. -/
def isStray (b : Backend) (members : Membership) (entry : ServiceEntry) : Bool :=
  match b.hostOf? entry.name with
  | none => false
  | some host => !members.contains host

theorem isStray_iff {b : Backend} {members : Membership} {entry : ServiceEntry} :
    isStray b members entry ↔ Stray b members entry.name := by
  rw [isStray, Stray]
  cases hhost : b.hostOf? entry.name with
  | none =>
    simp only [Bool.false_eq_true, false_iff]
    rintro ⟨host, hname, -⟩
    rw [Backend.hostOf?_eq_some_iff.2 hname] at hhost
    cases hhost
  | some host =>
    have hname := Backend.hostOf?_eq_some_iff.1 hhost
    simp [hname, Backend.objectName_inj]

section

variable {b : Backend} {members : Membership} {name : String}

theorem not_stray_of_member (h : ∃ host ∈ members.keys, name = b.objectName host) :
    ¬ Stray b members name := by
  rintro ⟨host', hname, hgone⟩
  obtain ⟨host, hhost, rfl⟩ := h
  rw [← Backend.objectName_inj.1 hname, Table.contains_iff.2 hhost] at hgone
  cases hgone

/-- The names of a backend are those of its members and the stray ones. -/
theorem owns_iff_member_or_stray :
    b.owns name ↔ (∃ host ∈ members.keys, name = b.objectName host) ∨ Stray b members name := by
  rw [Backend.owns_iff]
  constructor
  · rintro ⟨host, hname⟩
    cases hmember : members.contains host with
    | true => exact .inl ⟨host, Table.contains_iff.1 hmember, hname⟩
    | false => exact .inr ⟨host, hname, hmember⟩
  · rintro (⟨host, -, hname⟩ | ⟨host, hname, -⟩) <;> exact ⟨host, hname⟩

end

theorem sweepObject_eq (b : Backend) (members : Membership) (entry : ServiceEntry) :
    sweepObject b members entry =
      if isStray b members entry then deleteObject entry.name else .done {} := by
  rw [sweepObject, isStray]
  cases b.hostOf? entry.name with
  | none => rfl
  | some host => cases h : members.contains host <;> simp [h]

/-- A sweep deletes the stray objects, each as often as it is listed. -/
theorem sweepObjects_eq_deletes (b : Backend) (members : Membership) (entries : List ServiceEntry) :
    sweepObjects b members entries =
      tallyEach deleteObject ((entries.filter (isStray b members)).map (·.name)) := by
  induction entries with
  | nil => rfl
  | cons entry entries ih =>
    rw [sweepObjects, sweepObject_eq, ih]
    by_cases hstray : isStray b members entry
    · rw [if_pos hstray, List.filter_cons_of_pos hstray, List.map_cons, tallyEach]
    · rw [if_neg hstray, List.filter_cons_of_neg hstray]
      simp only [Dialogue.bind_eq, Dialogue.done_bind, Tally.empty_add]
      exact Dialogue.bind_done _

/-- A deletion is told, unless the object was missing. -/
theorem trace_deleteObject (answer : Answerer Call.Reply σ) (name : String) (s : σ) :
    ∃ told : List Event, (deleteObject name).trace answer s =
      (.delete name, s) :: told.map fun event => (.tell event, (answer (.delete name) s).2) := by
  cases h : (answer (.delete name) s).1 with
  | ok u => exact ⟨[.deleted name], by simp [deleteObject, call, Cycle.tell, h]⟩
  | error f =>
    by_cases hf : f.isNotFound
    · exact ⟨[], by simp [deleteObject, call, h, hf]⟩
    · exact ⟨[.failed name .delete f.message], by simp [deleteObject, call, Cycle.tell, h, hf]⟩

/-- A sweep deletes stray objects, and does nothing else to any object. -/
theorem mem_trace_sweepObjects {answer : Answerer Call.Reply σ} {b : Backend}
    {members : Membership} {entries : List ServiceEntry} {s : σ} {x : Call × σ}
    (h : x ∈ (sweepObjects b members entries).trace answer s) :
    (∃ event, x.1 = .tell event) ∨
      ∃ entry ∈ entries, isStray b members entry ∧ x.1 = .delete entry.name := by
  rw [sweepObjects_eq_deletes] at h
  obtain ⟨stage, hstage, hx⟩ := mem_trace_tallyEach h
  obtain ⟨entry, hentry, hname⟩ := List.mem_map.1 (Dialogue.mem_of_mem_stages hstage)
  obtain ⟨hlisted, hstray⟩ := List.mem_filter.1 hentry
  obtain ⟨told, htold⟩ := trace_deleteObject answer stage.1 stage.2
  rw [htold, List.mem_cons, List.mem_map, ← hname] at hx
  rcases hx with rfl | ⟨event, -, rfl⟩
  · exact .inr ⟨entry, hlisted, hstray, rfl⟩
  · exact .inl ⟨event, rfl⟩

/-- Every stray object that is listed is deleted. -/
theorem delete_mem_trace_sweepObjects (answer : Answerer Call.Reply σ) {b : Backend}
    {members : Membership} {entries : List ServiceEntry} {entry : ServiceEntry}
    (hentry : entry ∈ entries) (hstray : isStray b members entry) (s : σ) :
    ∃ w, (.delete entry.name, w) ∈ (sweepObjects b members entries).trace answer s := by
  have hname : entry.name ∈ (entries.filter (isStray b members)).map (·.name) :=
    List.mem_map_of_mem (List.mem_filter.2 ⟨hentry, hstray⟩)
  obtain ⟨w, hstage⟩ := Dialogue.exists_stage answer deleteObject hname s
  obtain ⟨told, htold⟩ := trace_deleteObject answer entry.name w
  rw [sweepObjects_eq_deletes]
  refine ⟨w, (trace_stage_within hstage).subset ?_⟩
  rw [htold]
  exact List.mem_cons_self

/-- A call of a sweep that takes an object away, or an event about it. -/
def Call.Removes (name : String) : Call → Prop
  | .delete other => other = name
  | .tell (.deleted other) | .tell (.failed other _ _) => other = name
  | _ => False

theorem only_deleteObject (name : String) : (deleteObject name).Only (Call.Removes name) := by
  refine only_call_bind rfl fun reply => ?_
  cases reply with
  | ok u => exact only_call_bind rfl fun _ => trivial
  | error f =>
    show Dialogue.Only _ (if f.isNotFound then _ else _)
    split
    · trivial
    · exact only_call_bind rfl fun _ => trivial

theorem trace_sweep_of_ok {answer : Answerer Call.Reply σ} {b : Backend} {members : Membership}
    {entries : List ServiceEntry} {s : σ} (h : (answer (.list b.scope) s).1 = .ok entries) :
    (sweep b members).trace answer s = (.list b.scope, s) ::
      (sweepObjects b members entries).trace answer (answer (.list b.scope) s).2 := by
  simp [sweep, call, h, Dialogue.trace_bind]

theorem trace_sweep_of_error {answer : Answerer Call.Reply σ} {b : Backend} {members : Membership}
    {f : Failure} {s : σ} (h : (answer (.list b.scope) s).1 = .error f) :
    (sweep b members).trace answer s = [(.list b.scope, s),
      (.tell (.failed b.scope .lookup f.message), (answer (.list b.scope) s).2)] := by
  simp [sweep, call, h, trace_fail]

/-! ## The calls of a turn -/

theorem trace_settleMember (answer : Answerer Call.Reply σ) (b : Backend) (namespaceName : String)
    (m : String × List Endpoint) (s : σ) : (settleMember b namespaceName m).trace answer s =
      (settleEntry (.desired b namespaceName m.1 m.2)).trace answer s := by
  simp [settleMember, settleHost, Dialogue.trace_bind]

/-- The calls that the turn of a backend can make, when it begins in state `s`. -/
inductive Acting (answer : Answerer Call.Reply σ) (namespaceName : String) (b : Backend) (s : σ) :
    Call × σ → Prop
  | members : Acting answer namespaceName b s (.members b, s)
  /-- Settling a member makes its calls in one stretch. -/
  | settle {m : String × List Endpoint} {w : σ} {x : Call × σ}
      (hm : m ∈ (answer (.members b) s).1.entries)
      (hstretch : (settleEntry (.desired b namespaceName m.1 m.2)).trace answer w <:+:
        (syncBackend namespaceName b).trace answer s)
      (hx : Settling answer (.desired b namespaceName m.1 m.2) w x) :
      Acting answer namespaceName b s x
  /-- The listing is followed by the sweep of what was listed. -/
  | list {w : σ} (hsweep : (sweep b (answer (.members b) s).1).trace answer w <:+
        (syncBackend namespaceName b).trace answer s) :
      Acting answer namespaceName b s (.list b.scope, w)
  /-- Only objects that were listed in the same turn are deleted. -/
  | delete {v : σ} {entries : List ServiceEntry} {entry : ServiceEntry} (w : σ)
      (hlist : (.list b.scope, v) ∈ (syncBackend namespaceName b).trace answer s)
      (hlisted : (answer (.list b.scope) v).1 = .ok entries) (hentry : entry ∈ entries)
      (hstray : isStray b (answer (.members b) s).1 entry) :
      Acting answer namespaceName b s (.delete entry.name, w)
  | tell (event : Event) (w : σ) : Acting answer namespaceName b s (.tell event, w)

/-- **A turn makes no other calls.** -/
theorem acting_of_mem_syncBackend {answer : Answerer Call.Reply σ} {namespaceName : String}
    {b : Backend} {s : σ} {x : Call × σ}
    (h : x ∈ (syncBackend namespaceName b).trace answer s) : Acting answer namespaceName b s x := by
  obtain ⟨w, htrace⟩ := trace_syncBackend namespaceName answer b s
  have hx := h
  rw [htrace] at hx
  rcases List.mem_append.1 hx with hx | hx
  · rcases List.mem_cons.1 hx with rfl | hx
    · exact .members
    · obtain ⟨stage, hstage, hx⟩ := mem_trace_tallyEach hx
      rw [trace_settleMember] at hx
      refine .settle (Dialogue.mem_of_mem_stages hstage) ?_ (settling_of_mem_settleEntry hx)
      rw [htrace, ← trace_settleMember]
      have hcons := (trace_stage_within hstage).trans (List.suffix_cons (.members b, s) _).isInfix
      exact hcons.trans (List.prefix_append _ _).isInfix
  · have hsweep : (sweep b (answer (.members b) s).1).trace answer w <:+
        (syncBackend namespaceName b).trace answer s := by
      rw [htrace]
      exact List.suffix_append _ _
    cases hlist : (answer (.list b.scope) w).1 with
    | error f =>
      rw [trace_sweep_of_error hlist] at hx
      rcases List.mem_cons.1 hx with rfl | hx
      · exact .list hsweep
      · rw [List.mem_singleton.1 hx]
        exact .tell _ _
    | ok entries =>
      have hmem := hsweep.subset
      rw [trace_sweep_of_ok hlist] at hx hmem
      rcases List.mem_cons.1 hx with rfl | hx
      · exact .list hsweep
      · obtain ⟨c, w'⟩ := x
        rcases mem_trace_sweepObjects hx with ⟨event, rfl⟩ | ⟨entry, hentry, hstray, rfl⟩
        · exact .tell _ _
        · exact .delete _ (hmem List.mem_cons_self) hlist hentry hstray

/-- Every stray object that was listed is deleted in the same turn. -/
theorem delete_mem_syncBackend {answer : Answerer Call.Reply σ} {namespaceName : String}
    {b : Backend} {s v : σ} {entries : List ServiceEntry} {entry : ServiceEntry}
    (hlist : (.list b.scope, v) ∈ (syncBackend namespaceName b).trace answer s)
    (hlisted : (answer (.list b.scope) v).1 = .ok entries) (hentry : entry ∈ entries)
    (hstray : isStray b (answer (.members b) s).1 entry) :
    ∃ w, (.delete entry.name, w) ∈ (syncBackend namespaceName b).trace answer s := by
  cases acting_of_mem_syncBackend hlist with
  | settle hm hstretch hx => cases hx
  | list hsweep =>
    obtain ⟨w, hw⟩ := delete_mem_trace_sweepObjects answer hentry hstray
      (answer (.list b.scope) v).2
    refine ⟨w, hsweep.subset ?_⟩
    rw [trace_sweep_of_ok hlisted]
    exact List.mem_cons_of_mem _ hw

/-! ## The calls of a cycle -/

/-- The calls of a turn are made in one stretch. -/
theorem trace_turn_within {namespaceName : String} {answer : Answerer Call.Reply σ}
    {bs : List Backend} {s : σ} {turn : Backend × σ}
    (h : turn ∈ turns namespaceName answer bs s) :
    (syncBackend namespaceName turn.1).trace answer turn.2 <:+:
      (once namespaceName bs).trace answer s := by
  obtain ⟨w, htrace⟩ := trace_once namespaceName answer bs s
  have hflat : (syncBackend namespaceName turn.1).trace answer turn.2 <:+:
      (turns namespaceName answer bs s).flatMap fun turn =>
        (syncBackend namespaceName turn.1).trace answer turn.2 := by
    rw [List.flatMap_def]
    exact List.infix_of_mem_flatten (List.mem_map.2 ⟨turn, h, rfl⟩)
  rw [htrace]
  exact hflat.trans (List.prefix_append _ _).isInfix

/-- Every call of a cycle is made in some turn, but for the last. -/
theorem mem_trace_once {namespaceName : String} {answer : Answerer Call.Reply σ}
    {bs : List Backend} {s : σ} {x : Call × σ} (h : x ∈ (once namespaceName bs).trace answer s) :
    (∃ turn ∈ turns namespaceName answer bs s,
      x ∈ (syncBackend namespaceName turn.1).trace answer turn.2) ∨ ∃ event, x.1 = .tell event := by
  obtain ⟨w, htrace⟩ := trace_once namespaceName answer bs s
  rw [htrace] at h
  rcases List.mem_append.1 h with h | h
  · exact .inl (List.mem_flatMap.1 h)
  · rw [List.mem_singleton.1 h]
    exact .inr ⟨_, rfl⟩

/-- **An update follows at once on a read of the object, and writes what was read with the spec that
the membership of the turn asks for.** -/
theorem read_of_update_mem {namespaceName : String} {answer : Answerer Call.Reply σ}
    {bs : List Backend} {s w : σ} {entry : ServiceEntry}
    (h : (.update entry, w) ∈ (once namespaceName bs).trace answer s) :
    ∃ turn ∈ turns namespaceName answer bs s,
    ∃ m ∈ (answer (.members turn.1) turn.2).1.entries, ∃ read v,
      let desired := ServiceEntry.desired turn.1 namespaceName m.1 m.2
      [(.get desired.name, v), (.update entry, w)] <:+: (once namespaceName bs).trace answer s ∧
      answer (.get desired.name) v = (.ok read, w) ∧
      entry = { read with spec := desired.spec } := by
  rcases mem_trace_once h with ⟨turn, hturn, hx⟩ | ⟨event, he⟩
  · cases acting_of_mem_syncBackend hx with
    | @settle m w' x hm hstretch hx =>
      cases hx with
      | @update v read hget hnext =>
        exact ⟨turn, hturn, m, hm, read, v, (hnext.trans hstretch).trans (trace_turn_within hturn),
          Prod.ext hget rfl, rfl⟩
  · cases he

end Cycle

end RegistrySync
