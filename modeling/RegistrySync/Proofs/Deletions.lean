import Mathlib.Data.List.Nodup
import RegistrySync.Proofs.Subjects

/-!
# What a cycle deletes

**Theorem (`cycle_deletes_what_left`).** Whatever the control plane, its cache and the rosters
answer, and however the rosters move under the running cycle, each turn is judged by the one
membership it reads first: it settles the members, in order, and then deletes the listed objects of
the backend whose hosts are not members, each as often as it is listed. What is kept in any turn of
the cycle is deleted in none.

A kept name stands for a member of the membership that its own turn has read, and a deleted name for
a host that is not a member. Within a turn no name stands for both
(`Cycle.not_stray_of_member`), and no name is one of two backends. Only an update may carry a name
that stands for no member, and be undone by a deletion: that of another object, which was found by
the read before (`misread_object_updated_and_deleted`).
-/

namespace RegistrySync

namespace Backend

/-- Every backend overlaps itself, so none is followed twice. -/
theorem Apart.nodup {bs : List Backend} (h : Apart bs) : bs.Nodup :=
  h.disjoint.imp fun {a b} hab heq => by
    rw [← heq, overlaps_of_owns (a.owns_objectName "") (a.owns_objectName "")] at hab
    cases hab

end Backend

namespace Cycle

variable {σ ι : Type}

/-- The object that a call deletes. -/
def Call.deleted? : Call → Option String
  | .delete name => some name
  | .members _ | .lookup _ | .list _ | .get _ | .create _ | .update _ | .tell _ => none

/-- The object that a call looks up in the cache. -/
def Call.lookedUp? : Call → Option String
  | .lookup name => some name
  | .members _ | .list _ | .get _ | .create _ | .update _ | .delete _ | .tell _ => none

/-- The object that a call looks up, reads or writes, or that it tells to be in place. -/
def Call.kept? : Call → Option String
  | .lookup name | .get name => some name
  | .create entry | .update entry => some entry.name
  | .tell (.created name) | .tell (.updated name) | .tell (.unchanged name) => some name
  | .members _ | .list _ | .delete _ | .tell _ => none

/-- The names to delete when this is listed. -/
def strays (b : Backend) (members : Membership) : Except Failure (List ServiceEntry) → List String
  | .ok entries => (entries.filter (isStray b members)).map (·.name)
  | .error _ => []

/-- The calls before and after the listing of a turn go by these members. -/
structure JudgedBy (answer : Answerer Call.Reply σ) (namespaceName : String) (b : Backend)
    (members : Membership) (settling : List (Call × σ)) (v : σ) (sweeping : List (Call × σ)) :
    Prop where
  /-- Before, calls are made for members only. -/
  serves : ∀ x ∈ settling, ∃ m ∈ members.entries, x.1 = .lookup (b.objectName m.1) ∨
    x.1.Serves (.desired b namespaceName m.1 m.2)
  /-- Each member is looked up once, in order. -/
  lookups : settling.filterMap (·.1.lookedUp?) = members.keys.map b.objectName
  /-- After, nothing is done but to delete. -/
  removes : ∀ x ∈ sweeping, ∃ name, x.1.Removes name
  /-- Each listed object whose host is not a member is deleted, and no other is. -/
  deletes : sweeping.filterMap (·.1.deleted?) = strays b members (answer (.list b.scope) v).1

/-! ## One turn -/

/-- When each member is noted once, the notes are those of the members in order. -/
theorem filterMap_trace_tallyEach {β : Type} {answer : Answerer Call.Reply σ}
    {body : ι → Steps Tally} {note : Call × σ → Option β} {f : ι → β}
    (h : ∀ i s, ((body i).trace answer s).filterMap note = [f i]) (is : List ι) (s : σ) :
    ((tallyEach body is).trace answer s).filterMap note = is.map f := by
  calc
    _ = (Dialogue.stages answer body is s).flatMap fun stage => [f stage.1] := by
      rw [trace_tallyEach, List.filterMap_flatMap]
      exact congrArg (List.flatMap · _) (funext fun stage => h stage.1 stage.2)
    _ = ((Dialogue.stages answer body is s).map (·.1)).map f := by
      rw [List.map_map, ← List.map_eq_flatMap]
      rfl
    _ = is.map f := by rw [Dialogue.map_fst_stages]

/-- A note of the first call only. -/
theorem filterMap_eq_singleton {β : Type} {note : Call × σ → Option β} {x : Call × σ}
    {xs : List (Call × σ)} {y : β} (hx : note x = some y) (hxs : ∀ x ∈ xs, note x = none) :
    (x :: xs).filterMap note = [y] := by
  rw [List.filterMap_cons_some hx, List.filterMap_eq_nil_iff.2 hxs]

theorem serves_of_mem_settleMember {answer : Answerer Call.Reply σ} {b : Backend}
    {namespaceName : String} {m : String × List Endpoint} {s : σ} {x : Call × σ}
    (hx : x ∈ (settleMember b namespaceName m).trace answer s) :
    x.1 = .lookup (b.objectName m.1) ∨ x.1.Serves (.desired b namespaceName m.1 m.2) := by
  obtain ⟨next, hnext, hserves⟩ := settleEntry_eq (.desired b namespaceName m.1 m.2)
  rw [trace_settleMember, hnext] at hx
  rcases List.mem_cons.1 hx with rfl | hx
  · exact .inl rfl
  · exact .inr ((hserves _).of_mem_trace hx)

theorem lookups_settleMember (answer : Answerer Call.Reply σ) (b : Backend)
    (namespaceName : String) (m : String × List Endpoint) (s : σ) :
    ((settleMember b namespaceName m).trace answer s).filterMap (·.1.lookedUp?) =
      [b.objectName m.1] := by
  obtain ⟨next, hnext, hserves⟩ := settleEntry_eq (.desired b namespaceName m.1 m.2)
  rw [trace_settleMember, hnext]
  refine filterMap_eq_singleton rfl fun x hx => ?_
  have hx := (hserves _).of_mem_trace hx
  obtain ⟨c, w⟩ := x
  cases c with
  | lookup name => cases hx
  | _ => rfl

theorem deletes_deleteObject (answer : Answerer Call.Reply σ) (name : String) (s : σ) :
    ((deleteObject name).trace answer s).filterMap (·.1.deleted?) = [name] := by
  obtain ⟨told, htold⟩ := trace_deleteObject answer name s
  rw [htold]
  refine filterMap_eq_singleton rfl fun x hx => ?_
  obtain ⟨event, -, rfl⟩ := List.mem_map.1 hx
  rfl

/-- A sweep lists, and then it only deletes what is listed and stray. -/
theorem trace_sweep (answer : Answerer Call.Reply σ) (b : Backend) (members : Membership) (v : σ) :
    ∃ sweeping, (sweep b members).trace answer v = (.list b.scope, v) :: sweeping ∧
      (∀ x ∈ sweeping, ∃ name, x.1.Removes name) ∧
      sweeping.filterMap (·.1.deleted?) = strays b members (answer (.list b.scope) v).1 := by
  cases hlist : (answer (.list b.scope) v).1 with
  | error f =>
    refine ⟨_, trace_sweep_of_error hlist, fun x hx => ⟨b.scope, ?_⟩, rfl⟩
    rw [List.mem_singleton.1 hx]
    rfl
  | ok entries =>
    refine ⟨_, trace_sweep_of_ok hlist, ?_⟩
    rw [sweepObjects_eq_deletes]
    constructor
    · intro x hx
      obtain ⟨stage, -, hx⟩ := mem_trace_tallyEach hx
      exact ⟨stage.1, (only_deleteObject stage.1).of_mem_trace hx⟩
    · rw [filterMap_trace_tallyEach (deletes_deleteObject answer), List.map_id']
      rfl

/-- **A turn reads a membership, and all its other calls are judged by it.** -/
theorem trace_syncBackend_judged (answer : Answerer Call.Reply σ) (namespaceName : String)
    (b : Backend) (s : σ) : ∃ settling v sweeping,
      (syncBackend namespaceName b).trace answer s =
        (.members b, s) :: settling ++ (.list b.scope, v) :: sweeping ∧
      JudgedBy answer namespaceName b (answer (.members b) s).1 settling v sweeping := by
  obtain ⟨v, htrace⟩ := trace_syncBackend namespaceName answer b s
  obtain ⟨sweeping, hsweep, hremoves, hdeletes⟩ := trace_sweep answer b (answer (.members b) s).1 v
  rw [hsweep] at htrace
  refine ⟨_, v, sweeping, htrace, fun x hx => ?_, ?_, hremoves, hdeletes⟩
  · obtain ⟨stage, hstage, hx⟩ := mem_trace_tallyEach hx
    exact ⟨stage.1, Dialogue.mem_of_mem_stages hstage, serves_of_mem_settleMember hx⟩
  · rw [filterMap_trace_tallyEach (lookups_settleMember answer b namespaceName)]
    exact (List.map_map ..).symm

/-- A turn deletes only what is stray. -/
theorem stray_of_delete_mem {answer : Answerer Call.Reply σ} {namespaceName : String} {b : Backend}
    {s w : σ} {name : String}
    (h : (.delete name, w) ∈ (syncBackend namespaceName b).trace answer s) :
    Stray b (answer (.members b) s).1 name := by
  cases acting_of_mem_syncBackend h with
  | settle hm hstretch hx => cases hx
  | delete w hlist hlisted hentry hstray => exact isStray_iff.1 hstray

theorem Call.Removes.kept?_eq_none {name : String} {c : Call} (h : c.Removes name) :
    c.kept? = none := by
  cases c with
  | delete other => rfl
  | tell event =>
    cases event with
    | deleted other | failed other operation message => rfl
    | _ => cases h
  | _ => cases h

theorem Call.Serves.eq_of_kept {desired : ServiceEntry} {c : Call} (h : c.Serves desired)
    {name : String} (hname : c.kept? = some name) :
    name = desired.name ∨ ∃ entry, c = .update entry := by
  cases c with
  | get other | create entry =>
    cases h
    exact .inl (Option.some.inj hname).symm
  | update entry => exact .inr ⟨entry, rfl⟩
  | tell event =>
    cases event with
    | created other | updated other | unchanged other =>
      cases hname
      exact .inl (Option.some.inj h)
    | _ => cases hname
  | _ => cases h

/-- A turn keeps only what stands for a member. -/
theorem member_of_kept {answer : Answerer Call.Reply σ} {bs : List Backend} {b : Backend}
    (hapart : Backend.Apart bs) (hb : b ∈ bs) {namespaceName : String} {s : σ} {x : Call × σ}
    (hx : x ∈ (syncBackend namespaceName b).trace answer s)
    (hread : ∀ entry, x.1 = .update entry →
      ReadsByName answer ((syncBackend namespaceName b).trace answer s))
    {name : String} (hname : x.1.kept? = some name) :
    ∃ host ∈ (answer (.members b) s).1.keys, name = b.objectName host := by
  have hkeeps := keepsTo_of_mem_syncBackend hapart hb hx hread
  obtain ⟨settling, v, sweeping, htrace, hjudged⟩ :=
    trace_syncBackend_judged answer namespaceName b s
  rw [htrace, List.mem_append, List.mem_cons, List.mem_cons] at hx
  rcases hx with (rfl | hx) | rfl | hx
  · cases hname
  · obtain ⟨m, hm, hx⟩ := hjudged.serves x hx
    have hkey : ∃ host ∈ (answer (.members b) s).1.keys, b.objectName m.1 = b.objectName host :=
      ⟨m.1, List.mem_map_of_mem hm, rfl⟩
    obtain ⟨c, w⟩ := x
    rcases hx with rfl | hx
    · cases hname
      exact hkey
    · rcases hx.eq_of_kept hname with rfl | ⟨entry, rfl⟩
      · exact hkey
      · cases hname
        exact hkeeps.2
  · cases hname
  · obtain ⟨other, hx⟩ := hjudged.removes x hx
    rw [hx.kept?_eq_none] at hname
    cases hname

/-! ## Whole cycles -/

/-- A backend has one turn. -/
theorem turn_eq {bs : List Backend} (hapart : Backend.Apart bs) {namespaceName : String}
    {answer : Answerer Call.Reply σ} {s : σ} {turn other : Backend × σ}
    (hturn : turn ∈ turns namespaceName answer bs s)
    (hother : other ∈ turns namespaceName answer bs s) (h : turn.1 = other.1) : turn = other := by
  refine List.inj_on_of_nodup_map ?_ hturn hother h
  rw [turns, Dialogue.map_fst_stages]
  exact hapart.nodup

/-- What one turn keeps, no turn deletes. -/
theorem not_delete_of_kept {bs : List Backend} (hapart : Backend.Apart bs) {namespaceName : String}
    {answer : Answerer Call.Reply σ} {s : σ} {turn : Backend × σ}
    (hturn : turn ∈ turns namespaceName answer bs s) {x : Call × σ}
    (hx : x ∈ (syncBackend namespaceName turn.1).trace answer turn.2)
    (hread : ∀ entry, x.1 = .update entry →
      ReadsByName answer ((syncBackend namespaceName turn.1).trace answer turn.2))
    {name : String} (hname : x.1.kept? = some name) (w : σ) :
    (.delete name, w) ∉ (once namespaceName bs).trace answer s := by
  intro hdelete
  have hb := Dialogue.mem_of_mem_stages hturn
  have hmember := member_of_kept hapart hb hx hread hname
  rcases mem_trace_once hdelete with ⟨other, hother, hdelete⟩ | ⟨event, h⟩
  · have hstray := stray_of_delete_mem hdelete
    have heq : turn.1 = other.1 :=
      hapart.eq_of_owns hb (Dialogue.mem_of_mem_stages hother)
        (owns_iff_member_or_stray.2 (.inl hmember)) (owns_iff_member_or_stray.2 (.inr hstray))
    obtain rfl := turn_eq hapart hturn hother heq
    exact not_stray_of_member hmember hstray
  · cases h

end Cycle

open RegistrySync.Cycle

/-- A cycle consists of one turn for each backend, in order, and a last event. A turn reads one
membership and goes by it alone. An object that some turn looks up, reads, creates or updates, or
tells to be created, updated or unchanged, is deleted in no turn; of the names that updates carry
this holds as far as the objects read in that turn have the names that were asked for. -/
theorem cycle_deletes_what_left {backends : List Backend} {settings : CycleSettings}
    {r : Reconciler} (h : Reconciler.assemble backends settings = .ok r) {σ : Type}
    (answer : Answerer Call.Reply σ) (s : σ) :
    let namespaceName := r.settings.namespaceName
    let turns := turns namespaceName answer r.backends s
    let calls := fun turn : Backend × σ => (syncBackend namespaceName turn.1).trace answer turn.2
    turns.map (·.1) = backends ∧
    (∃ w, r.cycle.trace answer s =
      turns.flatMap calls ++ [(.tell (.cycleCompleted (r.cycle.run answer s).1), w)]) ∧
    ∀ turn ∈ turns,
      (∃ settling v sweeping,
        calls turn = (.members turn.1, turn.2) :: settling ++ (.list turn.1.scope, v) :: sweeping ∧
        JudgedBy answer namespaceName turn.1 (answer (.members turn.1) turn.2).1 settling v
          sweeping) ∧
      ∀ x ∈ calls turn, (∀ entry, x.1 = .update entry → ReadsByName answer (calls turn)) →
        ∀ name, x.1.kept? = some name → ∀ w, (.delete name, w) ∉ r.cycle.trace answer s := by
  obtain ⟨-, hapart, rfl⟩ := Reconciler.assemble_eq_ok_iff.1 h
  refine ⟨Dialogue.map_fst_stages _ _ _ _, trace_once _ _ _ _, fun turn hturn => ⟨?_, ?_⟩⟩
  · exact trace_syncBackend_judged answer _ turn.1 turn.2
  · intro x hx hread name hname w
    exact not_delete_of_kept hapart hturn hx hread hname w

/-- The roster drops its hosts at the first call of a cycle. One of them is new, and the object of
the other says something else; the cache lists objects twice, and deletions fail. -/
def restless : Answerer Call.Reply Nat
  | .members _, n => (if n = 0 then (Table.empty.insert "a" []).insert "b" [] else .empty, n + 1)
  | .lookup name, n =>
    (.ok (if name = "consul-a" then none
      else some ⟨{ name }, { hosts := ["other"], resolution := .static }⟩), n + 1)
  | .list scope, n =>
    (.ok (["x", "a", "b", "x"].map fun host =>
      ⟨{ name := scope ++ host }, { hosts := [], resolution := .dns }⟩), n + 1)
  | .get name, n => (.ok ⟨{ name }, { hosts := ["other"], resolution := .static }⟩, n + 1)
  | .create entry, n => (.ok entry, n + 1)
  | .update entry, n => (.ok entry, n + 1)
  | .delete _, n => (.error (.controlPlane "refused"), n + 1)
  | .tell _, n => ((), n + 1)

/-- What was looked up, read or updated before the hosts left is kept, and the strays are deleted as
often as they are listed; the other backend had no hosts to begin with. -/
theorem restless_cycle_deletes_what_left :
    let r : Reconciler := ⟨[Consul.backend, CloudMap.backend], {}⟩
    Reconciler.assemble [Consul.backend, CloudMap.backend] {} = .ok r ∧
    (r.cycle.trace restless 0).filterMap (·.1.deleted?) =
      ["consul-x", "consul-x", "cloudmap-x", "cloudmap-a", "cloudmap-b", "cloudmap-x"] ∧
    (r.cycle.trace restless 0).filterMap (·.1.updated?) = ["consul-b"] ∧
    ∀ x ∈ (syncBackend "default" Consul.backend).trace restless 0, ∀ name,
      x.1.kept? = some name → ∀ w, (.delete name, w) ∉ r.cycle.trace restless 0 := by
  intro r
  have h : Reconciler.assemble [Consul.backend, CloudMap.backend] {} = .ok r := by rfl
  have hread : ∀ calls, ReadsByName restless calls := by
    rintro calls name w entry - hget
    cases hget
    rfl
  obtain ⟨-, -, hturns⟩ := cycle_deletes_what_left h restless 0
  refine ⟨h, by decide +kernel, by decide +kernel, fun x hx => ?_⟩
  exact (hturns (Consul.backend, 0) List.mem_cons_self).2 x hx fun _ _ => hread _

/-- When a read finds another object, that one is updated and deleted in the same cycle. Deleted is
also the object that bears the scope as its name, though it is by this name that the listing asks
the cache. -/
theorem misread_object_updated_and_deleted :
    let r : Reconciler := ⟨[Consul.backend], {}⟩
    let calls := (r.cycle.trace (misread "consul-x").answer []).map (·.1)
    Reconciler.assemble [Consul.backend] {} = .ok r ∧
    calls.filterMap Call.updated? = ["consul-x", "consul-x"] ∧
    calls.filterMap Call.deleted? = ["consul-x", "consul-"] ∧
    .list "consul-" ∈ calls := by
  intro r calls
  have hlist : calls[9]? = some (.list "consul-") := by rfl
  exact ⟨rfl, by decide +kernel, by decide +kernel, List.mem_of_getElem? hlist⟩

end RegistrySync
