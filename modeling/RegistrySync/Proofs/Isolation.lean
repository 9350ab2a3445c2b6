import RegistrySync.CloudMap.Collect
import RegistrySync.Consul.Poller
import RegistrySync.Proofs.Turns

/-!
# Isolation of backends

**Theorem (`cycle_keeps_to_owners`).** Whatever the control plane and its cache answer, the turn of
a backend asks only about objects that this backend owns and no other backend of the list does, and
it creates and updates objects only for hosts of the membership it has read.

An entry is settled under the name made of scope and host, and an object that is listed is deleted
only when its name is made like that; so both carry the scope, and of backends that are apart no
other scope. An update carries the name that the object had when it was read; that this is the name
it was asked for by is taken from the control plane (`ReadsByName`).
-/

namespace RegistrySync

namespace Backend

/-- The backend owns the name, and it is the only one of the list that does. -/
def OwnsAlone (bs : List Backend) (b : Backend) (name : String) : Prop :=
  b.owns name ∧ ∀ other ∈ bs, other ≠ b → ¬ other.owns name

theorem Apart.ownsAlone {bs : List Backend} (h : Apart bs) {b : Backend} (hb : b ∈ bs)
    (host : String) : OwnsAlone bs b (b.objectName host) :=
  ⟨b.owns_objectName host, fun _ hother hne hname =>
    hne (h.eq_of_owns hother hb hname (b.owns_objectName host))⟩

end Backend

namespace Cycle

variable {σ : Type}

/-- The objects read out among these calls have the names that they were asked for by. -/
def ReadsByName (answer : Answerer Call.Reply σ) (calls : List (Call × σ)) : Prop :=
  ∀ name w entry, (.get name, w) ∈ calls → (answer (.get name) w).1 = .ok entry →
    entry.name = name

/-- Settling an entry is about its object only. -/
theorem eq_of_settling {answer : Answerer Call.Reply σ} {desired : ServiceEntry} {s : σ}
    {x : Call × σ} (hread : ReadsByName answer ((settleEntry desired).trace answer s))
    (hx : Settling answer desired s x) {name : String} (hname : x.1.object? = some name) :
    name = desired.name := by
  cases hx with
  | lookup w | create w | get w => exact (Option.some.inj hname).symm
  | @update w entry hget hnext =>
    have hentry : entry.name = desired.name :=
      hread _ w entry (hnext.subset List.mem_cons_self) hget
    exact (Option.some.inj hname).symm.trans hentry
  | tell event w => cases hname

/-- The call is one that the turn of `b` may make when it has read `members`. -/
def Call.KeepsTo (bs : List Backend) (b : Backend) (members : Membership) : Call → Prop
  | .lookup name | .get name | .delete name => Backend.OwnsAlone bs b name
  | .create entry | .update entry => Backend.OwnsAlone bs b entry.name ∧
      ∃ host ∈ members.keys, entry.name = b.objectName host
  | .list scope => scope = b.scope
  | .members other => other = b
  | .tell _ => True

theorem Call.KeepsTo.owns {bs : List Backend} {b : Backend} {members : Membership} {c : Call}
    (h : c.KeepsTo bs b members) {name : String} (hname : c.object? = some name) : b.owns name := by
  cases c with
  | lookup other | get other | delete other =>
    cases hname
    exact h.1
  | create entry | update entry =>
    cases hname
    exact h.1.1
  | members other | list scope | tell event => cases hname

/-- Settling a member keeps to its object. -/
theorem keepsTo_of_settling {answer : Answerer Call.Reply σ} {bs : List Backend} {b : Backend}
    (hapart : Backend.Apart bs) (hb : b ∈ bs) {members : Membership} {namespaceName : String}
    {m : String × List Endpoint} (hm : m ∈ members.entries) {calls : List (Call × σ)} {w : σ}
    (hstretch :
      (settleEntry (.desired b namespaceName m.1 m.2)).trace answer w <:+: calls)
    {x : Call × σ} (hread : ∀ entry, x.1 = .update entry → ReadsByName answer calls)
    (hx : Settling answer (.desired b namespaceName m.1 m.2) w x) :
    x.1.KeepsTo bs b members := by
  have hown : Backend.OwnsAlone bs b (b.objectName m.1) := hapart.ownsAlone hb m.1
  have hkey : ∃ host ∈ members.keys, b.objectName m.1 = b.objectName host :=
    ⟨m.1, List.mem_map_of_mem hm, rfl⟩
  cases hx with
  | lookup w => exact hown
  | create w => exact ⟨hown, hkey⟩
  | get w => exact hown
  | @update w entry hget hnext =>
    have hmem := (hnext.trans hstretch).subset List.mem_cons_self
    have hname : entry.name = b.objectName m.1 := hread _ rfl _ w entry hmem hget
    show Backend.OwnsAlone bs b entry.name ∧ ∃ host ∈ members.keys, entry.name = _
    rw [hname]
    exact ⟨hown, hkey⟩
  | tell event w => trivial

/-- **Every call of a turn keeps to the backend's own objects.** -/
theorem keepsTo_of_mem_syncBackend {answer : Answerer Call.Reply σ} {bs : List Backend}
    {b : Backend} (hapart : Backend.Apart bs) (hb : b ∈ bs) {namespaceName : String} {s : σ}
    {x : Call × σ} (hx : x ∈ (syncBackend namespaceName b).trace answer s)
    (hread : ∀ entry, x.1 = .update entry →
      ReadsByName answer ((syncBackend namespaceName b).trace answer s)) :
    x.1.KeepsTo bs b (answer (.members b) s).1 := by
  cases acting_of_mem_syncBackend hx with
  | members => rfl
  | settle hm hstretch hsettle => exact keepsTo_of_settling hapart hb hm hstretch hread hsettle
  | list hsweep => rfl
  | @delete v entries entry w hlist hlisted hentry hstray =>
    obtain ⟨host, hname, -⟩ := isStray_iff.1 hstray
    show Backend.OwnsAlone bs b entry.name
    rw [hname]
    exact hapart.ownsAlone hb host
  | tell event w => trivial

end Cycle

open RegistrySync.Cycle

/-- A cycle consists of one turn for each backend, in order, and a last event. In the turn of a
backend every call keeps to objects of that backend alone; updates do so as far as the objects read
in that turn have the names that were asked for. -/
theorem cycle_keeps_to_owners {backends : List Backend} {settings : CycleSettings} {r : Reconciler}
    (h : Reconciler.assemble backends settings = .ok r) {σ : Type}
    (answer : Answerer Call.Reply σ) (s : σ) :
    let namespaceName := r.settings.namespaceName
    let calls := fun turn : Backend × σ => (syncBackend namespaceName turn.1).trace answer turn.2
    (turns namespaceName answer r.backends s).map (·.1) = backends ∧
    (∃ w, r.cycle.trace answer s = (turns namespaceName answer r.backends s).flatMap calls ++
      [(.tell (.cycleCompleted (r.cycle.run answer s).1), w)]) ∧
    ∀ turn ∈ turns namespaceName answer r.backends s, ∀ x ∈ calls turn,
      (∀ entry, x.1 = .update entry → ReadsByName answer (calls turn)) →
        x.1.KeepsTo backends turn.1 (answer (.members turn.1) turn.2).1 := by
  obtain ⟨-, hapart, rfl⟩ := Reconciler.assemble_eq_ok_iff.1 h
  refine ⟨Dialogue.map_fst_stages _ _ _ _, trace_once _ _ _ _, fun turn hturn x hx hread => ?_⟩
  exact keepsTo_of_mem_syncBackend hapart (Dialogue.mem_of_mem_stages hturn) hx hread

/-- A cache that holds every name as an object of another host and lists objects of others, one of
them twice, before a control plane that has every object and refuses all writes. -/
def hostile : Answerer Call.Reply Unit
  | .members _, u => (Table.empty.insert "a" [], u)
  | .lookup name, u => (.ok (some ⟨{ name }, { hosts := ["z"], resolution := .static }⟩), u)
  | .list _, u =>
    (.ok (["consul-x", "cloudmap-x", "consul-x", "x"].map fun name =>
      ⟨{ name }, { hosts := [], resolution := .dns }⟩), u)
  | .get name, u => (.ok ⟨{ name }, { hosts := ["z"], resolution := .static }⟩, u)
  | .create _, u => (.error (.controlPlane "refused"), u)
  | .update _, u => (.error (.controlPlane "refused"), u)
  | .delete _, u => (.error (.controlPlane "refused"), u)
  | .tell _, u => ((), u)

theorem hostile_cycle_keeps_to_owners :
    Reconciler.assemble [Consul.backend, CloudMap.backend] {} =
      .ok ⟨[Consul.backend, CloudMap.backend], {}⟩ ∧
    ∀ turn ∈ turns "default" hostile [Consul.backend, CloudMap.backend] (),
      ∀ x ∈ (syncBackend "default" turn.1).trace hostile turn.2,
        x.1.KeepsTo [Consul.backend, CloudMap.backend] turn.1 (Table.empty.insert "a" []) := by
  have h : Reconciler.assemble [Consul.backend, CloudMap.backend] {} =
      .ok ⟨[Consul.backend, CloudMap.backend], {}⟩ := by rfl
  refine ⟨h, fun turn hturn x hx => ?_⟩
  refine (cycle_keeps_to_owners h hostile ()).2.2 turn hturn x hx fun _ _ name w entry _ hget => ?_
  cases hget
  rfl

end RegistrySync
