import RegistrySync.Consul.Poller
import RegistrySync.Proofs.History
import RegistrySync.Proofs.Turns
import RegistrySync.Watch.Poll

/-!
# Backends that were never read

Before the first news of a backend its roster is empty, and nothing tells this from a membership
without hosts: a sweep takes every object of the backend for one whose host is gone.

**Theorem (`deletes_await_news_iff`).** However polls and cycles interleave, a turn judges its
objects against the roster that the polls so far have made. It deletes only after news of the
backend, exactly when there have been news before its membership is read or no object of the backend
is listed. `unread_backend_loses_object` shows an object that is deleted although the registry was
down from the start.
-/

namespace RegistrySync

open RegistrySync.Cycle

namespace Roster

/-- The roster of a backend after polls of several. -/
def hear (b : Backend) (r : Roster) (polls : List (Backend × Poll)) : Roster :=
  polls.foldl (fun r poll => if poll.1 = b then (r.absorb poll.2).2 else r) r

theorem hear_append (b : Backend) (r : Roster) (polls polls' : List (Backend × Poll)) :
    r.hear b (polls ++ polls') = (r.hear b polls).hear b polls' := List.foldl_append

/-- Without news a roster stays as it is. -/
theorem hear_of_no_news {b : Backend} {r : Roster} {polls : List (Backend × Poll)}
    (h : ∀ members, (b, .news members) ∉ polls) : r.hear b polls = r := by
  induction polls with
  | nil => rfl
  | cons poll polls ih =>
    have hrest := ih fun members hm => h members (List.mem_cons_of_mem _ hm)
    have hfirst : (if poll.1 = b then (r.absorb poll.2).2 else r) = r := by
      obtain ⟨other, outcome⟩ := poll
      split
      · next hb =>
        cases hb
        cases outcome with
        | news members => exact absurd List.mem_cons_self (h members)
        | same | failed reason => rfl
      · rfl
    rw [hear, List.foldl_cons, hfirst]
    exact hrest

end Roster

/-- The rosters, how many calls there have been, and the control plane with its cache. -/
structure Watched (τ : Type) where
  plane : τ
  rosters : Backend → Roster := fun _ => {}
  calls : Nat := 0

namespace Watched

variable {τ : Type} {polls : Nat → List (Backend × Poll)} {plane : Answerer Call.Reply τ}

/-- Let the polls before the next call do their part. -/
def listen (polls : Nat → List (Backend × Poll)) (w : Watched τ) : Watched τ where
  plane := w.plane
  rosters b := (w.rosters b).hear b (polls w.calls)
  calls := w.calls + 1

/-- Replies with what the rosters say by now, and whatever else the control plane says. -/
def answer (polls : Nat → List (Backend × Poll)) (plane : Answerer Call.Reply τ) :
    Answerer Call.Reply (Watched τ)
  | .members b, w => (((w.listen polls).rosters b).hosts, w.listen polls)
  | c, w => ((plane c w.plane).1, { w.listen polls with plane := (plane c w.plane).2 })

/-- The polls before the `n`-th call. -/
def history (polls : Nat → List (Backend × Poll)) (n : Nat) : List (Backend × Poll) :=
  (List.range n).flatMap polls

theorem history_succ (n : Nat) : history polls (n + 1) = history polls n ++ polls n := by
  simp [history, List.range_succ]

/-- The rosters are what the polls so far have made of fresh ones. -/
def Informed (polls : Nat → List (Backend × Poll)) (w : Watched τ) : Prop :=
  ∀ b, w.rosters b = Roster.hear b {} (history polls w.calls)

theorem Informed.listen {w : Watched τ} (h : Informed polls w) :
    Informed polls (w.listen polls) := by
  intro b
  show (w.rosters b).hear b (polls w.calls) = Roster.hear b {} (history polls (w.calls + 1))
  rw [history_succ, Roster.hear_append, h b]

theorem informed_answer (c : Call) (w : Watched τ) (h : Informed polls w) :
    Informed polls (answer polls plane c w).2 := by
  cases c <;> exact h.listen

end Watched

open Watched

/-- A membership without hosts makes every object of the backend stray. -/
theorem isStray_empty {b : Backend} {entry : ServiceEntry} (h : b.owns entry.name) :
    isStray b .empty entry := by
  obtain ⟨host, hname⟩ := Backend.owns_iff.1 h
  exact isStray_iff.2 ⟨host, hname, rfl⟩

/-- **When a turn awaits the news of its backend.** Every deletion is made in the turn of a backend,
for a host that the membership read there does not have. `heard` are the polls up to that reading;
without news among them, the turn deletes whatever objects of the backend it lists. -/
theorem deletes_await_news_iff {τ : Type} (r : Reconciler) (polls : Nat → List (Backend × Poll))
    (plane : Answerer Call.Reply τ) (t : τ) (k : Nat) :
    let answer := Watched.answer polls plane
    let w₀ := Dialogue.after answer r.cycle k { plane := t }
    (∀ name w, (.delete name, w) ∈ r.cycle.trace answer w₀ →
      ∃ turn ∈ turns r.settings.namespaceName answer r.backends w₀,
        (.delete name, w) ∈ (syncBackend r.settings.namespaceName turn.1).trace answer turn.2) ∧
    ∀ turn ∈ turns r.settings.namespaceName answer r.backends w₀,
      let b := turn.1
      let members := (answer (.members b) turn.2).1
      let calls := (syncBackend r.settings.namespaceName b).trace answer turn.2
      let heard := history polls (turn.2.calls + 1)
      let read := ∃ news, (b, .news news) ∈ heard
      members = (Roster.hear b {} heard).hosts ∧
      (∀ name w, (.delete name, w) ∈ calls →
        ∃ host, name = b.objectName host ∧ members.contains host = false) ∧
      ((∀ name w, (.delete name, w) ∈ calls → read) ↔
        read ∨ ∀ w entries, (.list b.scope, w) ∈ calls →
          (answer (.list b.scope) w).1 = .ok entries → ∀ entry ∈ entries, ¬ b.owns entry.name) := by
  intro answer w₀
  refine ⟨fun name w hx => (mem_trace_once hx).resolve_right (by rintro ⟨event, ⟨⟩⟩), ?_⟩
  intro turn hturn b members calls heard read
  have hstart : Informed polls w₀ := Dialogue.after_keeps informed_answer r.cycle k fun b => rfl
  have hinformed : Informed polls turn.2 := Dialogue.stages_keep informed_answer hstart hturn
  have hmembers : members = (Roster.hear b {} heard).hosts :=
    congrArg Roster.hosts (hinformed.listen b)
  refine ⟨hmembers, fun name w hx => ?_, fun hawait => ?_, fun hcond name w hx => ?_⟩
  · cases acting_of_mem_syncBackend hx with
    | settle hm hstretch hx => cases hx
    | delete w hlist hlisted hentry hstray => exact isStray_iff.1 hstray
  · -- Before any news the roster is fresh, so that every listed object of the backend is stray.
    refine or_iff_not_imp_left.2 fun hread w entries hlist hlisted entry hentry howns => ?_
    have hempty : members = .empty := by
      rw [hmembers, Roster.hear_of_no_news fun news hnews => hread ⟨news, hnews⟩]
    have hstray : isStray b members entry := by
      rw [hempty]
      exact isStray_empty howns
    obtain ⟨v, hv⟩ := delete_mem_syncBackend hlist hlisted hentry hstray
    exact hread (hawait _ _ hv)
  · rcases hcond with hread | hfree
    · exact hread
    cases acting_of_mem_syncBackend hx with
    | settle hm hstretch hx => cases hx
    | @delete v entries entry w hlist hlisted hentry hstray =>
      obtain ⟨host, hname, -⟩ := isStray_iff.1 hstray
      exact absurd (Backend.owns_iff.2 ⟨host, hname⟩) (hfree v entries hlist hlisted entry hentry)

/-- A store with an object from an earlier life of the process. -/
def orphaned : ObjectStore :=
  (ObjectStore.put {} ⟨{ name := "consul-a" }, { hosts := ["a"], resolution := .dns }⟩).2

/-- News that a registry has no hosts left are enough for a sweep. -/
theorem deletes_await_news_of_no_hosts :
    let polls := fun _ : Nat => [(Consul.backend, Poll.news .empty)]
    let answer := Watched.answer polls (ObjectStore.answer fun _ => .empty)
    let start : Watched ObjectStore := { plane := orphaned }
    (∃ w, (.delete "consul-a", w) ∈ (syncBackend "default" Consul.backend).trace answer start) ∧
    ∀ name w, (.delete name, w) ∈ (syncBackend "default" Consul.backend).trace answer start →
      ∃ news, (Consul.backend, .news news) ∈ history polls 1 := by
  intro polls answer start
  refine ⟨⟨_, List.mem_of_getElem? (i := 2) rfl⟩, ?_⟩
  have hturn : (Consul.backend, start) ∈ turns "default" answer [Consul.backend] start :=
    List.mem_cons_self
  have hawait := (deletes_await_news_iff ⟨[Consul.backend], {}⟩ polls _ orphaned 0).2 _ hturn
  exact hawait.2.2.2 (.inl ⟨_, List.mem_cons_self⟩)

/-- **The first cycle deletes an object of a registry that was never read.** -/
theorem unread_backend_loses_object :
    let polls := fun _ : Nat => [(Consul.backend, Poll.failed "connection refused")]
    let answer := Watched.answer polls (ObjectStore.answer fun _ => .empty)
    let start : Watched ObjectStore := { plane := orphaned }
    Reconciler.assemble [Consul.backend] {} = .ok ⟨[Consul.backend], {}⟩ ∧
    (∃ w, (.delete "consul-a", w) ∈
      (⟨[Consul.backend], {}⟩ : Reconciler).cycle.trace answer start) ∧
    ∀ n news, (Consul.backend, .news news) ∉ history polls n := by
  intro polls answer start
  refine ⟨rfl, ⟨_, List.mem_of_getElem? (i := 2) rfl⟩, fun n news hmem => ?_⟩
  obtain ⟨_, _, hpoll⟩ := List.mem_flatMap.1 hmem
  cases List.mem_singleton.1 hpoll

end RegistrySync
