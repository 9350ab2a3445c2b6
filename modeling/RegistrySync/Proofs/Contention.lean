import RegistrySync.Proofs.History
import RegistrySync.Proofs.Turns

/-!
# Updates while others write

**Theorem (`update_replaces_what_was_read`).** However other writers interleave with the calls of
the cycles, and whatever the cache says, every update writes over exactly the object that was read
for it, or fails and changes nothing. It fails exactly when the object was touched in between.

An update shows the version of an object that was read from the control plane by the call before it
(`Cycle.read_of_update_mem`); the cache has no part in it. Versions are never given twice, so the
stored version is the one shown only as long as nobody touched the object
(`ObjectStore.update_replay_of_touched`).
-/

namespace RegistrySync

open RegistrySync.Cycle

/-- What goes on around the calls of a reconciler, by how many calls there were before: what the
backends publish, what the cache says, and what other writers do to the control plane. -/
structure Surroundings where
  members : Nat → Backend → Membership
  lookup : Nat → String → Except Failure (Option ServiceEntry)
  list : Nat → String → Except Failure (List ServiceEntry)
  moves : Nat → List ObjectStore.Op

/-- A control plane under several writers, and how many calls the reconciler has made. -/
structure Contest where
  objects : ObjectStore
  calls : Nat := 0

namespace Contest

variable {e : Surroundings}

/-- The store that the next call meets: others have made their moves. -/
def met (e : Surroundings) (w : Contest) : ObjectStore := w.objects.replay (e.moves w.calls)

/-- Replies from the control plane, but look-ups and listings from the cache. -/
def answer (e : Surroundings) : Answerer Call.Reply Contest
  | .lookup name, w => (e.lookup w.calls name, ⟨w.met e, w.calls + 1⟩)
  | .list scope, w => (e.list w.calls scope, ⟨w.met e, w.calls + 1⟩)
  | c, w =>
    let r := ObjectStore.answer (e.members w.calls) c (w.met e)
    (r.1, ⟨r.2, w.calls + 1⟩)

theorem reachable_answer (c : Call) (w : Contest) (h : w.objects.Reachable) :
    (answer e c w).2.objects.Reachable := by
  have hmet : (w.met e).Reachable := h.replay _
  have hserved := hmet.answer (e.members w.calls) c
  cases c with
  | lookup name | list scope => exact hmet
  | members b | get name | create entry | update entry | delete name | tell event => exact hserved

/-- A read that succeeds finds its object in the store that is left for the next call. -/
theorem find?_of_get {name : String} {read : ServiceEntry} {v w : Contest}
    (h : answer e (.get name) v = (.ok read, w)) : w.objects.find? name = some read := by
  obtain ⟨hreply, hw⟩ := Prod.mk.inj h
  rw [← hw]
  show (v.met e).find? name = some read
  change (v.met e).get name = .ok read at hreply
  cases hfind : (v.met e).find? name with
  | none => simp [ObjectStore.get, hfind] at hreply
  | some found => simpa [ObjectStore.get, hfind] using hreply

end Contest

/-- An object was overwritten: it was `read`, it has become `stored`, and it has a new version, the
given spec and otherwise what it had. -/
structure ObjectStore.Replaced (before after : ObjectStore) (read stored : ServiceEntry)
    (spec : ServiceEntry.Spec) : Prop where
  held : before.find? read.name = some read
  holds : after.find? read.name = some stored
  spec_eq : stored.spec = spec
  metadata_eq : stored.metadata =
    { read.metadata with resourceVersion := stored.metadata.resourceVersion }
  /-- Nothing had this version. -/
  version_ne : ∀ name entry, before.find? name = some entry →
    entry.metadata.resourceVersion ≠ stored.metadata.resourceVersion
  others : ∀ name ≠ read.name, after.find? name = before.find? name

/-- Writing what is stored with another spec replaces it. -/
theorem ObjectStore.WellKept.replaced_put {s : ObjectStore} (h : s.WellKept) {read : ServiceEntry}
    (hread : s.find? read.name = some read) (spec : ServiceEntry.Spec) :
    Replaced s (s.put { read with spec }).2 read (s.put { read with spec }).1 spec where
  held := hread
  holds := by
    rw [find?_put]
    exact if_pos rfl
  spec_eq := rfl
  metadata_eq := rfl
  version_ne _ _ he := h.version_ne he
  others name hname := by
    rw [find?_put]
    exact if_neg hname

namespace Contest

section

variable {e : Surroundings} {w : Contest} {read : ServiceEntry} (hw : w.objects.Reachable)
  (hread : w.objects.find? read.name = some read) (spec : ServiceEntry.Spec)
include hw hread

/-- When somebody touches the object first, the update fails and changes nothing. -/
theorem update_of_touched (h : ObjectStore.Touched read.name (e.moves w.calls) w.objects) :
    ∃ f, answer e (.update { read with spec }) w = (.error f, ⟨w.met e, w.calls + 1⟩) ∧
      (f = .notFound read.name ∨ ∃ message, f = .conflict message) := by
  obtain ⟨f, hu, hf⟩ := ObjectStore.update_replay_of_touched { read with spec } hread rfl rfl
    hw.wellKept h
  refine ⟨f, ?_, hf⟩
  show (((w.met e).update _).1, (⟨((w.met e).update _).2, w.calls + 1⟩ : Contest)) = _
  rw [met, hu]

/-- When nobody does, the update replaces what was read. -/
theorem update_of_not_touched (h : ¬ ObjectStore.Touched read.name (e.moves w.calls) w.objects) :
    ∃ stored, (answer e (.update { read with spec }) w).1 = .ok stored ∧
      ObjectStore.Replaced (w.met e) (answer e (.update { read with spec }) w).2.objects read stored
        spec := by
  have hu := ObjectStore.update_replay_of_not_touched { read with spec } hread rfl rfl h
  have hheld : (w.met e).find? read.name = some read := by
    rw [met, ObjectStore.find?_replay_of_not_touched h, hread]
  refine ⟨_, congrArg Prod.fst hu, ?_⟩
  show ObjectStore.Replaced (w.met e) ((w.met e).update _).2 read _ _
  rw [met, hu]
  exact (hw.replay _).wellKept.replaced_put hheld spec

end

end Contest

/-- **No update is lost.** In any of the cycles, take an update, in state `w`. The call before it
has read the object and left the store as it is in `w`; what is sent is what was read, with the spec
for a host of the membership. An update that succeeds replaces just what was read. If the object is
touched before the update arrives, it fails and leaves the store as the others left it; otherwise it
succeeds. -/
theorem update_replaces_what_was_read (r : Reconciler) (e : Surroundings) {s : ObjectStore}
    (hs : s.Reachable) (k : Nat) :
    let answer := Contest.answer e
    let w₀ := Dialogue.after answer r.cycle k { objects := s }
    ∀ entry w, (.update entry, w) ∈ r.cycle.trace answer w₀ →
      ∃ turn ∈ turns r.settings.namespaceName answer r.backends w₀,
      ∃ m ∈ (answer (.members turn.1) turn.2).1.entries, ∃ read v,
        let desired := ServiceEntry.desired turn.1 r.settings.namespaceName m.1 m.2
        let outcome := answer (.update entry) w
        let touched := ObjectStore.Touched desired.name (e.moves w.calls) w.objects
        [(.get desired.name, v), (.update entry, w)] <:+: r.cycle.trace answer w₀ ∧
        answer (.get desired.name) v = (.ok read, w) ∧ read.name = desired.name ∧
        entry = { read with spec := desired.spec } ∧
        (∀ stored, outcome.1 = .ok stored →
          ObjectStore.Replaced (w.met e) outcome.2.objects read stored desired.spec) ∧
        (touched → ∃ f, outcome = (.error f, ⟨w.met e, w.calls + 1⟩) ∧
          (f = .notFound desired.name ∨ ∃ message, f = .conflict message)) ∧
        (¬ touched → ∃ stored, outcome.1 = .ok stored) := by
  intro answer w₀ entry w hmem
  have hw₀ : w₀.objects.Reachable := Dialogue.after_keeps Contest.reachable_answer r.cycle k hs
  have hw : w.objects.Reachable := Dialogue.trace_keeps Contest.reachable_answer hw₀ hmem
  obtain ⟨turn, hturn, m, hm, read, v, hnext, hget, rfl⟩ := read_of_update_mem hmem
  have hread := Contest.find?_of_get hget
  have hname := hw.wellKept.named hread
  refine ⟨turn, hturn, m, hm, read, v, hnext, hget, hname, rfl, ?_⟩
  rw [← hname] at hread ⊢
  have hfails := Contest.update_of_touched (e := e) hw hread
  have hreplaces := Contest.update_of_not_touched (e := e) hw hread
  refine ⟨fun stored hstored => ?_, hfails _, fun ht => ?_⟩
  · by_cases ht : ObjectStore.Touched read.name (e.moves w.calls) w.objects
    · obtain ⟨f, hf, -⟩ := hfails _ ht
      cases (congrArg Prod.fst hf).symm.trans hstored
    · obtain ⟨stored', hstored', hreplaced⟩ := hreplaces _ ht
      cases hstored'.symm.trans hstored
      exact hreplaced
  · obtain ⟨stored, hstored, -⟩ := hreplaces _ ht
    exact ⟨stored, hstored⟩

/-- Somebody else puts an object of a backend there before the cycle starts, and deletes it and
makes it anew between the read and the update. -/
def bustling : Surroundings where
  members _ _ := Table.empty.insert "a" []
  lookup _ name := .ok (some ⟨{ name }, { hosts := ["z"], resolution := .static }⟩)
  list _ _ := .ok []
  moves
    | 0 => [.seed ⟨{ name := "consul-a" }, { hosts := ["z"], resolution := .static }⟩]
    | 3 => [.delete "consul-a",
        .create ⟨{ name := "consul-a" }, { hosts := ["z"], resolution := .static }⟩]
    | _ => []

theorem bustling_update_is_refused :
    ObjectStore.Reachable {} ∧
    let cycle := (⟨[⟨"consul", "consul-"⟩], {}⟩ : Reconciler).cycle
    ∃ entry w, (.update entry, w) ∈ cycle.trace (Contest.answer bustling) { objects := {} } ∧
      ∃ f, Contest.answer bustling (.update entry) w = (.error f, ⟨w.met bustling, 4⟩) := by
  refine ⟨.empty, _, _, List.mem_of_getElem? (i := 3) rfl, ?_⟩
  obtain ⟨turn, hturn, m, hm, read, v, -, -, -, -, -, hfails, -⟩ :=
    update_replaces_what_was_read ⟨[⟨"consul", "consul-"⟩], {}⟩ bustling .empty 0 _ _
      (List.mem_of_getElem? (i := 3) rfl)
  cases List.mem_singleton.1 hturn
  cases List.mem_singleton.1 hm
  obtain ⟨f, hf, -⟩ := hfails (.inl ⟨rfl, rfl⟩)
  exact ⟨f, hf⟩

end RegistrySync
