import RegistrySync.Proofs.History
import RegistrySync.Proofs.Trace

/-!
# Requests to an object store

**Theorem (`requests_keep_store_in_order`).** Whatever has been requested of a store that was empty
at first, every object is kept under its name, with a version of its own that is one of those given
so far. The versions are given in order, each once: the first write gives 1, and the last one the
number of writes. A request is refused for the reasons in `Refuses` and for no others. If it is
refused it changes nothing, and otherwise it does what it is for to its own object.

A request has one of a few outcomes (`Served`), and all else is read off these. A version is given
only to what is stored at once, so refused requests use none up (`versions_serve`), and the next one
exceeds all that objects have (`WellNumbered.put`). What version a request shows is compared, and
never stored.
-/

namespace RegistrySync

namespace ObjectStore

/-- What may be requested of a store. -/
inductive Request where
  | get (name : String)
  /-- Get what may be missing. -/
  | lookup (name : String)
  | list (scope : String)
  | create (entry : ServiceEntry)
  | update (entry : ServiceEntry)
  /-- Store an entry, whatever is there. -/
  | seed (entry : ServiceEntry)
  | delete (name : String)

namespace Request

/-- What a request obtains. -/
@[reducible]
def Value : Request → Type
  | get _ | create _ | update _ | seed _ => ServiceEntry
  | lookup _ => Option ServiceEntry
  | list _ => List ServiceEntry
  | delete _ => Unit

@[reducible]
def Reply (r : Request) : Type := Except Failure r.Value

/-- The entry that a request asks to store. -/
def entry? : Request → Option ServiceEntry
  | create entry | update entry | seed entry => some entry
  | get _ | lookup _ | list _ | delete _ => none

/-- The entry that has been stored according to the reply. -/
def stored? : (r : Request) → r.Reply → Option ServiceEntry
  | create _, reply | update _, reply | seed _, reply => reply.toOption
  | get _, _ | lookup _, _ | list _, _ | delete _, _ => none

end Request

def serve : Answerer Request.Reply ObjectStore
  | .get name, s => (s.get name, s)
  | .lookup name, s => (.ok (s.find? name), s)
  | .list scope, s => (.ok (s.list scope), s)
  | .create entry, s => s.create entry
  | .update entry, s => s.update entry
  | .seed entry, s => (.ok (s.put entry).1, (s.put entry).2)
  | .delete name, s => s.delete name

/-! ## Outcomes -/

/-- Why requests are refused. -/
inductive Refuses (s : ObjectStore) : Request → Failure → Prop
  | getMissing {name : String} (h : s.find? name = none) :
      Refuses s (.get name) (.notFound name)
  | createTaken {entry current : ServiceEntry} (h : s.find? entry.name = some current) :
      Refuses s (.create entry) (.alreadyExists entry.name)
  | updateMissing {entry : ServiceEntry} (h : s.find? entry.name = none) :
      Refuses s (.update entry) (.notFound entry.name)
  | updateStale {entry current : ServiceEntry} (h : s.find? entry.name = some current)
      (hversion : entry.metadata.resourceVersion ≠ current.metadata.resourceVersion) :
      Refuses s (.update entry) (staleFailure entry.name entry.metadata.resourceVersion
        current.metadata.resourceVersion)
  | deleteMissing {name : String} (h : s.find? name = none) :
      Refuses s (.delete name) (.notFound name)

/-- What a request comes to: its reply and the store after it. -/
inductive Served (s : ObjectStore) : (r : Request) → r.Reply → ObjectStore → Prop
  | refused {r : Request} {f : Failure} (h : Refuses s r f) : Served s r (.error f) s
  | got {name : String} {entry : ServiceEntry} (h : s.find? name = some entry) :
      Served s (.get name) (.ok entry) s
  | lookedUp (name : String) : Served s (.lookup name) (.ok (s.find? name)) s
  | listed (scope : String) : Served s (.list scope) (.ok (s.list scope)) s
  | created {entry : ServiceEntry} (h : s.find? entry.name = none) :
      Served s (.create entry) (.ok (s.put entry).1) (s.put entry).2
  | updated {entry current : ServiceEntry} (h : s.find? entry.name = some current)
      (hversion : entry.metadata.resourceVersion = current.metadata.resourceVersion) :
      Served s (.update entry) (.ok (s.put entry).1) (s.put entry).2
  | seeded (entry : ServiceEntry) : Served s (.seed entry) (.ok (s.put entry).1) (s.put entry).2
  | deleted {name : String} {entry : ServiceEntry} (h : s.find? name = some entry) :
      Served s (.delete name) (.ok ()) { s with objects := s.objects.erase name }

theorem served (s : ObjectStore) (r : Request) : Served s r (serve r s).1 (serve r s).2 := by
  cases r with
  | get name =>
    show Served s (.get name) (s.get name) s
    cases h : s.find? name with
    | none => simpa [get, h] using Served.refused (.getMissing h)
    | some entry => simpa [get, h] using Served.got h
  | lookup name => exact .lookedUp name
  | list scope => exact .listed scope
  | create entry =>
    show Served s (.create entry) (s.create entry).1 (s.create entry).2
    cases h : s.find? entry.name with
    | none =>
      rw [create_of_free h]
      exact .created h
    | some current =>
      rw [create_of_find? h]
      exact .refused (.createTaken h)
  | update entry =>
    show Served s (.update entry) (s.update entry).1 (s.update entry).2
    rcases s.update_cases entry with ⟨h, hu⟩ | ⟨current, h, ⟨hv, hu⟩ | ⟨hv, hu⟩⟩
    · rw [hu]
      exact .refused (.updateMissing h)
    · rw [hu]
      exact .updated h hv
    · rw [hu]
      exact .refused (.updateStale h hv)
  | seed entry => exact .seeded entry
  | delete name =>
    show Served s (.delete name) (s.delete name).1 (s.delete name).2
    cases h : s.find? name with
    | none => simpa [delete, h] using Served.refused (.deleteMissing h)
    | some entry => simpa [delete, h] using Served.deleted h

theorem served_of_reply {s : ObjectStore} {r : Request} {reply : r.Reply}
    (h : (serve r s).1 = reply) : Served s r reply (serve r s).2 := h ▸ served s r

/-- A request is refused exactly when there is a reason to. -/
theorem refused_iff {s : ObjectStore} {r : Request} {f : Failure} :
    (serve r s).1 = .error f ↔ Refuses s r f := by
  constructor
  · intro h
    have hserved := served_of_reply h
    generalize (serve r s).2 = s' at hserved
    cases hserved with
    | refused h => exact h
  · intro h
    cases h with
    | getMissing h => simp [serve, get, h]
    | createTaken h => exact congrArg Prod.fst (create_of_find? h)
    | updateMissing h => simp [serve, update, h]
    | updateStale h hv => simp [serve, update, h, hv]
    | deleteMissing h => simp [serve, delete, h]

theorem serve_of_refused {s : ObjectStore} {r : Request} {f : Failure}
    (h : (serve r s).1 = .error f) : (serve r s).2 = s := by
  have hserved := served_of_reply h
  generalize (serve r s).2 = s' at hserved
  cases hserved with
  | refused h => rfl

/-! ## Versions -/

/-- The versions that objects have are versions of writes, and no two objects have the same. -/
structure WellNumbered (s : ObjectStore) : Prop extends s.WellKept where
  version_ne_zero : ∀ {name entry}, s.find? name = some entry →
    entry.metadata.resourceVersion ≠ version 0
  distinct : ∀ {name name' entry entry'}, s.find? name = some entry →
    s.find? name' = some entry' →
    entry.metadata.resourceVersion = entry'.metadata.resourceVersion → name = name'

/-- The next version is another than all that objects have. -/
theorem WellNumbered.put {s : ObjectStore} (h : s.WellNumbered) (entry : ServiceEntry) :
    (s.put entry).2.WellNumbered where
  toWellKept := h.toWellKept.put entry
  version_ne_zero {name e} he := by
    rw [find?_put] at he
    split at he
    · cases he
      exact fun hv => Nat.succ_ne_zero _ (version_inj.1 hv)
    · exact h.version_ne_zero he
  distinct {name name' e e'} he he' hv := by
    rw [find?_put] at he he'
    split at he <;> split at he'
    · next hname hname' => rw [hname, hname']
    · cases he
      exact absurd hv.symm (h.version_ne he')
    · cases he'
      exact absurd hv (h.version_ne he)
    · exact h.distinct he he' hv

theorem WellNumbered.erase {s : ObjectStore} (h : s.WellNumbered) (name : String) :
    WellNumbered { s with objects := s.objects.erase name } where
  toWellKept := h.toWellKept.erase name
  version_ne_zero he := h.version_ne_zero (find?_of_erased he)
  distinct he he' := h.distinct (find?_of_erased he) (find?_of_erased he')

theorem WellNumbered.serve {s : ObjectStore} (h : s.WellNumbered) (r : Request) :
    (ObjectStore.serve r s).2.WellNumbered := by
  have hserved := served s r
  generalize (ObjectStore.serve r s).1 = reply, (ObjectStore.serve r s).2 = s' at *
  cases hserved with
  | refused | got | lookedUp | listed => exact h
  | created | updated | seeded => exact h.put _
  | deleted => exact h.erase _

/-- The versions of the entries that have been stored, in the order of the writes. -/
def given (log : List ((r : Request) × r.Reply)) : List (Option String) :=
  (log.filterMap fun x => x.1.stored? x.2).map (·.metadata.resourceVersion)

/-- The versions of so many writes. -/
def versions (writes : Nat) : List (Option String) := (List.range' 1 writes).map version

theorem versions_succ (n : Nat) : versions (n + 1) = versions n ++ [version (n + 1)] := by
  rw [versions, List.range'_1_concat, List.map_append, Nat.add_comm 1 n]
  rfl

/-- A request is given the next version if it stores something, and otherwise none. -/
theorem versions_serve (s : ObjectStore) (r : Request) :
    versions (serve r s).2.writes = versions s.writes ++ given [⟨r, (serve r s).1⟩] := by
  have hserved := served s r
  generalize (serve r s).1 = reply, (serve r s).2 = s' at *
  cases hserved with
  | refused h => cases h <;> exact (List.append_nil _).symm
  | got | lookedUp | listed | deleted => exact (List.append_nil _).symm
  | created | updated | seeded => exact versions_succ _

/-- Requests in turn are given the next versions in turn. -/
theorem versions_run {α : Type} (m : Dialogue Request.Reply α) (s : ObjectStore) :
    versions (m.run serve s).2.writes = versions s.writes ++ given (m.log serve s) := by
  induction m generalizing s with
  | done a => exact (List.append_nil _).symm
  | ask r next ih =>
    have hlog : given ((Dialogue.ask r next).log serve s) =
        given [⟨r, (serve r s).1⟩] ++ given ((next (serve r s).1).log serve (serve r s).2) := by
      rw [given, given, given, ← List.map_append, ← List.filterMap_append]
      rfl
    rw [hlog, Dialogue.run_ask, ih, versions_serve, List.append_assoc]

/-! ## What requests do -/

/-- A store serves requests as it should: it refuses them for good reasons only and then stays as it
is, and otherwise they do what they are for to their own object and to no other. -/
structure Reliable (s : ObjectStore) : Prop where
  refused_iff : ∀ {r f}, (serve r s).1 = .error f ↔ Refuses s r f
  unchanged : ∀ {r f}, (serve r s).1 = .error f → (serve r s).2 = s
  /-- Reading changes nothing, and finds what is stored. -/
  get : ∀ {name}, (serve (.get name) s).2 = s ∧
    ∀ {entry}, (serve (.get name) s).1 = .ok entry ↔ s.find? name = some entry
  lookup : ∀ {name}, serve (.lookup name) s = (.ok (s.find? name), s)
  /-- A listing has the objects whose names begin with the scope, each once, by name. -/
  list : ∀ {scope}, (serve (.list scope) s).2 = s ∧ ∃ entries,
    (serve (.list scope) s).1 = .ok entries ∧ (entries.Pairwise fun e e' => e.name < e'.name) ∧
    ∀ {entry}, entry ∈ entries ↔
      s.find? entry.name = some entry ∧ scope.toList <+: entry.name.toList
  /-- Writing stores what is asked, with the next version, under its name. -/
  write : ∀ {r entry value}, r.entry? = some entry → (serve r s).1 = .ok value → ∃ stored,
    r.stored? (.ok value) = some stored ∧
    stored = { entry with
      metadata := { entry.metadata with resourceVersion := version (s.writes + 1) } } ∧
    (serve r s).2.writes = s.writes + 1 ∧
    ∀ name, (serve r s).2.find? name = if name = entry.name then some stored else s.find? name
  delete : ∀ {name}, (serve (.delete name) s).1 = .ok () →
    (serve (.delete name) s).2.writes = s.writes ∧
    ∀ other, (serve (.delete name) s).2.find? other =
      if other = name then none else s.find? other

theorem get_eq_ok_iff {s : ObjectStore} {name : String} {entry : ServiceEntry} :
    s.get name = .ok entry ↔ s.find? name = some entry := by
  cases h : s.find? name <;> simp [get, h]

theorem serve_of_write {s : ObjectStore} {r : Request} {entry : ServiceEntry} {value : r.Value}
    (hentry : r.entry? = some entry) (h : (serve r s).1 = .ok value) :
    r.stored? (.ok value) = some (s.put entry).1 ∧ (serve r s).2 = (s.put entry).2 := by
  have hserved := served_of_reply h
  generalize (serve r s).2 = s' at *
  cases hserved with
  | created | updated | seeded =>
    cases hentry
    exact ⟨rfl, rfl⟩
  | got | lookedUp | listed | deleted => cases hentry

theorem serve_of_delete {s : ObjectStore} {name : String}
    (h : (serve (.delete name) s).1 = .ok ()) :
    (serve (.delete name) s).2 = { s with objects := s.objects.erase name } := by
  have hserved := served_of_reply h
  generalize (serve (.delete name) s).2 = s' at *
  cases hserved with
  | deleted => rfl

theorem WellKept.reliable {s : ObjectStore} (h : s.WellKept) : s.Reliable where
  refused_iff := refused_iff
  unchanged := serve_of_refused
  get := ⟨rfl, get_eq_ok_iff⟩
  lookup := rfl
  list := ⟨rfl, _, rfl, h.ascending_list _, h.mem_list⟩
  write {r entry value} hentry hok := by
    obtain ⟨hstored, hafter⟩ := serve_of_write hentry hok
    rw [hafter]
    exact ⟨_, hstored, rfl, rfl, find?_put s entry⟩
  delete {name} hok := by
    rw [serve_of_delete hok]
    exact ⟨rfl, find?_erased s name⟩

theorem WellNumbered.empty : WellNumbered {} where
  named h := nomatch h
  stamped h := nomatch h
  version_ne_zero h := nomatch h
  distinct h := nomatch h

/-- **A store stays in order, whatever is requested of it.** Make any requests, one after the other,
of a store that is empty at first; each may depend on the replies before it. Then objects are kept
under their names, their versions are numbers from 1 to the number of writes, and no two are equal.
The versions that have been given are these numbers in ascending order. And whatever is requested
next is done as a whole, or refused for a reason of `Refuses` and without a trace. -/
theorem requests_keep_store_in_order {α : Type} (m : Dialogue Request.Reply α) :
    let s := (m.run serve {}).2
    (∀ name entry, s.find? name = some entry → entry.name = name ∧
      ∃ k, 1 ≤ k ∧ k ≤ s.writes ∧ entry.metadata.resourceVersion = version k) ∧
    (∀ name name' entry entry', s.find? name = some entry → s.find? name' = some entry' →
      entry.metadata.resourceVersion = entry'.metadata.resourceVersion → name = name') ∧
    given (m.log serve {}) = (List.range' 1 s.writes).map version ∧
    s.Reliable := by
  intro s
  have hs : s.WellNumbered := Dialogue.run_keeps (fun r s h => h.serve r) m .empty
  refine ⟨fun name entry he => ⟨hs.named he, ?_⟩, fun _ _ _ _ => hs.distinct, ?_,
    hs.toWellKept.reliable⟩
  · obtain ⟨k, hk, hversion⟩ := hs.stamped he
    have hpos : k ≠ 0 := by
      rintro rfl
      exact hs.version_ne_zero he hversion
    exact ⟨k, Nat.one_le_iff_ne_zero.2 hpos, hk, hversion⟩
  · exact (versions_run m {}).symm

/-- Created again after its deletion, an object has another version, and the first one is stale. -/
example :
    let entry : ServiceEntry := ⟨{ name := "a" }, { hosts := ["a"], resolution := .dns }⟩
    let m : Dialogue Request.Reply (Except Failure ServiceEntry × Except Failure ServiceEntry) :=
      .ask (.create entry) fun first => .ask (.delete "a") fun _ => .ask (.create entry) fun _ =>
        .ask (.update ((first.toOption).getD entry)) fun last => .done (first, last)
    ((m.run serve {}).1.2.toOption, (m.run serve {}).2.writes) = (none, 2) := by
  decide +kernel

end ObjectStore

end RegistrySync
