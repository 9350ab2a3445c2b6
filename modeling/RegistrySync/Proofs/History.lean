import RegistrySync.Reconcile.Cycle
import RegistrySync.Reconcile.ObjectStore

/-!
# Histories of the object store

What becomes of an object store under any sequence of operations, whoever makes them.

**Versions.** A write gives its object the number of writes so far as a version, so the versions in
the store are at most that number, and no version is given twice (`WellKept`,
`WellKept.version_ne`).

**Objects that were touched.** When an object is written or deleted after somebody read it, the name
is free or its version is newer than every version at the time of the read (`newer_of_touched`); an
object that was deleted and created again is no exception. So an update that shows the version that
was read succeeds exactly when nobody touched the object (`update_replay_of_touched`,
`find?_replay_of_not_touched`).
-/

namespace RegistrySync

namespace ObjectStore

/-- What a writer may do to one object. -/
inductive Op where
  | get (name : String)
  | create (entry : ServiceEntry)
  | update (entry : ServiceEntry)
  /-- Store an entry, whatever is there. -/
  | seed (entry : ServiceEntry)
  | delete (name : String)

namespace Op

/-- The object that the operation is about. -/
def object : Op → String
  | get name | delete name => name
  | create entry | update entry | seed entry => entry.name

/-- The store after the operation. -/
def perform : Op → ObjectStore → ObjectStore
  | get _, s => s
  | create entry, s => (s.create entry).2
  | update entry, s => (s.update entry).2
  | seed entry, s => (s.put entry).2
  | delete name, s => (s.delete name).2

/-- The operation succeeds in writing or deleting its object. -/
def touches : Op → ObjectStore → Bool
  | get _, _ => false
  | create entry, s => (s.create entry).1.isOk
  | update entry, s => (s.update entry).1.isOk
  | seed _, _ => true
  | delete name, s => (s.delete name).1.isOk

end Op

/-- The store after several operations. -/
def replay (s : ObjectStore) (ops : List Op) : ObjectStore := ops.foldl (fun s op => op.perform s) s

theorem replay_cons (s : ObjectStore) (op : Op) (ops : List Op) :
    s.replay (op :: ops) = (op.perform s).replay ops := rfl

/-- One of the operations writes or deletes the object. -/
def Touched (name : String) : List Op → ObjectStore → Prop
  | [], _ => False
  | op :: ops, s => (op.object = name ∧ op.touches s) ∨ Touched name ops (op.perform s)

/-- The stores that operations make of an empty one. -/
inductive Reachable : ObjectStore → Prop
  | empty : Reachable {}
  | perform (op : Op) {s : ObjectStore} (h : Reachable s) : Reachable (op.perform s)

theorem Reachable.replay {s : ObjectStore} (h : s.Reachable) (ops : List Op) :
    (s.replay ops).Reachable := by
  induction ops generalizing s with
  | nil => exact h
  | cons op ops ih => exact ih (h.perform op)

/-! ## One operation -/

/-- What an update does, by what is stored. -/
theorem update_cases (s : ObjectStore) (entry : ServiceEntry) :
    (s.find? entry.name = none ∧ s.update entry = (.error (.notFound entry.name), s)) ∨
    ∃ current, s.find? entry.name = some current ∧
      ((entry.metadata.resourceVersion = current.metadata.resourceVersion ∧
        s.update entry = (.ok (s.put entry).1, (s.put entry).2)) ∨
      (entry.metadata.resourceVersion ≠ current.metadata.resourceVersion ∧
        s.update entry = (.error (staleFailure entry.name entry.metadata.resourceVersion
          current.metadata.resourceVersion), s))) := by
  cases h : s.find? entry.name with
  | none => exact .inl ⟨rfl, by simp [update, h]⟩
  | some current =>
    refine .inr ⟨current, rfl, ?_⟩
    by_cases hv : entry.metadata.resourceVersion = current.metadata.resourceVersion
    · exact .inl ⟨hv, update_of_current h hv⟩
    · exact .inr ⟨hv, by simp [update, h, hv]⟩

/-- An operation writes its object, deletes it or does nothing. -/
theorem Op.perform_cases (op : Op) (s : ObjectStore) :
    (∃ entry, entry.name = op.object ∧ op.touches s ∧ op.perform s = (s.put entry).2) ∨
    (op.touches s ∧ op.perform s = { s with objects := s.objects.erase op.object }) ∨
    (op.touches s = false ∧ op.perform s = s) := by
  cases op with
  | get name => exact .inr (.inr ⟨rfl, rfl⟩)
  | create entry =>
    cases h : s.find? entry.name with
    | none =>
      have hc := create_of_free h
      exact .inl ⟨entry, rfl, by rw [touches, hc]; rfl, by rw [perform, hc]⟩
    | some current =>
      have hc := create_of_find? h
      exact .inr (.inr ⟨by rw [touches, hc]; rfl, by rw [perform, hc]⟩)
  | update entry =>
    rcases s.update_cases entry with ⟨-, hu⟩ | ⟨current, -, ⟨-, hu⟩ | ⟨-, hu⟩⟩
    · exact .inr (.inr ⟨by rw [touches, hu]; rfl, by rw [perform, hu]⟩)
    · exact .inl ⟨entry, rfl, by rw [touches, hu]; rfl, by rw [perform, hu]⟩
    · exact .inr (.inr ⟨by rw [touches, hu]; rfl, by rw [perform, hu]⟩)
  | seed entry => exact .inl ⟨entry, rfl, rfl, rfl⟩
  | delete name =>
    cases h : s.find? name with
    | none =>
      have hd : s.delete name = (.error (.notFound name), s) := by simp [ObjectStore.delete, h]
      exact .inr (.inr ⟨by rw [touches, hd]; rfl, by rw [perform, hd]⟩)
    | some current =>
      have hd : s.delete name = (.ok (), { s with objects := s.objects.erase name }) := by
        simp [ObjectStore.delete, h]
      exact .inr (.inl ⟨by rw [touches, hd]; rfl, by rw [perform, hd]; rfl⟩)

theorem find?_erased (s : ObjectStore) (name other : String) :
    ({ s with objects := s.objects.erase name } : ObjectStore).find? other =
      if other = name then none else s.find? other :=
  Table.find?_erase _ _ _

theorem find?_of_erased {s : ObjectStore} {name other : String} {entry : ServiceEntry}
    (h : ({ s with objects := s.objects.erase name } : ObjectStore).find? other = some entry) :
    s.find? other = some entry := by
  rw [find?_erased] at h
  split at h
  · cases h
  · exact h

/-- An operation that does not touch an object leaves it as it is. -/
theorem find?_perform {op : Op} {s : ObjectStore} {name : String}
    (h : ¬ (op.object = name ∧ op.touches s)) : (op.perform s).find? name = s.find? name := by
  rcases op.perform_cases s with ⟨entry, hobject, ht, hp⟩ | ⟨ht, hp⟩ | ⟨-, hp⟩
  · rw [hp, find?_put, if_neg]
    rintro rfl
    exact h ⟨hobject.symm, ht⟩
  · rw [hp, find?_erased, if_neg]
    rintro rfl
    exact h ⟨rfl, ht⟩
  · rw [hp]

theorem writes_le_perform (op : Op) (s : ObjectStore) : s.writes ≤ (op.perform s).writes := by
  rcases op.perform_cases s with ⟨entry, -, -, hp⟩ | ⟨-, hp⟩ | ⟨-, hp⟩
  · rw [hp, writes_put]
    exact Nat.le_succ _
  · exact Nat.le_of_eq (by rw [hp])
  · exact Nat.le_of_eq (by rw [hp])

/-! ## Versions -/

/-- The version that the `k`-th write gives. -/
def version (k : Nat) : Option String := some (Text.Decimal.write k)

theorem version_inj {k l : Nat} : version k = version l ↔ k = l := by
  constructor
  · intro h
    have hdigits : Nat.toDigits 10 k = Nat.toDigits 10 l :=
      String.ofList_inj.1 (Option.some.inj h)
    have hread := congrArg (Nat.ofDigitChars 10 · 0) hdigits
    simpa only [Nat.ofDigitChars_ten_toDigits] using hread
  · rintro rfl
    rfl

/-- Objects are kept under their names, and their versions have been given. -/
structure WellKept (s : ObjectStore) : Prop where
  named : ∀ {name entry}, s.find? name = some entry → entry.name = name
  stamped : ∀ {name entry}, s.find? name = some entry →
    ∃ k ≤ s.writes, entry.metadata.resourceVersion = version k

theorem WellKept.put {s : ObjectStore} (h : s.WellKept) (entry : ServiceEntry) :
    (s.put entry).2.WellKept where
  named {name e} he := by
    rw [find?_put] at he
    split at he
    · next hname =>
      cases he
      exact hname.symm
    · exact h.named he
  stamped {name e} he := by
    rw [find?_put] at he
    split at he
    · cases he
      exact ⟨s.writes + 1, Nat.le_refl _, rfl⟩
    · obtain ⟨k, hk, hv⟩ := h.stamped he
      exact ⟨k, Nat.le_succ_of_le hk, hv⟩

theorem WellKept.erase {s : ObjectStore} (h : s.WellKept) (name : String) :
    WellKept { s with objects := s.objects.erase name } :=
  ⟨fun he => h.named (find?_of_erased he), fun he => h.stamped (find?_of_erased he)⟩

theorem WellKept.perform {s : ObjectStore} (h : s.WellKept) (op : Op) :
    (op.perform s).WellKept := by
  rcases op.perform_cases s with ⟨entry, -, -, hp⟩ | ⟨-, hp⟩ | ⟨-, hp⟩
  · rw [hp]
    exact h.put entry
  · rw [hp]
    exact h.erase _
  · rwa [hp]

/-- **Every store with a history is well kept.** -/
theorem Reachable.wellKept {s : ObjectStore} (h : s.Reachable) : s.WellKept := by
  induction h with
  | empty => exact ⟨fun h => (nomatch h), fun h => (nomatch h)⟩
  | perform op _ ih => exact ih.perform op

/-- The next write gives a version that no object has. -/
theorem WellKept.version_ne {s : ObjectStore} (h : s.WellKept) {name : String}
    {entry : ServiceEntry} (he : s.find? name = some entry) :
    entry.metadata.resourceVersion ≠ version (s.writes + 1) := by
  obtain ⟨k, hk, hv⟩ := h.stamped he
  intro heq
  rw [hv] at heq
  rw [version_inj.1 heq] at hk
  exact Nat.not_succ_le_self s.writes hk

/-! ## Objects that were touched -/

/-- The name is free, or its version is newer than the `n`-th. -/
def Newer (n : Nat) (name : String) (s : ObjectStore) : Prop :=
  ∀ entry, s.find? name = some entry → ∃ k, n < k ∧ entry.metadata.resourceVersion = version k

/-- Touching an object makes it newer than all that was written. -/
theorem newer_of_touches {op : Op} {s : ObjectStore} (h : op.touches s) :
    Newer s.writes op.object (op.perform s) := by
  intro e he
  rcases op.perform_cases s with ⟨entry, hobject, -, hp⟩ | ⟨-, hp⟩ | ⟨ht, -⟩
  · rw [hp, find?_put, if_pos hobject.symm] at he
    cases he
    exact ⟨s.writes + 1, Nat.lt_succ_self _, rfl⟩
  · rw [hp, find?_erased, if_pos rfl] at he
    cases he
  · rw [ht] at h
    cases h

theorem Newer.perform {n : Nat} {name : String} {s : ObjectStore} (h : Newer n name s)
    (hn : n ≤ s.writes) (op : Op) : Newer n name (op.perform s) := by
  by_cases ht : op.object = name ∧ op.touches s
  · obtain ⟨rfl, ht⟩ := ht
    intro e he
    obtain ⟨k, hk, hv⟩ := newer_of_touches ht e he
    exact ⟨k, Nat.lt_of_le_of_lt hn hk, hv⟩
  · intro e he
    rw [find?_perform ht] at he
    exact h e he

theorem Newer.replay {n : Nat} {name : String} {s : ObjectStore} (h : Newer n name s)
    (hn : n ≤ s.writes) (ops : List Op) : Newer n name (s.replay ops) := by
  induction ops generalizing s with
  | nil => exact h
  | cons op ops ih => exact ih (h.perform hn op) (Nat.le_trans hn (writes_le_perform op s))

/-- **An object that was touched is gone or newer.** -/
theorem newer_of_touched {name : String} {ops : List Op} {s : ObjectStore} {n : Nat}
    (h : Touched name ops s) (hn : n ≤ s.writes) : Newer n name (s.replay ops) := by
  induction ops generalizing s with
  | nil => cases h
  | cons op ops ih =>
    have hle := writes_le_perform op s
    rcases h with ⟨rfl, ht⟩ | h
    · refine Newer.replay (fun e he => ?_) (Nat.le_trans hn hle) ops
      obtain ⟨k, hk, hv⟩ := newer_of_touches ht e he
      exact ⟨k, Nat.lt_of_le_of_lt hn hk, hv⟩
    · exact ih h (Nat.le_trans hn hle)

theorem find?_replay_of_not_touched {name : String} {ops : List Op} {s : ObjectStore}
    (h : ¬ Touched name ops s) : (s.replay ops).find? name = s.find? name := by
  induction ops generalizing s with
  | nil => rfl
  | cons op ops ih =>
    obtain ⟨hop, hops⟩ := not_or.1 h
    rw [replay_cons, ih hops, find?_perform hop]

section

variable {s : ObjectStore} {name : String} {read : ServiceEntry} (entry : ServiceEntry)
  {ops : List Op} (hread : s.find? name = some read) (hname : entry.name = name)
  (hversion : entry.metadata.resourceVersion = read.metadata.resourceVersion)
include hread hname hversion

/-- An update that shows what was read before somebody touched the object fails and changes
nothing. -/
theorem update_replay_of_touched (hs : s.WellKept) (h : Touched name ops s) :
    ∃ f, (s.replay ops).update entry = (.error f, s.replay ops) ∧
      (f = .notFound name ∨ ∃ message, f = .conflict message) := by
  rcases (s.replay ops).update_cases entry with ⟨-, hu⟩ | ⟨current, hcurrent, ⟨hv, -⟩ | ⟨-, hu⟩⟩
  · exact ⟨_, hu, .inl (by rw [hname])⟩
  · -- The version that is stored would be an old one, and newer than all old ones.
    obtain ⟨k, hk, hold⟩ := hs.stamped hread
    rw [hname] at hcurrent
    obtain ⟨l, hl, hnew⟩ := newer_of_touched h (Nat.le_refl _) current hcurrent
    have heq : version k = version l := by rw [← hold, ← hversion, hv, hnew]
    exact absurd (version_inj.1 heq ▸ hk) (Nat.not_le.2 hl)
  · exact ⟨_, hu, .inr ⟨_, rfl⟩⟩

/-- An update that shows what was read, and nobody touched since, succeeds. -/
theorem update_replay_of_not_touched (h : ¬ Touched name ops s) :
    (s.replay ops).update entry =
      (.ok ((s.replay ops).put entry).1, ((s.replay ops).put entry).2) := by
  have hcurrent : (s.replay ops).find? entry.name = some read := by
    rw [hname, find?_replay_of_not_touched h, hread]
  exact update_of_current hcurrent hversion

end

/-! ## Listings -/

theorem WellKept.map_name_all {s : ObjectStore} (h : s.WellKept) :
    s.all.map (·.name) = s.objects.keys := by
  rw [all, Table.values, Table.keys, List.map_map]
  refine List.map_congr_left fun p hp => ?_
  exact h.named (Table.find?_eq_some_iff.2 hp)

theorem WellKept.mem_all {s : ObjectStore} (h : s.WellKept) {entry : ServiceEntry} :
    entry ∈ s.all ↔ s.find? entry.name = some entry := by
  constructor
  · intro he
    obtain ⟨⟨name, e⟩, hp, rfl⟩ := List.mem_map.1 he
    have hfind : s.find? name = some e := Table.find?_eq_some_iff.2 hp
    show s.find? e.name = some e
    rw [h.named hfind, hfind]
  · intro he
    exact List.mem_map.2 ⟨_, Table.find?_eq_some_iff.1 he, rfl⟩

/-- A listing holds the objects whose names begin with the scope. -/
theorem WellKept.mem_list {s : ObjectStore} (h : s.WellKept) {scope : String}
    {entry : ServiceEntry} : entry ∈ s.list scope ↔
      s.find? entry.name = some entry ∧ scope.toList <+: entry.name.toList := by
  rw [list, List.mem_filter, h.mem_all, List.isPrefixOf_iff_prefix]

/-- A listing is by name. -/
theorem WellKept.ascending_list {s : ObjectStore} (h : s.WellKept) (scope : String) :
    (s.list scope).Pairwise fun e e' => e.name < e'.name := by
  have hall : (s.all.map (·.name)).Pairwise (· < ·) := by
    rw [h.map_name_all]
    exact s.objects.keys_ascending
  exact (List.pairwise_map.1 hall).filter _

/-- No name is listed twice. -/
theorem WellKept.nodup_list {s : ObjectStore} (h : s.WellKept) (scope : String) :
    ((s.list scope).map (·.name)).Nodup :=
  List.pairwise_map.2 ((h.ascending_list scope).imp Table.key_ne_of_lt)

/-- Stores that hold the same objects of some kind list them alike. -/
theorem WellKept.filter_list_eq {s s' : ObjectStore} (h : s.WellKept) (h' : s'.WellKept)
    {p : ServiceEntry → Bool} (hp : ∀ e, p e → s.find? e.name = s'.find? e.name) (scope : String) :
    (s.list scope).filter p = (s'.list scope).filter p := by
  have hasc := (h.ascending_list scope).filter p
  have hasc' := (h'.ascending_list scope).filter p
  have hmem : ∀ e, e ∈ (s.list scope).filter p ↔ e ∈ (s'.list scope).filter p := by
    intro e
    rw [List.mem_filter, List.mem_filter, h.mem_list, h'.mem_list]
    refine and_congr_left fun hpe => ?_
    rw [hp e hpe]
  have hnodup {es : List ServiceEntry} (hes : es.Pairwise fun e e' => e.name < e'.name) :
      es.Nodup :=
    hes.imp fun hlt he => Table.key_ne_of_lt hlt (congrArg ServiceEntry.name he)
  have hperm := (List.perm_ext_iff_of_nodup (hnodup hasc) (hnodup hasc')).2 hmem
  exact hperm.eq_of_pairwise (fun _ _ _ _ hlt hgt => absurd hgt (String.lt_asymm hlt)) hasc hasc'

/-! ## Answering a cycle -/

/-- A store that is both the control plane and its cache. -/
def answer (members : Backend → Membership) : Answerer Cycle.Call.Reply ObjectStore
  | .members b, s => (members b, s)
  | .lookup name, s => (.ok (s.find? name), s)
  | .list scope, s => (.ok (s.list scope), s)
  | .get name, s => (s.get name, s)
  | .create entry, s => s.create entry
  | .update entry, s => s.update entry
  | .delete name, s => s.delete name
  | .tell _, s => ((), s)

theorem Reachable.answer {s : ObjectStore} (h : s.Reachable) (members : Backend → Membership)
    (c : Cycle.Call) : (ObjectStore.answer members c s).2.Reachable := by
  cases c with
  | create entry => exact h.perform (.create entry)
  | update entry => exact h.perform (.update entry)
  | delete name => exact h.perform (.delete name)
  | members b | lookup name | list scope | get name | tell event => exact h

end ObjectStore

end RegistrySync
