import Mathlib.Data.List.Perm.Basic
import RegistrySync.Proofs.Accounts
import RegistrySync.Proofs.Convergence

/-!
# The order of the turns

**Theorem (`cycle_disregards_order`).** It does not matter in which order backends are listed. A
list is accepted in every order or in none; and in every order a cycle over an object store that is
both control plane and cache ends with the same tally and with the same objects, except for the
versions of those that it wrote.

**Steps that keep to names** (`Confined`). A turn reads and writes the names of its backend only. So
it leaves all others as they are, and it cannot tell stores apart that agree on its names: it counts
the same and leaves the same objects there, if with other versions (`Renewed`), because a version is
the number of all writes so far, those of other turns included.

**Loops** (`tallyEach_alone`). When the members of a loop keep to names of their own, each finds its
names as they were before the loop, and what it leaves there stays. So the loop does for each member
what would be done for it alone, and neither the sum of the tallies nor this depends on the order.
-/

namespace RegistrySync

open RegistrySync.Cycle

namespace Tally

theorem add_left_comm (a b c : Tally) : a + (b + c) = b + (a + c) := by
  show (⟨_, _, _, _, _⟩ : Tally) = ⟨_, _, _, _, _⟩
  congr 1 <;> exact Nat.add_left_comm ..

def sum (ts : List Tally) : Tally := ts.foldr (· + ·) {}

theorem sum_cons (t : Tally) (ts : List Tally) : sum (t :: ts) = t + sum ts := rfl

theorem sum_perm {ts ts' : List Tally} (h : ts.Perm ts') : sum ts = sum ts' := by
  have : LeftCommutative fun a b : Tally => a + b := ⟨add_left_comm⟩
  exact h.foldr_eq _

end Tally

namespace ObjectStore

/-! ## Objects up to their versions -/

/-- The entry with the version of the `k`-th write. -/
def stamped (entry : ServiceEntry) (k : Nat) : ServiceEntry :=
  { entry with metadata := { entry.metadata with resourceVersion := version k } }

/-- The same object, or one that was written on both sides since: after `n` writes on the one and
after `n'` on the other, with the same contents but for the version. -/
def Renewed (n n' : Nat) (o o' : Option ServiceEntry) : Prop :=
  o = o' ∨ ∃ entry k k', n < k ∧ n' < k' ∧ o = some (stamped entry k) ∧ o' = some (stamped entry k')

theorem Renewed.older {m m' n n' : Nat} {o o' : Option ServiceEntry} (h : Renewed m m' o o')
    (hn : n ≤ m) (hn' : n' ≤ m') : Renewed n n' o o' := by
  rcases h with h | ⟨entry, k, k', hk, hk', ho, ho'⟩
  · exact .inl h
  · exact .inr ⟨entry, k, k', Nat.lt_of_le_of_lt hn hk, Nat.lt_of_le_of_lt hn' hk', ho, ho'⟩

/-- One entry stored in two stores. -/
theorem renewed_put (s s' : ObjectStore) (entry : ServiceEntry) :
    Renewed s.writes s'.writes ((s.put entry).2.find? entry.name)
      ((s'.put entry).2.find? entry.name) := by
  refine .inr ⟨entry, s.writes + 1, s'.writes + 1, Nat.lt_succ_self _, Nat.lt_succ_self _, ?_, ?_⟩
  · rw [find?_put, if_pos rfl]
    rfl
  · rw [find?_put, if_pos rfl]
    rfl

/-- Stores with a history that hold the same under these names. -/
structure Agree (names : String → Prop) (s s' : ObjectStore) : Prop where
  left : s.Reachable
  right : s'.Reachable
  find?_eq : ∀ name, names name → s.find? name = s'.find? name

theorem Agree.imp {names names' : String → Prop} {s s' : ObjectStore} (h : Agree names s s')
    (hnames : ∀ name, names' name → names name) : Agree names' s s' :=
  ⟨h.left, h.right, fun name hname => h.find?_eq name (hnames name hname)⟩

variable {members : Backend → Membership}

theorem writes_le_answer (c : Call) (s : ObjectStore) :
    s.writes ≤ (answer members c s).2.writes := by
  cases c with
  | create entry => exact writes_le_perform (.create entry) s
  | update entry => exact writes_le_perform (.update entry) s
  | delete name => exact writes_le_perform (.delete name) s
  | members b | lookup name | list scope | get name | tell event => exact Nat.le_refl _

section

variable (members) {α : Type} (m : Steps α)

theorem Reachable.run {s : ObjectStore} (hs : s.Reachable) :
    (m.run (ObjectStore.answer members) s).2.Reachable :=
  Dialogue.run_keeps (fun c _ h => h.answer members c) m hs

theorem writes_le_run (s : ObjectStore) : s.writes ≤ (m.run (answer members) s).2.writes :=
  Dialogue.run_keeps (P := fun t => s.writes ≤ t.writes)
    (fun c t h => Nat.le_trans h (writes_le_answer c t)) m (Nat.le_refl _)

end

end ObjectStore

namespace Cycle

open ObjectStore

variable {members : Backend → Membership} {names names' : String → Prop} {m m' : Steps Tally}

/-- The steps read and write these names only, and all they do depends on what is there. -/
structure Confined (members : Backend → Membership) (names : String → Prop) (m : Steps Tally) :
    Prop where
  frame : ∀ {s : ObjectStore}, s.Reachable → ∀ {name}, ¬ names name →
    (m.run (answer members) s).2.find? name = s.find? name
  tally_eq : ∀ {s s' : ObjectStore}, Agree names s s' →
    (m.run (answer members) s).1 = (m.run (answer members) s').1
  renewed : ∀ {s s' : ObjectStore}, Agree names s s' → ∀ {name}, names name →
    Renewed s.writes s'.writes ((m.run (answer members) s).2.find? name)
      ((m.run (answer members) s').2.find? name)

/-- More names do no harm: what is not touched stays the same on both sides. -/
theorem Confined.widen (h : Confined members names m) (hnames : ∀ name, names name → names' name) :
    Confined members names' m where
  frame hs _ hname := h.frame hs fun hn => hname (hnames _ hn)
  tally_eq ha := h.tally_eq (ha.imp hnames)
  renewed {s s'} ha {name} hname := by
    by_cases hn : names name
    · exact h.renewed (ha.imp hnames) hn
    · left
      rw [h.frame ha.left hn, h.frame ha.right hn]
      exact ha.find?_eq name hname

/-- Only what a run does counts. -/
theorem Confined.of_run (h : Confined members names m)
    (hrun : ∀ s, m'.run (answer members) s = m.run (answer members) s) :
    Confined members names m' := by
  constructor
  · intro s
    rw [hrun]
    exact h.frame
  · intro s s'
    rw [hrun, hrun]
    exact h.tally_eq
  · intro s s'
    rw [hrun, hrun]
    exact h.renewed

/-- Steps about other names leave stores that agree so. -/
theorem Confined.agree (h : Confined members names m) {s s' : ObjectStore} (ha : Agree names' s s')
    (hdisjoint : ∀ name, names' name → ¬ names name) :
    Agree names' (m.run (answer members) s).2 (m.run (answer members) s').2 where
  left := ha.left.run members m
  right := ha.right.run members m
  find?_eq name hname := by
    rw [h.frame ha.left (hdisjoint name hname), h.frame ha.right (hdisjoint name hname)]
    exact ha.find?_eq name hname

theorem Confined.append (h : Confined members names m) (h' : Confined members names' m')
    (hdisjoint : ∀ name, names name → ¬ names' name) :
    Confined members (fun name => names name ∨ names' name)
      (m.bind fun t => m'.bind fun t' => .done (t + t')) where
  frame {s} hs {name} hname := by
    have hfirst := h.frame hs fun hn => hname (.inl hn)
    have hthen := h'.frame (hs.run members m) fun hn => hname (.inr hn)
    rw [Dialogue.run_bind, Dialogue.run_bind, Dialogue.run_done, hthen, hfirst]
  tally_eq {s s'} ha := by
    have ha' := h.agree (ha.imp fun _ => .inr) fun name hn' hn => hdisjoint name hn hn'
    simp only [Dialogue.run_bind, Dialogue.run_done]
    rw [h.tally_eq (ha.imp fun _ => .inl), h'.tally_eq ha']
  renewed {s s'} ha {name} hname := by
    have ha' := h.agree (ha.imp fun _ => .inr) fun name hn' hn => hdisjoint name hn hn'
    simp only [Dialogue.run_bind, Dialogue.run_done]
    by_cases hn' : names' name
    · exact (h'.renewed ha' hn').older (writes_le_run members m s) (writes_le_run members m s')
    · have hn : names name := hname.resolve_right hn'
      rw [h'.frame ha'.left hn', h'.frame ha'.right hn']
      exact h.renewed (ha.imp fun _ => .inl) hn

/-! ## One object -/

/-- What settling an entry does when no call fails, by the object found under its name: the change,
and the entry that is written. -/
def verdict (desired : ServiceEntry) : Option ServiceEntry → Change × Option ServiceEntry
  | none => (.created, some desired)
  | some entry =>
    if entry.spec.equivalent desired.spec then (.unchanged, none)
    else (.updated, some { entry with spec := desired.spec })

/-- The store after an entry was written, or none was. -/
def putIf (s : ObjectStore) : Option ServiceEntry → ObjectStore
  | none => s
  | some entry => (s.put entry).2

theorem run_settleEntry {s : ObjectStore} (hs : s.WellKept) (desired : ServiceEntry) :
    (settleEntry desired).run (answer members) s =
      (.ok (verdict desired (s.find? desired.name)).1,
        putIf s (verdict desired (s.find? desired.name)).2) := by
  cases hfind : s.find? desired.name with
  | none =>
    simp [settleEntry, createEntry, call, Cycle.tell, answer, hfind, create_of_free hfind, verdict,
      putIf]
  | some entry =>
    by_cases hsame : entry.spec.equivalent desired.spec
    · simp [settleEntry, call, Cycle.tell, answer, hfind, hsame, verdict, putIf]
    · have hname : entry.name = desired.name := hs.named hfind
      have hcurrent : s.find? ({ entry with spec := desired.spec } : ServiceEntry).name =
          some entry := by
        rw [← hfind, ← hname]
        rfl
      simp [settleEntry, replaceEntry, updateEntry, call, Cycle.tell, answer, ObjectStore.get,
        hfind, hsame, update_of_current hcurrent rfl, verdict, putIf]

/-- What is written has the name of the entry. -/
theorem name_of_verdict {s : ObjectStore} (hs : s.WellKept) {desired entry : ServiceEntry}
    (h : (verdict desired (s.find? desired.name)).2 = some entry) : entry.name = desired.name := by
  cases hfind : s.find? desired.name with
  | none =>
    rw [hfind] at h
    cases h
    rfl
  | some found =>
    rw [hfind, verdict] at h
    split at h
    · cases h
    · cases h
      show found.name = desired.name
      exact hs.named hfind

section

variable (members : Backend → Membership)

theorem confined_settleMember (b : Backend) (namespaceName : String)
    (m : String × List Endpoint) :
    Confined members (· = b.objectName m.1) (settleMember b namespaceName m) := by
  let desired := ServiceEntry.desired b namespaceName m.1 m.2
  have hrun : ∀ s : ObjectStore, s.Reachable →
      (settleMember b namespaceName m).run (answer members) s =
        (.ofChange (verdict desired (s.find? desired.name)).1,
          putIf s (verdict desired (s.find? desired.name)).2) := by
    intro s hs
    rw [settleMember, Dialogue.bind_eq, Dialogue.run_bind, settleHost,
      run_settleEntry hs.wellKept desired]
    rfl
  constructor
  · intro s hs name hother
    rw [hrun s hs]
    cases hv : (verdict desired (s.find? desired.name)).2 with
    | none => rfl
    | some entry =>
      have hname : entry.name = b.objectName m.1 := name_of_verdict hs.wellKept hv
      show (s.put entry).2.find? name = s.find? name
      rw [find?_put, hname, if_neg hother]
  · intro s s' ha
    rw [hrun s ha.left, hrun s' ha.right, ha.find?_eq desired.name rfl]
  · rintro s s' ha name rfl
    rw [hrun s ha.left, hrun s' ha.right, ← ha.find?_eq desired.name rfl]
    cases hv : (verdict desired (s.find? desired.name)).2 with
    | none => exact .inl (ha.find?_eq _ rfl)
    | some entry =>
      have hname : entry.name = b.objectName m.1 := name_of_verdict ha.left.wellKept hv
      rw [← hname]
      exact renewed_put s s' entry

theorem confined_deleteObject (name : String) :
    Confined members (· = name) (deleteObject name) := by
  have hrun : ∀ s : ObjectStore, (deleteObject name).run (answer members) s =
      (if (s.find? name).isSome then { deleted := 1 } else {}, (s.delete name).2) := by
    intro s
    cases hfind : s.find? name <;>
      simp [deleteObject, call, Cycle.tell, answer, ObjectStore.delete, hfind, Failure.isNotFound]
  constructor
  · intro s hs other hother
    rw [hrun, find?_delete, if_neg hother]
  · intro s s' ha
    rw [hrun, hrun, ha.find?_eq name rfl]
  · rintro s s' ha other rfl
    rw [hrun, hrun, find?_delete, find?_delete, if_pos rfl, if_pos rfl]
    exact .inl rfl

end

/-! ## Loops -/

section

variable {ι : Type} {names : ι → String → Prop} {body : ι → Steps Tally} {is : List ι}
  (hbody : ∀ i ∈ is, Confined members (names i) (body i))
  (hdisjoint : is.Pairwise fun i j => ∀ name, names i name → ¬ names j name)
include hbody hdisjoint

/-- A loop keeps to the names of its members. -/
theorem confined_tallyEach :
    Confined members (fun name => ∃ i ∈ is, names i name) (tallyEach body is) := by
  induction is with
  | nil =>
    refine ⟨fun _ _ _ => rfl, fun _ => rfl, ?_⟩
    rintro s s' - name ⟨i, hi, -⟩
    cases hi
  | cons i is ih =>
    obtain ⟨hi, his⟩ := List.forall_mem_cons.1 hbody
    obtain ⟨hother, hrest⟩ := List.pairwise_cons.1 hdisjoint
    refine (hi.append (ih his hrest) ?_).widen ?_
    · rintro name hname ⟨j, hj, hname'⟩
      exact hother j hj name hname hname'
    · rintro name (hname | ⟨j, hj, hname⟩)
      · exact ⟨i, List.mem_cons_self, hname⟩
      · exact ⟨j, List.mem_cons_of_mem i hj, hname⟩

/-- **A loop does for each member what would be done for it alone**, in a store that holds the same
under its names, if after more writes. -/
theorem tallyEach_alone {s : ObjectStore} (hs : s.Reachable) :
    ((tallyEach body is).run (answer members) s).1 =
      Tally.sum (is.map fun i => ((body i).run (answer members) s).1) ∧
    ∀ i ∈ is, ∃ w, Agree (names i) w s ∧ s.writes ≤ w.writes ∧ ∀ name, names i name →
      ((tallyEach body is).run (answer members) s).2.find? name =
        ((body i).run (answer members) w).2.find? name := by
  induction is generalizing s with
  | nil => exact ⟨rfl, fun i hi => absurd hi List.not_mem_nil⟩
  | cons i is ih =>
    obtain ⟨hi, his⟩ := List.forall_mem_cons.1 hbody
    obtain ⟨hother, hrest⟩ := List.pairwise_cons.1 hdisjoint
    have hs' := hs.run members (body i)
    have hagree : ∀ j ∈ is, Agree (names j) ((body i).run (answer members) s).2 s := fun j hj =>
      ⟨hs', hs, fun name hname => hi.frame hs fun hn => hother j hj name hn hname⟩
    obtain ⟨htally, halone⟩ := ih his hrest hs'
    simp only [tallyEach, Dialogue.bind_eq, Dialogue.pure_eq_done, Dialogue.run_bind,
      Dialogue.run_done]
    refine ⟨?_, List.forall_mem_cons.2 ⟨?_, fun j hj => ?_⟩⟩
    · rw [htally, List.map_cons, Tally.sum_cons]
      congr 2
      exact List.map_congr_left fun j hj => (his j hj).tally_eq (hagree j hj)
    · refine ⟨s, ⟨hs, hs, fun _ _ => rfl⟩, Nat.le_refl _, fun name hname => ?_⟩
      refine (confined_tallyEach his hrest).frame hs' ?_
      rintro ⟨j, hj, hname'⟩
      exact hother j hj name hname hname'
    · obtain ⟨w, hw, hle, hfind⟩ := halone j hj
      have hwrites := Nat.le_trans (writes_le_run members (body i) s) hle
      refine ⟨w, ⟨hw.left, hs, fun name hname => ?_⟩, hwrites, hfind⟩
      rw [hw.find?_eq name hname, (hagree j hj).find?_eq name hname]

end

/-! ## Turns -/

section

variable (members : Backend → Membership)

theorem confined_settleHosts (b : Backend) (namespaceName : String) (m : Membership) :
    Confined members (fun name => ∃ host ∈ m.keys, name = b.objectName host)
      (settleHosts b namespaceName m.entries) := by
  have hdisjoint : m.entries.Pairwise fun e e' => ∀ name,
      name = b.objectName e.1 → ¬ name = b.objectName e'.1 := by
    refine (List.pairwise_map.1 m.keys_nodup).imp fun {e e'} hne name h h' => ?_
    exact hne (Backend.objectName_inj.1 (h.symm.trans h'))
  rw [settleHosts_eq]
  have hhosts := confined_tallyEach (fun e _ => confined_settleMember members b namespaceName e)
    hdisjoint
  refine hhosts.widen ?_
  rintro name ⟨e, he, rfl⟩
  exact ⟨e.1, List.mem_map_of_mem he, rfl⟩

/-- The stray objects that are stored, by name. -/
def storedStrays (b : Backend) (m : Membership) (s : ObjectStore) : List String :=
  ((s.list b.scope).filter (isStray b m)).map (·.name)

theorem run_sweep (b : Backend) (m : Membership) (s : ObjectStore) :
    ((sweep b m).bind fun swept => .done (sweepTally swept)).run (answer members) s =
      (tallyEach deleteObject (storedStrays b m s)).run (answer members) s := by
  simp [sweep, call, answer, Dialogue.run_bind, sweepObjects_eq_deletes, storedStrays, sweepTally]

theorem confined_storedStrays (b : Backend) (m : Membership) {s : ObjectStore} (hs : s.WellKept) :
    Confined members (Stray b m) (tallyEach deleteObject (storedStrays b m s)) := by
  have hdisjoint : (storedStrays b m s).Pairwise fun stray stray' => ∀ name,
      name = stray → ¬ name = stray' :=
    ((hs.nodup_list b.scope).sublist (List.filter_sublist.map _)).imp
      fun hne name h h' => hne (h.symm.trans h')
  have hdeletes := confined_tallyEach (fun stray _ => confined_deleteObject members stray) hdisjoint
  refine hdeletes.widen ?_
  rintro name ⟨stray, hstray, rfl⟩
  obtain ⟨entry, hentry, rfl⟩ := List.mem_map.1 hstray
  exact isStray_iff.1 (List.mem_filter.1 hentry).2

/-- A sweep finds the same stray objects in stores that agree on the stray names. -/
theorem confined_sweep (b : Backend) (m : Membership) :
    Confined members (Stray b m) ((sweep b m).bind fun swept => .done (sweepTally swept)) := by
  have hstrays : ∀ {s s'}, Agree (Stray b m) s s' → storedStrays b m s = storedStrays b m s' := by
    intro s s' ha
    rw [storedStrays, storedStrays, ha.left.wellKept.filter_list_eq ha.right.wellKept]
    intro e he
    exact ha.find?_eq e.name (isStray_iff.1 he)
  constructor
  · intro s hs name hother
    rw [run_sweep]
    exact (confined_storedStrays members b m hs.wellKept).frame hs hother
  · intro s s' ha
    rw [run_sweep, run_sweep, ← hstrays ha]
    exact (confined_storedStrays members b m ha.left.wellKept).tally_eq ha
  · intro s s' ha name hname
    rw [run_sweep, run_sweep, ← hstrays ha]
    exact (confined_storedStrays members b m ha.left.wellKept).renewed ha hname

/-- **The turn of a backend keeps to its names.** -/
theorem confined_syncBackend (namespaceName : String) (b : Backend) :
    Confined members (fun name => b.owns name) (syncBackend namespaceName b) := by
  have hboth := (confined_settleHosts members b namespaceName (members b)).append
    (confined_sweep members b (members b)) fun name => not_stray_of_member
  refine (hboth.widen fun name => owns_iff_member_or_stray.2).of_run fun s => ?_
  simp [syncBackend, call, answer, Dialogue.run_bind]

end

end Cycle

namespace Backend

/-- The order of a list does not matter for whether it is accepted. -/
theorem Apart.perm {bs bs' : List Backend} (h : Apart bs) (hperm : bs.Perm bs') : Apart bs' where
  scope_ne b hb := h.scope_ne b (hperm.mem_iff.2 hb)
  disjoint := hperm.pairwise h.disjoint fun {a b} hab => by
    rw [overlaps, Bool.or_comm]
    exact hab

end Backend

namespace Cycle

open ObjectStore

variable (members : Backend → Membership) (namespaceName : String)

theorem run_once (bs : List Backend) (s : ObjectStore) :
    (once namespaceName bs).run (answer members) s =
      (tallyEach (syncBackend namespaceName) bs).run (answer members) s := by
  simp [once, Cycle.tell, call, answer, Dialogue.run_bind, syncBackends_eq]

/-- **Cycles over the same backends in two orders** end alike. -/
theorem once_perm {bs bs' : List Backend} (hapart : Backend.Apart bs) (hperm : bs.Perm bs')
    {s : ObjectStore} (hs : s.Reachable) :
    ((once namespaceName bs).run (answer members) s).1 =
      ((once namespaceName bs').run (answer members) s).1 ∧
    ∀ name, Renewed s.writes s.writes
      (((once namespaceName bs).run (answer members) s).2.find? name)
      (((once namespaceName bs').run (answer members) s).2.find? name) := by
  have hturn := fun b (_ : b ∈ bs) => confined_syncBackend members namespaceName b
  have hturn' := fun b (_ : b ∈ bs') => confined_syncBackend members namespaceName b
  have hdisjoint := hapart.pairwise_owns
  have hdisjoint' := (hapart.perm hperm).pairwise_owns
  obtain ⟨htally, halone⟩ := tallyEach_alone hturn hdisjoint hs
  obtain ⟨htally', halone'⟩ := tallyEach_alone hturn' hdisjoint' hs
  rw [run_once, run_once]
  constructor
  · rw [htally, htally', Tally.sum_perm (hperm.map _)]
  · intro name
    by_cases hname : ∃ b ∈ bs, b.owns name
    · obtain ⟨b, hb, hown⟩ := hname
      obtain ⟨w, hw, hle, hfind⟩ := halone b hb
      obtain ⟨w', hw', hle', hfind'⟩ := halone' b (hperm.mem_iff.1 hb)
      rw [hfind name hown, hfind' name hown]
      refine ((hturn b hb).renewed ⟨hw.left, hw'.left, fun n hn => ?_⟩ hown).older hle hle'
      rw [hw.find?_eq n hn, hw'.find?_eq n hn]
    · -- Nobody owns the name, so neither cycle touches it.
      have hname' : ¬ ∃ b ∈ bs', b.owns name := fun ⟨b, hb, hown⟩ =>
        hname ⟨b, hperm.mem_iff.2 hb, hown⟩
      left
      rw [(confined_tallyEach hturn hdisjoint).frame hs hname,
        (confined_tallyEach hturn' hdisjoint').frame hs hname']

end Cycle

open ObjectStore

/-- **The order of the backends does not matter.** It is accepted in both orders or in none, and a
cycle ends with the same tally and the same objects, but for the versions of those it wrote. -/
theorem cycle_disregards_order {backends backends' : List Backend}
    (hperm : backends.Perm backends') (settings : CycleSettings) :
    ((Reconciler.assemble backends settings).isOk ↔
      (Reconciler.assemble backends' settings).isOk) ∧
    ∀ r r', Reconciler.assemble backends settings = .ok r →
      Reconciler.assemble backends' settings = .ok r' →
      ∀ (members : Backend → Membership) (s : ObjectStore), s.Reachable →
        let outcome := r.cycle.run (answer members) s
        let outcome' := r'.cycle.run (answer members) s
        outcome.1 = outcome'.1 ∧
        ∀ name, Renewed s.writes s.writes (outcome.2.find? name) (outcome'.2.find? name) := by
  have hassemble : ∀ {bs bs' : List Backend}, bs.Perm bs' →
      (Reconciler.assemble bs settings).isOk → (Reconciler.assemble bs' settings).isOk := by
    intro bs bs' hp h
    cases hr : Reconciler.assemble bs settings with
    | error f =>
      rw [hr] at h
      cases h
    | ok r =>
      obtain ⟨hsettings, hapart, -⟩ := Reconciler.assemble_eq_ok_iff.1 hr
      rw [Reconciler.assemble_eq_ok_iff.2 ⟨hsettings, hapart.perm hp, rfl⟩]
      rfl
  refine ⟨⟨hassemble hperm, hassemble hperm.symm⟩, fun r r' hr hr' members s hs => ?_⟩
  obtain ⟨-, hapart, rfl⟩ := Reconciler.assemble_eq_ok_iff.1 hr
  obtain ⟨-, hapart', rfl⟩ := Reconciler.assemble_eq_ok_iff.1 hr'
  exact once_perm members settings.namespaceName hapart hperm hs

/-- Two backends with a host each change places over a store where the one has an object to update
and the other an object to delete. The versions do differ. -/
theorem drifted_cycle_disregards_order :
    [Consul.backend, CloudMap.backend].Perm [CloudMap.backend, Consul.backend] ∧
    Reconciler.assemble [Consul.backend, CloudMap.backend] {} =
      .ok ⟨[Consul.backend, CloudMap.backend], {}⟩ ∧
    Reconciler.assemble [CloudMap.backend, Consul.backend] {} =
      .ok ⟨[CloudMap.backend, Consul.backend], {}⟩ ∧
    drifted.Reachable ∧
    let control := answer fun _ => Table.empty.insert "a" []
    let outcome := (⟨[Consul.backend, CloudMap.backend], {}⟩ : Reconciler).cycle.run control
      drifted
    let outcome' := (⟨[CloudMap.backend, Consul.backend], {}⟩ : Reconciler).cycle.run control
      drifted
    outcome.1 = { created := 1, updated := 1, deleted := 1 } ∧
    outcome.2.find? "consul-a" ≠ outcome'.2.find? "consul-a" ∧
    outcome.1 = outcome'.1 ∧
    ∀ name, Renewed 2 2 (outcome.2.find? name) (outcome'.2.find? name) := by
  have hperm : [Consul.backend, CloudMap.backend].Perm [CloudMap.backend, Consul.backend] :=
    .swap _ _ _
  have hassemble : Reconciler.assemble [Consul.backend, CloudMap.backend] {} =
      .ok ⟨[Consul.backend, CloudMap.backend], {}⟩ := rfl
  have hassemble' : Reconciler.assemble [CloudMap.backend, Consul.backend] {} =
      .ok ⟨[CloudMap.backend, Consul.backend], {}⟩ := rfl
  have hstore : drifted.Reachable := ObjectStore.Reachable.empty.replay _
  obtain ⟨-, hcycle⟩ := cycle_disregards_order hperm {}
  obtain ⟨htally, hobjects⟩ := hcycle _ _ hassemble hassemble'
    (fun _ => Table.empty.insert "a" []) drifted hstore
  exact ⟨hperm, hassemble, hassemble', hstore, rfl, by decide, htally, hobjects⟩

end RegistrySync
