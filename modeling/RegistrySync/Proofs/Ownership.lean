import Mathlib.Data.List.Pairwise
import RegistrySync.Reconcile.Reconciler

/-!
# Who owns an object

A backend owns the objects whose names begin with its scope. In a list of backends that
`Reconciler.assemble` accepts, scopes are not empty and no scope begins with another
(`assemble_eq_ok_iff`). Scopes of one name are beginnings of it, and of two beginnings of one text
one begins with the other; so a name has at most one owner (`Apart.eq_of_owns`).

**Theorem (`assembled_iff_unique_owner`).** Of two scopes that overlap, the longer one is itself a
name with two owners (`overlaps_iff`). So the lists that are accepted are exactly those without an
empty scope in which no name is owned from two places, and there a name tells the place of its owner
and the host it stands for. That a list is accepted does not yet make a reconciler of it: the check
of the settings lets queues pass that are too large to be made (`vast_queue_is_refused`).
-/

namespace RegistrySync

namespace Backend

/-- The name begins with the backend's scope. -/
def owns (b : Backend) (name : String) : Bool := b.scope.toList.isPrefixOf name.toList

theorem owns_iff_begins {b : Backend} {name : String} :
    b.owns name ↔ b.scope.toList <+: name.toList := List.isPrefixOf_iff_prefix

/-- The objects of a backend are those that stand for some host of it. -/
theorem owns_iff {b : Backend} {name : String} :
    b.owns name ↔ ∃ host, name = b.objectName host := by
  rw [owns_iff_begins]
  constructor
  · rintro ⟨rest, hrest⟩
    refine ⟨String.ofList rest, String.toList_inj.1 ?_⟩
    simp [objectName, ← hrest]
  · rintro ⟨host, rfl⟩
    exact ⟨host.toList, by simp [objectName]⟩

theorem owns_objectName (b : Backend) (host : String) : b.owns (b.objectName host) :=
  owns_iff.2 ⟨host, rfl⟩

theorem objectName_inj {b : Backend} {host host' : String} :
    b.objectName host = b.objectName host' ↔ host = host' := by
  constructor
  · intro h
    have hs : b.hostOf? (b.objectName host) = some host := hostOf?_eq_some_iff.2 rfl
    rw [h, hostOf?_eq_some_iff.2 rfl] at hs
    exact (Option.some.inj hs).symm
  · rintro rfl
    rfl

/-- Scopes are not empty, and none begins with another. -/
structure Apart (bs : List Backend) : Prop where
  scope_ne : ∀ b ∈ bs, b.scope ≠ ""
  disjoint : bs.Pairwise fun a b => a.overlaps b = false

theorem Apart.tail {b : Backend} {bs : List Backend} (h : Apart (b :: bs)) : Apart bs where
  scope_ne c hc := h.scope_ne c (List.mem_cons_of_mem b hc)
  disjoint := (List.pairwise_cons.1 h.disjoint).2

/-- Backends pass the check exactly when they are apart. -/
theorem checkScopes_eq_ok_iff {bs : List Backend} : checkScopes bs = .ok () ↔ Apart bs := by
  induction bs with
  | nil => exact ⟨fun _ => ⟨by simp, .nil⟩, fun _ => rfl⟩
  | cons b bs ih =>
    rw [checkScopes]
    constructor
    · intro h
      split at h
      · cases h
      · next hscope =>
        split at h
        · cases h
        · next hfind =>
          have hbs := ih.1 h
          refine ⟨List.forall_mem_cons.2 ⟨hscope, hbs.scope_ne⟩, ?_⟩
          refine List.pairwise_cons.2 ⟨fun c hc => ?_, hbs.disjoint⟩
          exact Bool.eq_false_iff.2 (List.find?_eq_none.1 hfind c hc)
    · intro h
      have hfind : bs.find? b.overlaps = none := List.find?_eq_none.2 fun c hc =>
        Bool.eq_false_iff.1 ((List.pairwise_cons.1 h.disjoint).1 c hc)
      rw [if_neg (h.scope_ne b List.mem_cons_self), hfind]
      exact ih.2 h.tail

/-- Two backends that own one name overlap. -/
theorem overlaps_of_owns {a b : Backend} {name : String} (ha : a.owns name) (hb : b.owns name) :
    a.overlaps b := by
  rw [overlaps, Bool.or_eq_true, List.isPrefixOf_iff_prefix, List.isPrefixOf_iff_prefix]
  exact (List.prefix_or_prefix_of_prefix (owns_iff_begins.1 ha) (owns_iff_begins.1 hb)).symm

/-- Backends overlap exactly when some name begins with both scopes. -/
theorem overlaps_iff {a b : Backend} : a.overlaps b ↔ ∃ name, a.owns name ∧ b.owns name := by
  constructor
  · intro h
    rw [overlaps, Bool.or_eq_true, List.isPrefixOf_iff_prefix, List.isPrefixOf_iff_prefix] at h
    rcases h with hb | ha
    · exact ⟨a.scope, owns_iff_begins.2 (List.prefix_refl _), owns_iff_begins.2 hb⟩
    · exact ⟨b.scope, owns_iff_begins.2 ha, owns_iff_begins.2 (List.prefix_refl _)⟩
  · rintro ⟨name, ha, hb⟩
    exact overlaps_of_owns ha hb

/-- No two places of the list own a name together. -/
theorem Apart.pairwise_owns {bs : List Backend} (h : Apart bs) :
    bs.Pairwise fun a b => ∀ name, a.owns name → ¬ b.owns name :=
  h.disjoint.imp fun {a b} hab name ha hb => by
    rw [overlaps_of_owns ha hb] at hab
    cases hab

/-- A name has at most one owner. -/
theorem Apart.eq_of_owns {bs : List Backend} (h : Apart bs) {a b : Backend} (ha : a ∈ bs)
    (hb : b ∈ bs) {name : String} (hna : a.owns name) (hnb : b.owns name) : a = b := by
  have : Std.Symm fun a b : Backend => ∀ name, a.owns name → ¬ b.owns name :=
    ⟨fun _ _ hab name hnb hna => hab name hna hnb⟩
  by_contra hne
  exact h.pairwise_owns.forall ha hb hne name hna hnb

/-- Backends are apart exactly when no scope is empty and no name is owned from two places. -/
theorem apart_iff {bs : List Backend} : Apart bs ↔ (∀ b ∈ bs, b.scope ≠ "") ∧
    ∀ name (i j : Fin bs.length), bs[i].owns name → bs[j].owns name → i = j := by
  constructor
  · intro h
    refine ⟨h.scope_ne, fun name i j hi hj => ?_⟩
    have hpairs := List.pairwise_iff_get.1 h.pairwise_owns
    rcases Nat.lt_trichotomy i j with hlt | heq | hlt
    · exact absurd hj (hpairs i j hlt name hi)
    · exact Fin.ext heq
    · exact absurd hi (hpairs j i hlt name hj)
  · rintro ⟨hscope, howner⟩
    refine ⟨hscope, List.pairwise_iff_get.2 fun i j hlt => ?_⟩
    rw [Bool.eq_false_iff]
    intro hoverlaps
    obtain ⟨name, hi, hj⟩ := overlaps_iff.1 hoverlaps
    exact Nat.ne_of_lt hlt (congrArg Fin.val (howner name i j hi hj))

/-- The name of a host of the backend at a place of the list. -/
def nameAt (bs : List Backend) (p : Fin bs.length × String) : String := bs[p.1].objectName p.2

end Backend

section

variable {backends : List Backend} {settings : CycleSettings}

/-- Of acceptable settings and backends that are apart a reconciler is made, unless its queue would
be too large. -/
theorem Reconciler.assemble_of_apart (hcheck : settings.check = .ok ())
    (hapart : Backend.Apart backends) : assemble backends settings =
      if EventQueue.maxCapacity < settings.eventCapacity.toNat then .error .queueTooLarge
      else .ok ⟨backends, settings⟩ := by
  rw [assemble, hcheck, Backend.checkScopes_eq_ok_iff.2 hapart]

/-- Backends that are not apart are refused whatever the queue. -/
theorem Reconciler.assemble_of_not_apart (hcheck : settings.check = .ok ())
    (hnot : ¬ Backend.Apart backends) :
    ∃ message, assemble backends settings = .error (.failure (.configuration message)) := by
  cases hscopes : Backend.checkScopes backends with
  | ok u => exact absurd (Backend.checkScopes_eq_ok_iff.1 hscopes) hnot
  | error fault => exact ⟨fault.message, by rw [assemble, hcheck, hscopes]⟩

/-- What `Reconciler.assemble` accepts, and what it makes of it. -/
theorem Reconciler.assemble_eq_ok_iff {r : Reconciler} : assemble backends settings = .ok r ↔
    (settings.check = .ok () ∧ settings.eventCapacity.toNat ≤ EventQueue.maxCapacity) ∧
      Backend.Apart backends ∧ r = ⟨backends, settings⟩ := by
  constructor
  · intro h
    cases hcheck : settings.check with
    | error fault =>
      rw [assemble, hcheck] at h
      cases h
    | ok u =>
      by_cases hapart : Backend.Apart backends
      · rw [assemble_of_apart hcheck hapart] at h
        split at h
        · cases h
        · next hfits =>
          cases h
          exact ⟨⟨rfl, Nat.le_of_not_lt hfits⟩, hapart, rfl⟩
      · obtain ⟨message, hrefused⟩ := assemble_of_not_apart hcheck hapart
        rw [hrefused] at h
        cases h
  · rintro ⟨⟨hcheck, hfits⟩, hapart, rfl⟩
    rw [assemble_of_apart hcheck hapart, if_neg (Nat.not_lt_of_le hfits)]

end

/-- **Backends can be followed together exactly when every name has at most one owner.** Let the
settings be acceptable. A list is refused unless no scope is empty and no name begins with the
scopes at two places of it. Of any other list a reconciler is made if the queue is within the limit
of queues, and only then. Different places and hosts of its list have different names, and taking
the scope of a place off a name gives a host exactly if the name is that of the host at this
place. -/
theorem assembled_iff_unique_owner (backends : List Backend) {settings : CycleSettings}
    (hsettings : settings.check = .ok ()) :
    let unique := (∀ b ∈ backends, b.scope ≠ "") ∧ ∀ name (i j : Fin backends.length),
      backends[i].owns name → backends[j].owns name → i = j
    ((∃ r, Reconciler.assemble backends settings = .ok r) ↔
      unique ∧ settings.eventCapacity.toNat ≤ EventQueue.maxCapacity) ∧
    (Reconciler.assemble backends settings = .error .queueTooLarge ↔
      unique ∧ EventQueue.maxCapacity < settings.eventCapacity.toNat) ∧
    (¬ unique → ∃ message,
      Reconciler.assemble backends settings = .error (.failure (.configuration message))) ∧
    ∀ r, Reconciler.assemble backends settings = .ok r →
      r.backends = backends ∧
      Function.Injective (Backend.nameAt backends) ∧
      (∀ (i : Fin backends.length) host name, backends[i].hostOf? name = some host ↔
        name = Backend.nameAt backends (i, host)) ∧
      ∀ (i j : Fin backends.length) host,
        backends[i].hostOf? (Backend.nameAt backends (j, host)) =
          if i = j then some host else none := by
  intro unique
  have hunique : Backend.Apart backends ↔ unique := Backend.apart_iff
  rw [← hunique]
  refine ⟨⟨?made, ?makes⟩, ⟨?vast, ?refuses⟩, ?unfit, fun r h => ?_⟩
  case made =>
    rintro ⟨r, h⟩
    obtain ⟨⟨-, hfits⟩, hapart, -⟩ := Reconciler.assemble_eq_ok_iff.1 h
    exact ⟨hapart, hfits⟩
  case makes =>
    rintro ⟨hapart, hfits⟩
    exact ⟨_, Reconciler.assemble_eq_ok_iff.2 ⟨⟨hsettings, hfits⟩, hapart, rfl⟩⟩
  case vast =>
    intro h
    by_cases hapart : Backend.Apart backends
    · rw [Reconciler.assemble_of_apart hsettings hapart] at h
      split at h
      · next hvast => exact ⟨hapart, hvast⟩
      · cases h
    · obtain ⟨message, hrefused⟩ := Reconciler.assemble_of_not_apart hsettings hapart
      rw [hrefused] at h
      cases h
  case refuses =>
    rintro ⟨hapart, hvast⟩
    rw [Reconciler.assemble_of_apart hsettings hapart, if_pos hvast]
  case unfit =>
    exact Reconciler.assemble_of_not_apart hsettings
  · obtain ⟨-, hapart, rfl⟩ := Reconciler.assemble_eq_ok_iff.1 h
    have hplace : ∀ i j host host', Backend.nameAt backends (i, host) =
        Backend.nameAt backends (j, host') → i = j := by
      intro i j host host' hname
      refine (Backend.apart_iff.1 hapart).2 _ i j (Backend.owns_objectName _ host) ?_
      exact Backend.owns_iff.2 ⟨host', hname⟩
    refine ⟨rfl, ?_, fun i host name => Backend.hostOf?_eq_some_iff, fun i j host => ?_⟩
    · rintro ⟨i, host⟩ ⟨j, host'⟩ hname
      obtain rfl := hplace i j host host' hname
      exact Prod.ext rfl (Backend.objectName_inj.1 hname)
    · split
      · next hij =>
        subst hij
        exact Backend.hostOf?_eq_some_iff.2 rfl
      · next hij =>
        rw [Option.eq_none_iff_forall_ne_some]
        intro host' hhost
        exact hij (hplace i j host' host (Backend.hostOf?_eq_some_iff.1 hhost).symm)

/-- Scopes with a common beginning, none of which begins another. -/
theorem similar_scopes_have_unique_owners :
    let backends : List Backend := [⟨"consul", "consul-"⟩, ⟨"console", "console-"⟩, ⟨"eu", "c-"⟩]
    (({} : CycleSettings).check = .ok ()) ∧
    (∃ r, Reconciler.assemble backends {} = .ok r) ∧
    (∀ name (i j : Fin backends.length),
      backends[i].owns name → backends[j].owns name → i = j) ∧
    Function.Injective (Backend.nameAt backends) := by
  intro backends
  have hsettings : ({} : CycleSettings).check = .ok () := rfl
  obtain ⟨hiff, -, -, hnames⟩ := assembled_iff_unique_owner backends hsettings
  have hassemble : Reconciler.assemble backends {} = .ok ⟨backends, {}⟩ := rfl
  exact ⟨hsettings, ⟨_, hassemble⟩, (hiff.1 ⟨_, hassemble⟩).1.2, (hnames _ hassemble).2.1⟩

/-- The check lets a capacity pass of which no queue can be made. -/
theorem vast_queue_is_refused :
    let backends : List Backend := [⟨"consul", "consul-"⟩]
    let settings : CycleSettings := { eventCapacity := 4611686018427387904 }
    settings.check = .ok () ∧
    ((∀ b ∈ backends, b.scope ≠ "") ∧ ∀ name (i j : Fin backends.length),
      backends[i].owns name → backends[j].owns name → i = j) ∧
    Reconciler.assemble backends settings = .error .queueTooLarge :=
  ⟨rfl, Backend.apart_iff.1 (Backend.checkScopes_eq_ok_iff.1 rfl), rfl⟩

end RegistrySync
