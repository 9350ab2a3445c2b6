import RegistrySync.Proofs.History
import RegistrySync.Proofs.Turns

/-!
# Drills: cycles in which calls fail

A `Drill` runs a cycle against an object store that is both control plane and cache, while a
`FaultPlan` makes any choice of calls fail without effect.

**Work.** A part of a cycle works on names of its own, towards a goal for each (`Drill.Work`). It
leaves other names alone; a name about which a call failed stays as it was; and a name that no
failed call bears on has reached its goal. Parts with disjoint names compose (`Drill.Work.append`),
so that a loop over members with disjoint names does the work of all of them
(`Drill.does_tallyEach`).
-/

namespace RegistrySync

open RegistrySync.Cycle

namespace Cycle.Call

/-- The reply when the call fails. Reading a membership and telling the listener cannot fail. -/
def refusal? : (c : Call) → Failure → Option c.Reply
  | .members _, _ | .tell _, _ => none
  | .lookup _, f | .list _, f | .get _, f | .create _, f | .update _, f | .delete _, f =>
    some (.error f)

/-- What becomes of the object of this name depends on the call. -/
def BearsOn (name : String) : Call → Prop
  | .list scope => scope.toList <+: name.toList
  | c => c.object? = some name

theorem bearsOn_of_object? {c : Call} {name : String} (h : c.object? = some name) :
    c.BearsOn name := by
  cases c with
  | list scope => cases h
  | members b | lookup n | get n | create entry | update entry | delete n | tell event => exact h

end Cycle.Call

/-- A store lists the stray objects that it has. -/
theorem ObjectStore.WellKept.mem_list_of_stray {s : ObjectStore} (h : s.WellKept) {b : Backend}
    {m : Membership} {name : String} (hstray : Stray b m name) {entry : ServiceEntry}
    (hfind : s.find? name = some entry) : entry ∈ s.list b.scope := by
  obtain rfl := h.named hfind
  have howns : b.owns entry.name := owns_iff_member_or_stray.2 (.inr hstray)
  exact h.mem_list.2 ⟨hfind, Backend.owns_iff_begins.1 howns⟩

/-- Which calls are made to fail, by how many calls there were before. Nobody is told that an object
is missing. -/
structure FaultPlan where
  failure? : Nat → Option Failure
  not_isNotFound : ∀ {n f}, failure? n = some f → f.isNotFound = false

/-- No call fails. -/
def FaultPlan.calm : FaultPlan where
  failure? _ := none
  not_isNotFound h := nomatch h

/-- An object store, how many calls there have been, and those that were made to fail, the latest
first. -/
structure Drill where
  objects : ObjectStore
  calls : Nat := 0
  failed : List Call := []

namespace Drill

variable {members : Backend → Membership} {plan : FaultPlan} {ι : Type}

/-- Replies from the store, but for the calls that are made to fail. -/
def answer (members : Backend → Membership) (plan : FaultPlan) : Answerer Call.Reply Drill :=
  fun c w =>
    match (plan.failure? w.calls).bind c.refusal? with
    | some reply => (reply, { w with calls := w.calls + 1, failed := c :: w.failed })
    | none =>
      let r := ObjectStore.answer members c w.objects
      (r.1, { w with objects := r.2, calls := w.calls + 1 })

/-- A call is made to fail, or it is served. -/
theorem answer_cases (members : Backend → Membership) (plan : FaultPlan) (c : Call) (w : Drill) :
    (∃ f reply, f.isNotFound = false ∧ c.refusal? f = some reply ∧
      answer members plan c w = (reply, { w with calls := w.calls + 1, failed := c :: w.failed })) ∨
    answer members plan c w = ((ObjectStore.answer members c w.objects).1,
      { w with objects := (ObjectStore.answer members c w.objects).2, calls := w.calls + 1 }) := by
  cases hplan : plan.failure? w.calls with
  | none => exact .inr (by simp [answer, hplan])
  | some f =>
    cases hreply : c.refusal? f with
    | none => exact .inr (by simp [answer, hplan, hreply])
    | some reply =>
      exact .inl ⟨f, reply, plan.not_isNotFound hplan, hreply, by simp [answer, hplan, hreply]⟩

/-- Without failures there is only the store. -/
theorem answer_calm (c : Call) (w : Drill) : answer members .calm c w =
    ((ObjectStore.answer members c w.objects).1,
      { w with objects := (ObjectStore.answer members c w.objects).2, calls := w.calls + 1 }) := rfl

@[simp] theorem answer_tell (event : Event) (w : Drill) :
    answer members plan (.tell event) w = ((), { w with calls := w.calls + 1 }) := by
  rcases answer_cases members plan (.tell event) w with ⟨f, reply, -, hreply, -⟩ | h
  · cases hreply
  · exact h

@[simp] theorem answer_members (b : Backend) (w : Drill) :
    answer members plan (.members b) w = (members b, { w with calls := w.calls + 1 }) := by
  rcases answer_cases members plan (.members b) w with ⟨f, reply, -, hreply, -⟩ | h
  · cases hreply
  · exact h

/-- Telling something only counts as a call. -/
theorem run_tell {α : Type} (event : Event) (next : Unit → Steps α) (w : Drill) :
    ((tell event).bind next).run (answer members plan) w =
      (next ()).run (answer members plan) { w with calls := w.calls + 1 } := by
  show (next (answer members plan (.tell event) w).1).run _
    (answer members plan (.tell event) w).2 = _
  rw [answer_tell]

theorem run_fail {α : Type} (name : String) (operation : Operation) (f : Failure) (w : Drill) :
    (fail name operation f : Steps (Except Failure α)).run (answer members plan) w =
      (.error f, { w with calls := w.calls + 1 }) :=
  run_tell _ _ w

theorem reachable_answer (c : Call) (w : Drill) (h : w.objects.Reachable) :
    (answer members plan c w).2.objects.Reachable := by
  rcases answer_cases members plan c w with ⟨f, reply, -, -, hc⟩ | hc
  · rwa [hc]
  · rw [hc]
    exact h.answer members c

/-! ## Work -/

/-- From `w` to `w'` there was work on `names` towards `goal`, in which the calls of `failed` were
made to fail. -/
structure Work (names : String → Prop) (goal : String → Option ServiceEntry → Prop) (w w' : Drill)
    (failed : List Call) : Prop where
  failed_eq : w'.failed = failed ++ w.failed
  own : ∀ c ∈ failed, ∀ name, c.object? = some name → names name
  frame : ∀ name, ¬ names name → w'.objects.find? name = w.objects.find? name
  troubled : ∀ c ∈ failed, ∀ name, c.object? = some name →
    w'.objects.find? name = w.objects.find? name
  settled : ∀ name, names name → (∀ c ∈ failed, ¬ c.BearsOn name) →
    goal name (w'.objects.find? name)

/-- Run from any store with a history, `m` works on `names` towards `goal` and counts its
failures. -/
def Does (members : Backend → Membership) (plan : FaultPlan) (names : String → Prop)
    (goal : String → Option ServiceEntry → Prop) (m : Steps Tally) : Prop :=
  ∀ w : Drill, w.objects.Reachable → ∃ failed,
    Work names goal w (m.run (answer members plan) w).2 failed ∧
      (m.run (answer members plan) w).1.failed = failed.length

namespace Work

variable {names names' : String → Prop} {goal goal' : String → Option ServiceEntry → Prop}
  {w w' w'' : Drill} {failed failed' : List Call}

/-- Calls that change nothing do not count. -/
theorem of_calls {k : Nat} (h : Work names goal { w with calls := k } w' failed) :
    Work names goal w w' failed :=
  ⟨h.failed_eq, h.own, h.frame, h.troubled, h.settled⟩

/-- A call about the one name failed. -/
theorem refused {c : Call} {name : String} (h : c.object? = some name) (k : Nat) :
    Work (· = name) goal w { w with calls := k, failed := c :: w.failed } [c] where
  failed_eq := rfl
  own d hd n hn := by
    rw [List.mem_singleton.1 hd, h] at hn
    exact (Option.some.inj hn).symm
  frame _ _ := rfl
  troubled _ _ _ _ := rfl
  settled n hn hnone := by
    refine absurd ?_ (hnone c List.mem_cons_self)
    rw [hn]
    exact Call.bearsOn_of_object? h

/-- The one name has reached its goal, and others are as they were. -/
theorem reached {name : String} {s : ObjectStore} (hgoal : goal name (s.find? name))
    (hframe : ∀ other ≠ name, s.find? other = w.objects.find? other) (k : Nat) :
    Work (· = name) goal w { w with objects := s, calls := k } [] where
  failed_eq := rfl
  own _ hc := nomatch hc
  frame := hframe
  troubled _ hc := nomatch hc
  settled n hn _ := by
    rw [hn]
    exact hgoal

/-- There is nothing to do. -/
theorem nothing : Work (fun _ => False) goal w w [] where
  failed_eq := rfl
  own _ hc := nomatch hc
  frame _ _ := rfl
  troubled _ hc := nomatch hc
  settled _ hn := hn.elim

/-- **Work on disjoint names, first some and then others.** -/
theorem append (h : Work names goal w w' failed) (h' : Work names' goal' w' w'' failed')
    (hdisjoint : ∀ name, names name → ¬ names' name) :
    Work (fun name => names name ∨ names' name)
      (fun name o => (names name → goal name o) ∧ (names' name → goal' name o)) w w''
      (failed' ++ failed) where
  failed_eq := by rw [h'.failed_eq, h.failed_eq, List.append_assoc]
  own c hc name hname := by
    rcases List.mem_append.1 hc with hc | hc
    · exact .inr (h'.own c hc name hname)
    · exact .inl (h.own c hc name hname)
  frame name hname := by
    obtain ⟨hn, hn'⟩ := not_or.1 hname
    rw [h'.frame name hn', h.frame name hn]
  -- A failed call is about a name of its own part, and the other part leaves that name alone.
  troubled c hc name hname := by
    rcases List.mem_append.1 hc with hc | hc
    · have hn : ¬ names name := fun hn => hdisjoint name hn (h'.own c hc name hname)
      rw [h'.troubled c hc name hname, h.frame name hn]
    · have hn' : ¬ names' name := hdisjoint name (h.own c hc name hname)
      rw [h'.frame name hn', h.troubled c hc name hname]
  settled name _ hnone := by
    refine ⟨fun hn => ?_, fun hn' => ?_⟩
    · rw [h'.frame name (hdisjoint name hn)]
      exact h.settled name hn fun c hc => hnone c (List.mem_append_right failed' hc)
    · exact h'.settled name hn' fun c hc => hnone c (List.mem_append_left failed hc)

/-- Names that are there already as they shall be may be counted in. -/
theorem widen (h : Work names goal w w' failed) (hnames : ∀ name, names name → names' name)
    (hgoal : ∀ name o, names name → goal name o → goal' name o)
    (hrest : ∀ name, names' name → ¬ names name → goal' name (w.objects.find? name)) :
    Work names' goal' w w' failed where
  failed_eq := h.failed_eq
  own c hc name hname := hnames name (h.own c hc name hname)
  frame name hname := h.frame name fun hn => hname (hnames name hn)
  troubled := h.troubled
  settled name hname hnone := by
    by_cases hn : names name
    · exact hgoal name _ hn (h.settled name hn hnone)
    · rw [h.frame name hn]
      exact hrest name hname hn

end Work

namespace Does

variable {names names' : String → Prop} {goal goal' : String → Option ServiceEntry → Prop}
  {m m' : Steps Tally}

/-- The same work under other names. -/
theorem imp (h : Does members plan names goal m) (hnames : ∀ name, names name ↔ names' name)
    (hgoal : ∀ name o, names name → goal name o → goal' name o) :
    Does members plan names' goal' m := by
  intro w hw
  obtain ⟨failed, hwork, hcount⟩ := h w hw
  refine ⟨failed, hwork.widen (fun name => (hnames name).1) hgoal fun name hn' hn => ?_, hcount⟩
  exact absurd ((hnames name).2 hn') hn

theorem append (h : Does members plan names goal m) (h' : Does members plan names' goal' m')
    (hdisjoint : ∀ name, names name → ¬ names' name) :
    Does members plan (fun name => names name ∨ names' name)
      (fun name o => (names name → goal name o) ∧ (names' name → goal' name o))
      (m.bind fun first => m'.bind fun others => .done (first + others)) := by
  intro w hw
  obtain ⟨failed, hwork, hcount⟩ := h w hw
  have hw' : (m.run (answer members plan) w).2.objects.Reachable :=
    Dialogue.run_keeps reachable_answer m hw
  obtain ⟨failed', hwork', hcount'⟩ := h' _ hw'
  refine ⟨failed' ++ failed, ?_, ?_⟩
  · simp only [Dialogue.run_bind, Dialogue.run_done]
    exact hwork.append hwork' hdisjoint
  · rw [List.length_append, ← hcount, ← hcount', Nat.add_comm]
    simp only [Dialogue.run_bind, Dialogue.run_done]
    rfl

end Does

/-- **A loop over members with disjoint names works on all of them.** -/
theorem does_tallyEach {names : ι → String → Prop} {goal : ι → String → Option ServiceEntry → Prop}
    {body : ι → Steps Tally} {is : List ι}
    (hdisjoint : is.Pairwise fun i j => ∀ name, names i name → ¬ names j name)
    (hbody : ∀ i ∈ is, Does members plan (names i) (goal i) (body i)) :
    Does members plan (fun name => ∃ i ∈ is, names i name)
      (fun name o => ∀ i ∈ is, names i name → goal i name o) (tallyEach body is) := by
  induction is with
  | nil =>
    have hnothing : Does members plan (fun _ => False) (fun _ _ => True) (tallyEach body []) :=
      fun w _ => ⟨[], .nothing, rfl⟩
    exact hnothing.imp (by simp) (by simp)
  | cons i is ih =>
    obtain ⟨hi, his⟩ := List.pairwise_cons.1 hdisjoint
    obtain ⟨hbi, hbis⟩ := List.forall_mem_cons.1 hbody
    refine (hbi.append (ih his hbis) fun name hn ⟨j, hj, hnj⟩ => hi j hj name hn hnj).imp ?_ ?_
    · intro name
      simp
    · rintro name o - ⟨hgoal, hgoal'⟩ j hj hn
      rcases List.mem_cons.1 hj with rfl | hj
      · exact hgoal hn
      · exact hgoal' ⟨j, hj, hn⟩ j hj hn

end Drill

end RegistrySync
