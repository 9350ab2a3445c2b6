import RegistrySync.Proofs.Isolation

/-!
# What a call is about

A `World` stands for all collaborators of a cycle: it replies to a call as it likes, in view of all
calls so far. An answerer that keeps the calls as its state shows every such behaviour.

**About.** A call is about the object whose name it carries, and telling of an event is about the
object that the event names (`Call.subject?`). A failed listing is told under its scope, so it is
told of the object that bears the scope as its name, if there is one.

An update carries the name that the object had when it was read. So settling an entry is about this
entry alone (`subject_of_mem_settleEntry`), and the turn of a backend about objects of this backend
(`owns_of_subject`), as far as objects are read by their names. The world `misread` reads others.
-/

namespace RegistrySync

namespace Cycle

/-- What is replied to a call after the calls so far, the latest first. -/
abbrev World := (past : List Call) → (c : Call) → c.Reply

/-- Replies of the world, with the calls so far as the state. -/
def World.answer (w : World) : Answerer Call.Reply (List Call) :=
  fun c past => (w past c, c :: past)

/-- The object that a call carries or that an event names. -/
def Call.subject? : Call → Option String
  | .lookup name | .get name | .delete name => some name
  | .create entry | .update entry => some entry.name
  | .tell event => event.object?
  | .members _ | .list _ => none

/-- The object that an update carries. -/
def Call.updated? : Call → Option String
  | .update entry => some entry.name
  | .members _ | .lookup _ | .list _ | .get _ | .create _ | .delete _ | .tell _ => none

/-- The calls about an object, events among them, the latest first. -/
def callsAbout (name : String) (past : List Call) : List Call :=
  past.filter fun c => c.subject? = some name

/-! ## Reading by name -/

section

variable {σ : Type} {answer : Answerer Call.Reply σ} {s : σ} {x : Call × σ}

theorem ReadsByName.mono {calls calls' : List (Call × σ)} (h : ReadsByName answer calls')
    (hsub : calls ⊆ calls') : ReadsByName answer calls :=
  fun name w entry hmem => h name w entry (hsub hmem)

/-! ## One entry, one object -/

/-- **Settling an entry is about this entry alone**, if it is read by its name. -/
theorem subject_of_mem_settleEntry {desired : ServiceEntry}
    (hread : ReadsByName answer ((settleEntry desired).trace answer s))
    (hx : x ∈ (settleEntry desired).trace answer s) : x.1.subject? = some desired.name := by
  cases settling_of_mem_settleEntry hx with
  | lookup w | create w | get w => rfl
  | @update w entry hget hnext =>
    exact congrArg some (hread _ w entry (hnext.subset List.mem_cons_self) hget)
  | tell event w =>
    obtain ⟨next, hnext, hserves⟩ := settleEntry_eq desired
    rw [hnext] at hx
    rcases List.mem_cons.1 hx with h | hx
    · cases h
    · exact (hserves _).of_mem_trace hx

theorem Call.Removes.subject?_eq {name : String} {c : Call} (h : c.Removes name) :
    c.subject? = some name := by
  cases c with
  | delete other => exact congrArg some h
  | tell event =>
    cases event with
    | deleted other | failed other operation message => exact congrArg some h
    | _ => cases h
  | _ => cases h

theorem subject_of_mem_deleteObject {name : String}
    (hx : x ∈ (deleteObject name).trace answer s) : x.1.subject? = some name :=
  ((only_deleteObject name).of_mem_trace hx).subject?_eq

/-! ## The turn of a backend -/

theorem owns_scope (b : Backend) : b.owns b.scope :=
  Backend.owns_iff_begins.2 (List.prefix_refl _)

theorem owns_of_mem_strays {b : Backend} {members : Membership} {entries : List ServiceEntry}
    {name : String} (h : name ∈ (entries.filter (isStray b members)).map (·.name)) :
    b.owns name := by
  obtain ⟨entry, hentry, rfl⟩ := List.mem_map.1 h
  exact owns_iff_member_or_stray.2 (.inr (isStray_iff.1 (List.mem_filter.1 hentry).2))

theorem owns_of_subject_sweep {b : Backend} {members : Membership} {name : String}
    (hx : x ∈ (sweep b members).trace answer s) (hname : x.1.subject? = some name) :
    b.owns name := by
  cases hlist : (answer (.list b.scope) s).1 with
  | error f =>
    rw [trace_sweep_of_error hlist, List.mem_cons, List.mem_singleton] at hx
    rcases hx with rfl | rfl
    · cases hname
    · cases hname
      exact owns_scope b
  | ok entries =>
    rw [trace_sweep_of_ok hlist, List.mem_cons] at hx
    rcases hx with rfl | hx
    · cases hname
    · rw [sweepObjects_eq_deletes] at hx
      obtain ⟨stage, hstage, hx⟩ := mem_trace_tallyEach hx
      rw [subject_of_mem_deleteObject hx] at hname
      cases hname
      exact owns_of_mem_strays (Dialogue.mem_of_mem_stages hstage)

/-- **The turn of a backend is about its own objects**, if they are read by their names. -/
theorem owns_of_subject {namespaceName : String} {b : Backend} {name : String}
    (hread : ReadsByName answer ((syncBackend namespaceName b).trace answer s))
    (hx : x ∈ (syncBackend namespaceName b).trace answer s) (hname : x.1.subject? = some name) :
    b.owns name := by
  obtain ⟨v, htrace⟩ := trace_syncBackend namespaceName answer b s
  rw [htrace] at hx hread
  rcases List.mem_append.1 hx with hx | hx
  · rcases List.mem_cons.1 hx with rfl | hx
    · cases hname
    · obtain ⟨stage, hstage, hx⟩ := mem_trace_tallyEach hx
      have hwithin := (trace_stage_within hstage).subset
      rw [trace_settleMember] at hx hwithin
      have hmember := subject_of_mem_settleEntry (hread.mono fun y hy =>
        List.mem_append_left _ (List.mem_cons_of_mem _ (hwithin hy))) hx
      rw [hname] at hmember
      cases hmember
      exact b.owns_objectName stage.1.1
  · exact owns_of_subject_sweep hx hname

end

/-! ## Worlds in which reads go astray -/

/-- Two hosts, objects that say something else, and everything is granted. An orphan is listed, and
an object that bears the scope as its name. -/
def obliging : World
  | _, .members _ => (Table.empty.insert "a" []).insert "b" []
  | _, .lookup name => .ok (some ⟨{ name }, { hosts := ["other"], resolution := .static }⟩)
  | _, .list scope =>
    .ok (["x", ""].map fun host =>
      ⟨{ name := scope ++ host }, { hosts := [], resolution := .dns }⟩)
  | _, .get name => .ok ⟨{ name }, { hosts := ["other"], resolution := .static }⟩
  | _, .create entry => .ok entry
  | _, .update entry => .ok entry
  | _, .delete _ => .ok ()
  | _, .tell _ => ()

/-- The same, but whatever is read, it is the object of this name that is found. -/
def misread (name : String) : World
  | _, .get _ => .ok ⟨{ name }, { hosts := ["other"], resolution := .static }⟩
  | past, c => obliging past c

end Cycle

end RegistrySync
