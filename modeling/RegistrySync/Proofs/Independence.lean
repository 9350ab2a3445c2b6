import RegistrySync.Proofs.Subjects

/-!
# Objects are treated apart

**Theorem (`cycle_treats_objects_apart`).** Two worlds answer the calls about an object alike, and
list it equally often. Objects are read by their names in both. Then a cycle makes the same calls
about this object in both and tells the same events of it, whatever else the worlds answer about
other objects and other backends. When a read finds another object, that one is updated in place of
the one asked for, and a failed listing is told of the object that bears the scope as its name; so
neither assumption can be spared (`treatment_not_apart`).

The calls about the object are compared at every point of the two cycles (`callsAbout`). A part of
the cycle that is about other objects adds none (`callsAbout_after_of_others`). A part that is about
the object alone gets the same replies in both worlds, so it adds the same calls
(`after_of_allAbout`). All other calls lead the two cycles apart only in what they do with other
objects: which members a turn settles is decided by the membership that it read, and what it deletes
by the listing. Loops are therefore compared by those of their members that the object belongs to
(`callsAbout_tallyEach`).
-/

namespace RegistrySync

namespace Cycle

variable {α β ι : Type} {name : String} {w w' : World} {past past' : List Call}

/-- Both worlds answer calls about the object by the earlier calls about it alone, and alike. -/
def AnswerAlike (name : String) (w w' : World) : Prop :=
  ∀ past past' c, c.subject? = some name → callsAbout name past = callsAbout name past' →
    w past c = w' past' c

/-- Both listings fail, or both contain the object equally often. A failure is told under the scope
listed, so for the object of that name it has to be the same. -/
def ListedAlike (scope name : String) :
    Except Failure (List ServiceEntry) → Except Failure (List ServiceEntry) → Prop
  | .ok entries, .ok entries' =>
    entries.countP (fun e => e.name = name) = entries'.countP (fun e => e.name = name)
  | .error f, .error f' => name = scope → f.message = f'.message
  | .ok _, .error _ | .error _, .ok _ => False

/-- The calls so far when `m` has run after those of `past`. -/
def World.after (w : World) (m : Steps α) (past : List Call) : List Call := (m.run w.answer past).2

/-- No reply depends on the calls so far. -/
def World.Forgetful (w : World) : Prop := ∀ past past' c, w past c = w past' c

/-- What `m` reads after the calls of `past` has the names asked for. -/
abbrev World.WellRead (w : World) (m : Steps α) (past : List Call) : Prop :=
  ReadsByName w.answer (m.trace w.answer past)

/-! ## Parts one after the other -/

theorem World.after_bind (m : Steps α) (f : α → Steps β) :
    w.after (m.bind f) past = w.after (f (m.run w.answer past).1) (w.after m past) := by
  rw [World.after, Dialogue.run_bind]
  rfl

theorem World.WellRead.of_bind {m : Steps α} {f : α → Steps β}
    (h : w.WellRead (m.bind f) past) :
    w.WellRead m past ∧ w.WellRead (f (m.run w.answer past).1) (w.after m past) := by
  rw [World.WellRead, Dialogue.trace_bind] at h
  exact ⟨h.mono (List.subset_append_left _ _), h.mono (List.subset_append_right _ _)⟩

section

variable {body : ι → Steps Tally} {i : ι} {is js : List ι}

theorem World.after_tallyEach_cons :
    w.after (tallyEach body (i :: is)) past =
      w.after (tallyEach body is) (w.after (body i) past) :=
  run_tallyEach_cons w.answer body i is past

theorem World.WellRead.of_tallyEach_cons (h : w.WellRead (tallyEach body (i :: is)) past) :
    w.WellRead (body i) past ∧ w.WellRead (tallyEach body is) (w.after (body i) past) :=
  ⟨h.of_bind.1, h.of_bind.2.of_bind.1⟩

theorem World.after_tallyEach_append :
    w.after (tallyEach body (is ++ js)) past =
      w.after (tallyEach body js) (w.after (tallyEach body is) past) := by
  induction is generalizing past with
  | nil => rfl
  | cons i is ih => rw [List.cons_append, after_tallyEach_cons, after_tallyEach_cons, ih]

theorem World.WellRead.of_tallyEach_append (h : w.WellRead (tallyEach body (is ++ js)) past) :
    w.WellRead (tallyEach body is) past ∧
      w.WellRead (tallyEach body js) (w.after (tallyEach body is) past) := by
  rw [World.WellRead, trace_tallyEach_append] at h
  exact ⟨h.mono (List.subset_append_left _ _), h.mono (List.subset_append_right _ _)⟩

end

/-! ## Parts about one object -/

theorem callsAbout_cons_of_other {c : Call} (h : c.subject? ≠ some name) :
    callsAbout name (c :: past) = callsAbout name past :=
  List.filter_cons_of_neg (by simpa using h)

theorem callsAbout_cons_of_about {c : Call} (h : c.subject? = some name) :
    callsAbout name (c :: past) = c :: callsAbout name past :=
  List.filter_cons_of_pos (by simpa using h)

/-- Calls about other objects do not show. -/
theorem callsAbout_after_of_others {m : Steps α}
    (h : ∀ x ∈ m.trace w.answer past, x.1.subject? ≠ some name) :
    callsAbout name (w.after m past) = callsAbout name past := by
  induction m generalizing past with
  | done a => rfl
  | ask c next ih =>
    obtain ⟨hc, hnext⟩ := List.forall_mem_cons.1 h
    exact (ih _ hnext).trans (callsAbout_cons_of_other hc)

theorem callsAbout_after_of_other {other : String} (hother : other ≠ name) {m : Steps α}
    (h : ∀ x ∈ m.trace w.answer past, x.1.subject? = some other) :
    callsAbout name (w.after m past) = callsAbout name past := by
  refine callsAbout_after_of_others fun x hx hname => hother ?_
  exact Option.some.inj ((h x hx).symm.trans hname)

/-- A part about the object alone goes the same way in both worlds. -/
theorem after_of_allAbout (halike : AnswerAlike name w w') {m : Steps α}
    (h : ∀ x ∈ m.trace w.answer past, x.1.subject? = some name)
    (hpast : callsAbout name past = callsAbout name past') :
    callsAbout name (w.after m past) = callsAbout name (w'.after m past') := by
  induction m generalizing past past' with
  | done a => exact hpast
  | ask c next ih =>
    obtain ⟨hc, hrest⟩ := List.forall_mem_cons.1 h
    have hreply : w past c = w' past' c := halike past past' c hc hpast
    have hnext : callsAbout name (c :: past) = callsAbout name (c :: past') := by
      rw [callsAbout_cons_of_about hc, callsAbout_cons_of_about hc, hpast]
    have hafter := ih (w past c) hrest hnext
    rw [World.after, World.after, Dialogue.run_ask, Dialogue.run_ask]
    show callsAbout name (w.after (next (w past c)) (c :: past)) =
      callsAbout name (w'.after (next (w' past' c)) (c :: past'))
    rw [← hreply]
    exact hafter

/-! ## Loops -/

section

variable {body : ι → Steps Tally} (own : ι → Bool)
  (hothers : ∀ i, ¬ own i → ∀ (v : World) past, v.WellRead (body i) past →
    callsAbout name (v.after (body i) past) = callsAbout name past)
include hothers

theorem callsAbout_tallyEach_of_others {is : List ι} (his : ∀ i ∈ is, ¬ own i)
    (hread : w.WellRead (tallyEach body is) past) :
    callsAbout name (w.after (tallyEach body is) past) = callsAbout name past := by
  induction is generalizing past with
  | nil => rfl
  | cons i is ih =>
    obtain ⟨hi, his⟩ := List.forall_mem_cons.1 his
    obtain ⟨hfirst, hrest⟩ := hread.of_tallyEach_cons
    rw [World.after_tallyEach_cons, ih his hrest, hothers i hi w past hfirst]

/-- Loops over different lists are alike for the object when the same members of both are its
own. -/
theorem callsAbout_tallyEach
    (hown : ∀ i, own i → ∀ past past', w.WellRead (body i) past →
      callsAbout name past = callsAbout name past' →
      callsAbout name (w.after (body i) past) = callsAbout name (w'.after (body i) past'))
    {is is' : List ι} (h : is.filter own = is'.filter own)
    (hread : w.WellRead (tallyEach body is) past) (hread' : w'.WellRead (tallyEach body is') past')
    (hpast : callsAbout name past = callsAbout name past') :
    callsAbout name (w.after (tallyEach body is) past) =
      callsAbout name (w'.after (tallyEach body is') past') := by
  generalize hjs : is.filter own = js at h
  induction js generalizing is is' past past' with
  | nil =>
    rw [callsAbout_tallyEach_of_others own hothers (List.filter_eq_nil_iff.1 hjs) hread,
      callsAbout_tallyEach_of_others own hothers (List.filter_eq_nil_iff.1 h.symm) hread', hpast]
  | cons j js ih =>
    -- What comes before the next own member adds nothing in either loop.
    obtain ⟨others, rest, rfl, hnone, hj, hrest⟩ := List.filter_eq_cons_iff.1 hjs
    obtain ⟨others', rest', rfl, hnone', -, hrest'⟩ := List.filter_eq_cons_iff.1 h.symm
    obtain ⟨hothersRead, hread⟩ := hread.of_tallyEach_append
    obtain ⟨hothersRead', hread'⟩ := hread'.of_tallyEach_append
    obtain ⟨hownRead, hrestRead⟩ := hread.of_tallyEach_cons
    rw [World.after_tallyEach_append, World.after_tallyEach_cons, World.after_tallyEach_append,
      World.after_tallyEach_cons]
    refine ih hrestRead hread'.of_tallyEach_cons.2 (hown j hj _ _ hownRead ?_) hrest hrest'.symm
    rw [callsAbout_tallyEach_of_others own hothers hnone hothersRead,
      callsAbout_tallyEach_of_others own hothers hnone' hothersRead', hpast]

end

/-! ## The turn of the owner -/

section

variable {b : Backend}

/-- Settling a member is about its object alone. -/
theorem subject_of_mem_settleMember {namespaceName : String} {m : String × List Endpoint}
    (hread : w.WellRead (settleMember b namespaceName m) past)
    {x : Call × List Call} (hx : x ∈ (settleMember b namespaceName m).trace w.answer past) :
    x.1.subject? = some (b.objectName m.1) := by
  rw [World.WellRead, trace_settleMember] at hread
  rw [trace_settleMember] at hx
  exact subject_of_mem_settleEntry hread hx

/-- The members are settled alike. -/
theorem callsAbout_settleHosts (halike : AnswerAlike name w w') {namespaceName : String}
    {members : Membership}
    (hread : w.WellRead (settleHosts b namespaceName members.entries) past)
    (hread' : w'.WellRead (settleHosts b namespaceName members.entries) past')
    (hpast : callsAbout name past = callsAbout name past') :
    callsAbout name (w.after (settleHosts b namespaceName members.entries) past) =
      callsAbout name (w'.after (settleHosts b namespaceName members.entries) past') := by
  rw [settleHosts_eq] at hread hread' ⊢
  refine callsAbout_tallyEach (fun m => b.objectName m.1 = name) ?_ ?_ rfl hread hread' hpast
  · intro m hm v past hread
    exact callsAbout_after_of_other (by simpa using hm) fun x => subject_of_mem_settleMember hread
  · intro m hm past past' hread hpast
    obtain rfl : b.objectName m.1 = name := by simpa using hm
    exact after_of_allAbout halike (fun x => subject_of_mem_settleMember hread) hpast

/-- A stray object is to be deleted as often as it is listed, and no other object at all. -/
theorem filter_strays (b : Backend) (members : Membership) (name : String)
    (entries : List ServiceEntry) [Decidable (Stray b members name)] :
    ((entries.filter (isStray b members)).map (·.name)).filter (· = name) =
      List.replicate (if Stray b members name then entries.countP fun e => e.name = name else 0)
        name := by
  have hall : ∀ other ∈ ((entries.filter (isStray b members)).map (·.name)).filter (· = name),
      other = name := fun other hother => of_decide_eq_true (List.mem_filter.1 hother).2
  rw [List.eq_replicate_of_mem hall, ← List.countP_eq_length_filter, List.countP_map,
    List.countP_filter]
  congr 1
  split
  · next hstray =>
    refine List.countP_congr fun e _ => ?_
    simp only [Function.comp, Bool.and_eq_true, decide_eq_true_eq]
    refine and_iff_left_of_imp fun hname => isStray_iff.2 ?_
    rwa [hname]
  · next hkept =>
    refine List.countP_eq_zero.2 fun e _ => ?_
    simp only [Function.comp, Bool.and_eq_true, decide_eq_true_eq, not_and]
    rintro rfl hstray
    exact hkept (isStray_iff.1 hstray)

/-- What is listed is swept alike. -/
theorem callsAbout_sweepObjects (halike : AnswerAlike name w w') {members : Membership}
    {entries entries' : List ServiceEntry}
    (hlisted : entries.countP (fun e => e.name = name) = entries'.countP (fun e => e.name = name))
    (hread : w.WellRead (sweepObjects b members entries) past)
    (hread' : w'.WellRead (sweepObjects b members entries') past')
    (hpast : callsAbout name past = callsAbout name past') :
    callsAbout name (w.after (sweepObjects b members entries) past) =
      callsAbout name (w'.after (sweepObjects b members entries') past') := by
  classical
  rw [sweepObjects_eq_deletes] at hread hread' ⊢
  rw [sweepObjects_eq_deletes]
  refine callsAbout_tallyEach (fun other => other = name) ?_ ?_ ?_ hread hread' hpast
  · intro other hother v past _
    exact callsAbout_after_of_other (by simpa using hother) fun x => subject_of_mem_deleteObject
  · intro other hother past past' _ hpast
    obtain rfl : other = name := by simpa using hother
    exact after_of_allAbout halike (fun x => subject_of_mem_deleteObject) hpast
  · rw [filter_strays, filter_strays, hlisted]

/-- A failed listing is told under its scope. -/
theorem World.after_sweep_of_error {members : Membership} {f : Failure}
    (h : w past (.list b.scope) = .error f) : w.after (sweep b members) past =
      .tell (.failed b.scope .lookup f.message) :: .list b.scope :: past := by
  simp [World.after, sweep, call, World.answer, h, fail, tell]

theorem World.after_sweep_of_ok {members : Membership} {entries : List ServiceEntry}
    (h : w past (.list b.scope) = .ok entries) : w.after (sweep b members) past =
      w.after (sweepObjects b members entries) (.list b.scope :: past) := by
  simp [World.after, sweep, call, World.answer, h, Dialogue.run_bind]

theorem World.WellRead.of_sweep {members : Membership} {entries : List ServiceEntry}
    (h : w past (.list b.scope) = .ok entries) (hread : w.WellRead (sweep b members) past) :
    w.WellRead (sweepObjects b members entries) (.list b.scope :: past) := by
  have htrace : (sweep b members).trace w.answer past = (.list b.scope, past) ::
      (sweepObjects b members entries).trace w.answer (.list b.scope :: past) :=
    trace_sweep_of_ok h
  rw [World.WellRead, htrace] at hread
  exact hread.mono (List.subset_cons_self _ _)

/-- A sweep goes the same way for the object when it is listed alike. -/
theorem callsAbout_sweep (halike : AnswerAlike name w w') {members : Membership}
    (hlisted : ListedAlike b.scope name (w past (.list b.scope)) (w' past' (.list b.scope)))
    (hread : w.WellRead (sweep b members) past) (hread' : w'.WellRead (sweep b members) past')
    (hpast : callsAbout name past = callsAbout name past') :
    callsAbout name (w.after (sweep b members) past) =
      callsAbout name (w'.after (sweep b members) past') := by
  have hlist : callsAbout name (.list b.scope :: past) = callsAbout name (.list b.scope :: past') :=
    hpast
  cases hreply : w past (.list b.scope) with
  | error f =>
    cases hreply' : w' past' (.list b.scope) with
    | ok entries' =>
      rw [hreply, hreply'] at hlisted
      exact hlisted.elim
    | error f' =>
      rw [hreply, hreply'] at hlisted
      rw [World.after_sweep_of_error hreply, World.after_sweep_of_error hreply']
      by_cases hscope : name = b.scope
      · have habout : ∀ message,
            (Call.tell (.failed b.scope .lookup message)).subject? = some name :=
          fun message => congrArg some hscope.symm
        rw [hlisted hscope, callsAbout_cons_of_about (habout _),
          callsAbout_cons_of_about (habout _), hlist]
      · have hother : ∀ message,
            (Call.tell (.failed b.scope .lookup message)).subject? ≠ some name :=
          fun message h => hscope (Option.some.inj h).symm
        rw [callsAbout_cons_of_other (hother _), callsAbout_cons_of_other (hother _), hlist]
  | ok entries =>
    cases hreply' : w' past' (.list b.scope) with
    | error f' =>
      rw [hreply, hreply'] at hlisted
      exact hlisted.elim
    | ok entries' =>
      rw [hreply, hreply'] at hlisted
      rw [World.after_sweep_of_ok hreply, World.after_sweep_of_ok hreply']
      exact callsAbout_sweepObjects halike hlisted (hread.of_sweep hreply)
        (hread'.of_sweep hreply') hlist

/-- A turn reads the membership, settles it, and sweeps in the state that this leaves. -/
theorem World.after_syncBackend (w : World) (namespaceName : String) (b : Backend)
    (past : List Call) :
    let members := w past (.members b)
    let settled := w.after (settleHosts b namespaceName members.entries) (.members b :: past)
    w.after (syncBackend namespaceName b) past = w.after (sweep b members) settled ∧
      (Call.list b.scope, settled) ∈ (syncBackend namespaceName b).trace w.answer past ∧
      (w.WellRead (syncBackend namespaceName b) past →
        w.WellRead (settleHosts b namespaceName members.entries) (.members b :: past) ∧
          w.WellRead (sweep b members) settled) := by
  intro members settled
  refine ⟨?_, ?_, fun hread => ?_⟩
  · simp only [World.after, syncBackend, call, Dialogue.bind_eq, Dialogue.ask_bind,
      Dialogue.done_bind, Dialogue.run_ask, Dialogue.run_bind, Dialogue.pure_eq_done,
      Dialogue.run_done]
    rfl
  · simp only [syncBackend, call, Dialogue.bind_eq, Dialogue.ask_bind, Dialogue.done_bind,
      Dialogue.trace_ask, Dialogue.trace_bind]
    refine List.mem_cons_of_mem _ (List.mem_append_right _ (List.mem_append_left _ ?_))
    exact List.mem_cons_self
  · exact ⟨hread.of_bind.2.of_bind.1, hread.of_bind.2.of_bind.2.of_bind.1⟩

theorem callsAbout_syncBackend (halike : AnswerAlike name w w') {namespaceName : String}
    (hmembers : w past (.members b) = w' past' (.members b))
    (hlisted : ∀ before before',
      (.list b.scope, before) ∈ (syncBackend namespaceName b).trace w.answer past →
      (.list b.scope, before') ∈ (syncBackend namespaceName b).trace w'.answer past' →
      ListedAlike b.scope name (w before (.list b.scope)) (w' before' (.list b.scope)))
    (hread : w.WellRead (syncBackend namespaceName b) past)
    (hread' : w'.WellRead (syncBackend namespaceName b) past')
    (hpast : callsAbout name past = callsAbout name past') :
    callsAbout name (w.after (syncBackend namespaceName b) past) =
      callsAbout name (w'.after (syncBackend namespaceName b) past') := by
  obtain ⟨hafter, hmem, hparts⟩ := w.after_syncBackend namespaceName b past
  obtain ⟨hafter', hmem', hparts'⟩ := w'.after_syncBackend namespaceName b past'
  obtain ⟨hsettle, hsweep⟩ := hparts hread
  obtain ⟨hsettle', hsweep'⟩ := hparts' hread'
  have hstart : callsAbout name (.members b :: past) = callsAbout name (.members b :: past') :=
    hpast
  rw [← hmembers] at hafter' hmem' hsettle' hsweep'
  rw [hafter, hafter']
  exact callsAbout_sweep halike (hlisted _ _ hmem hmem') hsweep hsweep'
    (callsAbout_settleHosts halike hsettle hsettle' hstart)

end

/-! ## Whole cycles -/

/-- The turn that comes after those of other backends. -/
theorem mem_turns_append (namespaceName : String) (first rest : List Backend) (b : Backend) :
    (b, w.after (tallyEach (syncBackend namespaceName) first) past) ∈
      turns namespaceName w.answer (first ++ b :: rest) past := by
  induction first generalizing past with
  | nil => exact List.mem_cons_self
  | cons c first ih =>
    rw [World.after_tallyEach_cons]
    exact List.mem_cons_of_mem _ ih

/-- The turns of other backends do not show. -/
theorem callsAbout_turns_of_others {bs : List Backend} (hbs : ∀ b ∈ bs, ¬ b.owns name)
    {namespaceName : String} (hread : w.WellRead (tallyEach (syncBackend namespaceName) bs) past) :
    callsAbout name (w.after (tallyEach (syncBackend namespaceName) bs) past) =
      callsAbout name past := by
  refine callsAbout_tallyEach_of_others (fun b => b.owns name) ?_ hbs hread
  intro b hb v past hread
  exact callsAbout_after_of_others fun x hx hname => hb (owns_of_subject hread hx hname)

theorem callsAbout_once (halike : AnswerAlike name w w') {bs : List Backend}
    (hapart : Backend.Apart bs) {b : Backend} (hb : b ∈ bs) (hname : b.owns name)
    {namespaceName : String} (hread : w.WellRead (once namespaceName bs) past)
    (hread' : w'.WellRead (once namespaceName bs) past')
    (hmembers : ∀ past past', w past (.members b) = w' past' (.members b))
    (hlisted : ∀ before before',
      (.list b.scope, before) ∈ (once namespaceName bs).trace w.answer past →
      (.list b.scope, before') ∈ (once namespaceName bs).trace w'.answer past' →
      ListedAlike b.scope name (w before (.list b.scope)) (w' before' (.list b.scope)))
    (hpast : callsAbout name past = callsAbout name past') :
    callsAbout name (w.after (once namespaceName bs) past) =
      callsAbout name (w'.after (once namespaceName bs) past') := by
  have hturns : ∀ v : World, ∀ past, callsAbout name (v.after (once namespaceName bs) past) =
      callsAbout name (v.after (tallyEach (syncBackend namespaceName) bs) past) := by
    intro v past
    rw [once, syncBackends_eq, Dialogue.bind_eq, World.after_bind]
    apply callsAbout_cons_of_other
    intro h
    cases h
  have hparts : ∀ v : World, ∀ past, v.WellRead (once namespaceName bs) past →
      v.WellRead (tallyEach (syncBackend namespaceName) bs) past := by
    intro v past h
    rw [← syncBackends_eq]
    exact h.of_bind.1
  replace hread := hparts w past hread
  replace hread' := hparts w' past' hread'
  obtain ⟨first, rest, rfl⟩ := List.append_of_mem hb
  obtain ⟨-, hrest, hfirst⟩ := List.pairwise_append.1 hapart.pairwise_owns
  have hfirst : ∀ c ∈ first, ¬ c.owns name := fun c hc hown =>
    hfirst c hc b List.mem_cons_self name hown hname
  have hrest : ∀ c ∈ rest, ¬ c.owns name := fun c hc hown =>
    (List.pairwise_cons.1 hrest).1 c hc name hname hown
  obtain ⟨hbefore, hread⟩ := hread.of_tallyEach_append
  obtain ⟨hbefore', hread'⟩ := hread'.of_tallyEach_append
  obtain ⟨hturn, hlater⟩ := hread.of_tallyEach_cons
  obtain ⟨hturn', hlater'⟩ := hread'.of_tallyEach_cons
  rw [hturns, hturns, World.after_tallyEach_append, World.after_tallyEach_append,
    World.after_tallyEach_cons, World.after_tallyEach_cons,
    callsAbout_turns_of_others hrest hlater, callsAbout_turns_of_others hrest hlater']
  refine callsAbout_syncBackend halike (hmembers _ _) ?_ hturn hturn' ?_
  · intro before before' hmem hmem'
    exact hlisted before before'
      ((trace_turn_within (mem_turns_append namespaceName first rest b)).subset hmem)
      ((trace_turn_within (mem_turns_append namespaceName first rest b)).subset hmem')
  · rw [callsAbout_turns_of_others hfirst hbefore, callsAbout_turns_of_others hfirst hbefore',
      hpast]

end Cycle

open RegistrySync.Cycle

/-- Two worlds answer calls about an object alike, by the earlier calls about it, and in both cycles
objects are read by their names. The worlds publish the same for the owner of the object, and its
listings in the two cycles both fail or contain the object equally often; an object that bears the
scope as its name is told of failed listings, which then have to fail alike. Then the cycles make
the same calls about the object, with the same contents, and tell the same events of it, in the same
order. -/
theorem cycle_treats_objects_apart {backends : List Backend} {settings : CycleSettings}
    {r : Reconciler} (h : Reconciler.assemble backends settings = .ok r) {b : Backend}
    (hb : b ∈ backends) {name : String} (hname : b.owns name) {w w' : World}
    (hread : ReadsByName w.answer (r.cycle.trace w.answer []))
    (hread' : ReadsByName w'.answer (r.cycle.trace w'.answer []))
    (halike : AnswerAlike name w w')
    (hmembers : ∀ past past', w past (.members b) = w' past' (.members b))
    (hlisted : ∀ past past', (.list b.scope, past) ∈ r.cycle.trace w.answer [] →
      (.list b.scope, past') ∈ r.cycle.trace w'.answer [] →
      ListedAlike b.scope name (w past (.list b.scope)) (w' past' (.list b.scope))) :
    callsAbout name (w.after r.cycle []) = callsAbout name (w'.after r.cycle []) := by
  obtain ⟨-, hapart, rfl⟩ := Reconciler.assemble_eq_ok_iff.1 h
  exact callsAbout_once halike hapart hb hname hread hread' hmembers hlisted rfl

/-- The call deletes the object. -/
def Cycle.Call.isDelete (name : String) : Call → Bool
  | .delete other => other = name
  | _ => false

/-- Whether an object was deleted before, the calls about it tell. -/
theorem any_isDelete_callsAbout (name : String) (past : List Call) :
    (callsAbout name past).any (·.isDelete name) = past.any (·.isDelete name) := by
  rw [callsAbout, List.any_filter]
  congr 1
  funext c
  cases c <;> simp [Call.isDelete, Call.subject?]

/-- Two hosts are updated, and an orphan that is listed twice is deleted at the second try. -/
def calm : World
  | _, .list scope =>
    .ok (["x", "x"].map fun host =>
      ⟨{ name := scope ++ host }, { hosts := [], resolution := .dns }⟩)
  | past, .delete name =>
    if past.any (·.isDelete name) then .ok () else .error (.controlPlane "busy")
  | past, c => obliging past c

/-- The same for one object, but with others everything goes wrong: one update conflicts and another
host cannot be looked up, more orphans are listed and cannot be deleted, and the second registry has
lost its hosts and cannot be listed. -/
def troubled : World
  | past, .members b => if b = CloudMap.backend then .empty else calm past (.members b)
  | past, .lookup name =>
    if name = "consul-b" then .error (.controlPlane "down") else calm past (.lookup name)
  | _, .list scope =>
    if scope = CloudMap.backend.scope then .error (.controlPlane "down")
    else .ok (["y", "x", "a", "x", "z"].map fun host =>
      ⟨{ name := scope ++ host }, { hosts := [], resolution := .dns }⟩)
  | past, .update entry =>
    if entry.name = "consul-a" then .error (.conflict "stale") else calm past (.update entry)
  | past, .delete name =>
    if name = "consul-x" then calm past (.delete name) else .error (.controlPlane "down")
  | past, c => calm past c

theorem answerAlike_calm_troubled : AnswerAlike "consul-x" calm troubled := by
  intro past past' c hc hpast
  cases c with
  | members b | list scope => cases hc
  | delete name =>
    cases hc
    simp only [calm, troubled, ← any_isDelete_callsAbout "consul-x" past, hpast,
      any_isDelete_callsAbout, if_true]
  | lookup name =>
    cases hc
    rfl
  | update entry =>
    have hname : entry.name ≠ "consul-a" := by
      rw [Option.some.inj hc]
      decide
    exact (if_neg hname).symm
  | get name | create entry | tell event => rfl

theorem troubled_cycle_treats_object_alike :
    let r : Reconciler := ⟨[Consul.backend, CloudMap.backend], {}⟩
    Reconciler.assemble [Consul.backend, CloudMap.backend] {} = .ok r ∧
    (r.cycle.run calm.answer []).1 = { updated := 4, deleted := 2, failed := 2 } ∧
    (r.cycle.run troubled.answer []).1 = { deleted := 1, failed := 6 } ∧
    callsAbout "consul-x" (calm.after r.cycle []) =
      callsAbout "consul-x" (troubled.after r.cycle []) ∧
    callsAbout "consul-x" (troubled.after r.cycle []) =
      [.tell (.deleted "consul-x"), .delete "consul-x",
        .tell (.failed "consul-x" .delete (Failure.controlPlane "busy").message),
        .delete "consul-x"] := by
  intro r
  have hassemble : Reconciler.assemble [Consul.backend, CloudMap.backend] {} = .ok r := rfl
  have hread : ∀ calls, ReadsByName calm.answer calls := by
    rintro calls name past entry - hget
    cases hget
    rfl
  have hread' : ∀ calls, ReadsByName troubled.answer calls := by
    rintro calls name past entry - hget
    cases hget
    rfl
  have halike := cycle_treats_objects_apart hassemble List.mem_cons_self (by rfl) (hread _)
    (hread' _) answerAlike_calm_troubled (fun _ _ => rfl) fun _ _ _ _ => rfl
  refine ⟨hassemble, by decide +kernel, by decide +kernel, halike, ?_⟩
  rw [← halike]
  rfl

/-- As `obliging`, but no listing comes through. -/
def unlisted (f : Failure) : World
  | _, .list _ => .error f
  | past, c => obliging past c

/-- **Objects are not treated apart where reads find other objects, nor is the object that bears a
scope as its name told of failed listings alike.** The replies of all these worlds depend on no
earlier calls, and two each agree on the calls about an object, on memberships and on whether the
listing fails and what it contains. -/
theorem treatment_not_apart :
    let r : Reconciler := ⟨[Consul.backend], {}⟩
    Reconciler.assemble [Consul.backend] {} = .ok r ∧
    (obliging.Forgetful ∧ (misread "consul-a").Forgetful ∧
      AnswerAlike "consul-a" obliging (misread "consul-a") ∧
      (∀ b, obliging [] (.members b) = misread "consul-a" [] (.members b)) ∧
      (∀ scope, obliging [] (.list scope) = misread "consul-a" [] (.list scope)) ∧
      callsAbout "consul-a" (obliging.after r.cycle []) ≠
        callsAbout "consul-a" ((misread "consul-a").after r.cycle [])) ∧
    ((∀ f, (unlisted f).Forgetful) ∧
      (∀ f f', AnswerAlike "consul-" (unlisted f) (unlisted f')) ∧
      (∀ f f' b, unlisted f [] (.members b) = unlisted f' [] (.members b)) ∧
      (∀ f scope, unlisted f [] (.list scope) = .error f) ∧
      callsAbout "consul-" ((unlisted (.http "timeout")).after r.cycle []) ≠
        callsAbout "consul-" ((unlisted (.http "refused")).after r.cycle [])) := by
  intro r
  refine ⟨rfl, ⟨?_, ?_, ?_, fun _ => rfl, fun _ => rfl, ?_⟩, ?_, ?_, fun _ _ _ => rfl,
    fun _ _ => rfl, ?_⟩
  · rintro past past' (_ | _)
    all_goals rfl
  · rintro past past' (_ | _)
    all_goals rfl
  · rintro past past' c hc -
    cases c with
    | get name =>
      cases hc
      rfl
    | _ => rfl
  · intro h
    have hobliging : (callsAbout "consul-a" (obliging.after r.cycle [])).length = 4 := rfl
    have hmisread :
        (callsAbout "consul-a" ((misread "consul-a").after r.cycle [])).length = 5 := rfl
    rw [h, hmisread] at hobliging
    cases hobliging
  · rintro f past past' (_ | _)
    all_goals rfl
  · rintro f f' past past' c hc -
    cases c with
    | list scope => cases hc
    | _ => rfl
  · have htold : ∀ f, callsAbout "consul-" ((unlisted f).after r.cycle []) =
        [.tell (.failed "consul-" .lookup f.message)] := fun _ => rfl
    have hmessage : (Failure.http "timeout").message ≠ (Failure.http "refused").message := by decide
    intro h
    rw [htold, htold] at h
    exact hmessage (Event.failed.inj (Call.tell.inj (List.cons.inj h).1)).2.2

end RegistrySync
