import Mathlib.Algebra.GroupWithZero.Nat
import RegistrySync.Proofs.Subjects
import RegistrySync.Reconcile.EventQueue

/-!
# The books of a cycle

**Theorem (`cycle_books_balance`).** Whatever is replied, the tally of a cycle counts the calls that
were granted and those that failed, and every host that was read is counted once. What is told is
what was counted, call by call and in order, and at the end the tally itself.

What a call did (`Call.news?`), what is told (`Call.told?`) and what is added up are three things;
`Books` says of a stretch of calls that they agree. Stretches are joined (`Books.append`). A call is
either followed at once by what is told of it (`Books.announced`), or nothing is to be told
(`Books.quiet`).

An update is told under the name that was asked for in the read at once before (`askedFor`). It is
not the name of the object that is written where that read finds another object
(`misread_update_told_as_asked`).

Hosts are read first and settled one by one after that, so the two numbers agree only at the end of
a turn. `Books` therefore carries how many more hosts are settled than read: one for a host
(`bookedAs_settleEntry`), none for a sweep (`bookedAs_sweep`), and none for a turn
(`booked_syncBackend`).
-/

namespace RegistrySync

/-! ## Tallies of events -/

def Event.isUnchanged : Event → Bool
  | .unchanged _ => true
  | _ => false

/-- What an event adds to the tally. -/
def Event.tally : Event → Tally
  | .created _ => { created := 1 }
  | .updated _ => { updated := 1 }
  | .unchanged _ => { unchanged := 1 }
  | .deleted _ => { deleted := 1 }
  | .failed _ _ _ => { failed := 1 }
  | .started _ | .cycleCompleted _ | .stopped _ => {}

namespace Tally

/-- Hosts that were created, updated or left alone, and all failures. -/
def settled (t : Tally) : Nat := t.created + t.updated + t.unchanged + t.failed

/-- The tally of the events told. -/
def ofEvents (events : List Event) : Tally := events.foldr (fun e t => e.tally + t) {}

theorem add_assoc (a b c : Tally) : a + b + c = a + (b + c) := by
  show (⟨_, _, _, _, _⟩ : Tally) = ⟨_, _, _, _, _⟩
  congr 1 <;> exact Nat.add_assoc ..

theorem ofEvents_append (es es' : List Event) :
    ofEvents (es ++ es') = ofEvents es + ofEvents es' := by
  induction es with
  | nil => exact (empty_add _).symm
  | cons e es ih =>
    show e.tally + ofEvents (es ++ es') = e.tally + ofEvents es + ofEvents es'
    rw [ih, add_assoc]

/-- Without the objects left alone, all else is as it was. -/
theorem ofEvents_changes (events : List Event) :
    { ofEvents events with unchanged := 0 } = ofEvents (events.filter (!·.isUnchanged)) := by
  induction events with
  | nil => rfl
  | cons e events ih =>
    have hadd : { e.tally + ofEvents events with unchanged := 0 } =
        { e.tally with unchanged := 0 } + { ofEvents events with unchanged := 0 } := rfl
    show { e.tally + ofEvents events with unchanged := 0 } = _
    rw [hadd, ih]
    cases e with
    | unchanged name => exact empty_add _
    | _ => rfl

theorem settled_add (t t' : Tally) : (t + t').settled = t.settled + t'.settled := by
  show (t.created + t'.created) + (t.updated + t'.updated) + (t.unchanged + t'.unchanged) +
    (t.failed + t'.failed) = _
  simp only [settled]
  omega

end Tally

namespace Cycle

variable {α ι : Type} {w : World} {past : List Call}

/-! ## What is to be told of a call -/

/-- The event that a call tells. -/
def Call.told? : Call → Option Event
  | .tell event => some event
  | .members _ | .lookup _ | .list _ | .get _ | .create _ | .update _ | .delete _ => none

/-- The name that the object to update was asked for by, when it was read at once before. -/
def askedFor (past : List Call) (entry : ServiceEntry) : String :=
  match past with
  | .get name :: _ => name
  | _ => entry.name

/-- What is to be told of a call that was replied to: which object was written, or what failed. An
update is told under the name that was asked for, a failed listing under its scope. That an object
is gone is told neither of a read nor of a deletion. -/
def Call.news? (past : List Call) : (c : Call) → c.Reply → Option Event
  | .lookup name, .error f => some (.failed name .lookup f.message)
  | .list scope, .error f => some (.failed scope .lookup f.message)
  | .get name, .error f => if f.isNotFound then none else some (.failed name .get f.message)
  | .create entry, .ok _ => some (.created entry.name)
  | .create entry, .error f => some (.failed entry.name .create f.message)
  | .update entry, .ok _ => some (.updated (askedFor past entry))
  | .update entry, .error f => some (.failed (askedFor past entry) .update f.message)
  | .delete name, .ok _ => some (.deleted name)
  | .delete name, .error f => if f.isNotFound then none else some (.failed name .delete f.message)
  | _, _ => none

/-- A creation was granted. -/
def Call.creates : (c : Call) → c.Reply → Bool
  | .create _, .ok _ => true
  | _, _ => false

/-- An update was granted. -/
def Call.updates : (c : Call) → c.Reply → Bool
  | .update _, .ok _ => true
  | _, _ => false

/-- A deletion was granted. -/
def Call.deletes : (c : Call) → c.Reply → Bool
  | .delete _, .ok _ => true
  | _, _ => false

/-- A call failed. That the object is gone is no failure of a read or a deletion. -/
def Call.fails : (c : Call) → c.Reply → Bool
  | .lookup _, .error _ | .list _, .error _ | .create _, .error _ | .update _, .error _ => true
  | .get _, .error f | .delete _, .error f => !f.isNotFound
  | _, _ => false

def Call.failsListing : (c : Call) → c.Reply → Bool
  | .list _, .error _ => true
  | _, _ => false

def Call.failsDeletion : (c : Call) → c.Reply → Bool
  | .delete _, .error f => !f.isNotFound
  | _, _ => false

/-- How many hosts were read. -/
def Call.hostsRead : (c : Call) → c.Reply → Nat
  | .members _, published => published.entries.length
  | _, _ => 0

/-- The call is part of a sweep. -/
def Call.sweeps : Call → Bool
  | .list _ | .delete _ => true
  | .members _ | .lookup _ | .get _ | .create _ | .update _ | .tell _ => false

/-- What is told of a call adds to the tally what the call did. -/
theorem tally_news (past : List Call) (c : Call) (reply : c.Reply) :
    Tally.ofEvents (c.news? past reply).toList = {
      created := (c.creates reply).toNat
      updated := (c.updates reply).toNat
      deleted := (c.deletes reply).toNat
      failed := (c.fails reply).toNat } := by
  cases c with
  | members b | tell event => rfl
  | lookup name | list scope | create entry | update entry => cases reply <;> rfl
  | get name | delete name =>
    cases reply with
    | ok u => rfl
    | error f => cases hf : f.isNotFound <;> simp [Call.news?, hf, Call.fails] <;> rfl

/-- What is told of a call is no event of a cycle or of an object left alone. A call for a host
tells what became of the host. -/
theorem settled_news {c : Call} {reply : c.Reply} {event : Event}
    (h : c.news? past reply = some event) :
    c.told? = none ∧ event.isUnchanged = false ∧ c.hostsRead reply = 0 ∧
      event.tally.settled = (c.failsListing reply).toNat + (c.failsDeletion reply).toNat +
        if c.sweeps then 0 else 1 := by
  cases c with
  | members b | tell event => cases h
  | lookup name | list scope | create entry | update entry =>
    cases reply <;> cases h
    all_goals exact ⟨rfl, rfl, rfl, rfl⟩
  | get name =>
    cases reply with
    | ok entry => cases h
    | error f =>
      obtain ⟨-, rfl⟩ : f.isNotFound = false ∧ _ = event := by simpa [Call.news?] using h
      exact ⟨rfl, rfl, rfl, rfl⟩
  | delete name =>
    cases reply with
    | ok u =>
      cases h
      exact ⟨rfl, rfl, rfl, rfl⟩
    | error f =>
      obtain ⟨hf, rfl⟩ : f.isNotFound = false ∧ _ = event := by simpa [Call.news?] using h
      refine ⟨rfl, rfl, rfl, ?_⟩
      simp only [Call.failsDeletion, hf]
      rfl

theorem not_fails_of_no_news {c : Call} {reply : c.Reply} (h : c.news? past reply = none) :
    c.failsListing reply = false ∧ c.failsDeletion reply = false := by
  cases c with
  | list scope =>
    cases reply with
    | ok entries => exact ⟨rfl, rfl⟩
    | error f => cases h
  | delete name =>
    cases reply with
    | ok u => cases h
    | error f =>
      have hf : f.isNotFound := by simpa [Call.news?] using h
      exact ⟨rfl, by simp [Call.failsDeletion, hf]⟩
  | members b | lookup name | get name | create entry | update entry | tell event =>
    exact ⟨rfl, rfl⟩

/-! ## Calls that are accounted for -/

/-- A property of calls and replies, of a call made after those so far. -/
def World.replied (w : World) (p : (c : Call) → c.Reply → α) (x : Call × List Call) : α :=
  p x.1 (w x.2 x.1)

/-- What is to be told of a call made after those so far. -/
def World.news? (w : World) (x : Call × List Call) : Option Event := x.1.news? x.2 (w x.2 x.1)

theorem countP_replied_cons (p : (c : Call) → c.Reply → Bool) (x : Call × List Call)
    (calls : List (Call × List Call)) : (x :: calls).countP (w.replied p) =
      (p x.1 (w x.2 x.1)).toNat + calls.countP (w.replied p) := by
  rw [List.countP_cons, Nat.add_comm]
  show (if p x.1 (w x.2 x.1) then 1 else 0) + _ = _
  cases p x.1 (w x.2 x.1) <;> rfl

/-- The last call so far looked the object up and found it. -/
def World.Found (w : World) (name : String) (past : List Call) : Prop :=
  ∃ before entry, past = .lookup name :: before ∧ w before (.lookup name) = .ok (some entry)

/-- All that is told of these calls is what is to be told, and that objects were left alone which
had been found; the tally is that of what is told. Every host read is settled once, and so many more
besides. -/
structure Books (w : World) (calls : List (Call × List Call)) (t : Tally) (more : Int) : Prop where
  told : (calls.filterMap (·.1.told?)).filter (!·.isUnchanged) = calls.filterMap w.news?
  tally : Tally.ofEvents (calls.filterMap (·.1.told?)) = t
  found : ∀ name past, (.tell (.unchanged name), past) ∈ calls → w.Found name past
  settled : (t.settled : Int) = (calls.map (w.replied Call.hostsRead)).sum +
    calls.countP (w.replied Call.failsListing) + calls.countP (w.replied Call.failsDeletion) + more

namespace Books

variable {calls calls' : List (Call × List Call)} {t t' : Tally} {k k' : Int}

theorem nothing : Books w [] {} 0 where
  told := rfl
  tally := rfl
  found _ _ h := nomatch h
  settled := rfl

theorem append (h : Books w calls t k) (h' : Books w calls' t' k') :
    Books w (calls ++ calls') (t + t') (k + k') where
  told := by rw [List.filterMap_append, List.filter_append, List.filterMap_append, h.told, h'.told]
  tally := by rw [List.filterMap_append, Tally.ofEvents_append, h.tally, h'.tally]
  found name past hx := (List.mem_append.1 hx).elim (h.found name past) (h'.found name past)
  settled := by
    have hsum := h.settled
    have hsum' := h'.settled
    rw [Tally.settled_add, List.map_append, List.sum_append, List.countP_append,
      List.countP_append]
    omega

/-- A call of which nothing is to be told. -/
theorem quiet {c : Call} (htold : c.told? = none) (hnews : w.news? (c, past) = none) :
    Books w [(c, past)] {} (-(c.hostsRead (w past c))) where
  told := by simp [htold, hnews]
  tally := by simp [htold, Tally.ofEvents]
  found name before hx := by
    cases List.mem_singleton.1 hx
    cases htold
  settled := by
    have hcall : c.news? past (w past c) = none := hnews
    obtain ⟨hlisting, hdeletion⟩ := not_fails_of_no_news hcall
    simp only [World.replied, List.map_singleton, List.sum_singleton, List.countP_singleton,
      hlisting, hdeletion]
    exact (Int.add_right_neg _).symm

/-- A call of which nothing is to be told, and then others. -/
theorem quiet_cons {c : Call} (htold : c.told? = none) (hnews : w.news? (c, past) = none)
    (hread : c.hostsRead (w past c) = 0) (h : Books w calls t k) :
    Books w ((c, past) :: calls) t k := by
  have happend := (quiet htold hnews).append h
  rwa [hread, Tally.empty_add, Int.natCast_zero, Int.neg_zero, Int.zero_add] at happend

/-- A call, and then what is to be told of it. -/
theorem announced {c : Call} {event : Event} (hnews : w.news? (c, past) = some event) :
    Books w [(c, past), (.tell event, c :: past)] event.tally (if c.sweeps then 0 else 1) := by
  have hcall : c.news? past (w past c) = some event := hnews
  obtain ⟨htold, hchanged, hread, hsettled⟩ := settled_news hcall
  have hlast : w.news? (.tell event, c :: past) = none := rfl
  have hevents : [(c, past), (.tell event, c :: past)].filterMap (·.1.told?) = [event] := by
    rw [List.filterMap_cons]
    simp only [htold]
    rfl
  exact {
    told := by
      rw [hevents]
      simp [hchanged, hnews, hlast]
    tally := by
      rw [hevents]
      rfl
    found := fun name before hx => by
      simp only [List.mem_cons, Prod.mk.injEq, Call.tell.injEq, List.not_mem_nil, or_false] at hx
      rcases hx with ⟨rfl, -⟩ | ⟨rfl, -⟩
      · cases htold
      · cases hchanged
    settled := by
      have hcount : ∀ p : (c : Call) → c.Reply → Bool, p (.tell event) () = false →
          [(c, past), (.tell event, c :: past)].countP (w.replied p) = (p c (w past c)).toNat := by
        intro p hp
        rw [countP_replied_cons, countP_replied_cons]
        show _ + ((p (.tell event) ()).toNat + 0) = _
        rw [hp]
        rfl
      rw [hcount _ rfl, hcount _ rfl, hsettled]
      show _ = ((c.hostsRead (w past c) + 0 : Nat) : Int) + _ + _ + _
      rw [hread]
      split <;> omega }

end Books

/-- After the calls so far, those of a part of a cycle are accounted for by what its outcome adds to
the tally. -/
def BookedAs (w : World) (tallyOf : α → Tally) (m : Steps α) (past : List Call) (more : Int) :
    Prop :=
  Books w (m.trace w.answer past) (tallyOf (m.run w.answer past).1) more

section

variable {tallyOf : α → Tally} {c : Call} {next : c.Reply → Steps α} {more : Int}

/-- After a call of which nothing is to be told, the rest is accounted for. -/
theorem bookedAs_quiet (htold : c.told? = none) (hnews : w.news? (c, past) = none)
    (hread : c.hostsRead (w past c) = 0)
    (h : BookedAs w tallyOf (next (w past c)) (c :: past) more) :
    BookedAs w tallyOf ((call c).bind next) past more :=
  h.quiet_cons htold hnews hread

/-- What is to be told of a call is told at once, and nothing else is done. -/
theorem bookedAs_announced {event : Event} {a : α} (hnews : w.news? (c, past) = some event)
    (hnext : next (w past c) = (tell event).bind fun _ => .done a)
    (htally : tallyOf a = event.tally) :
    BookedAs w tallyOf ((call c).bind next) past (if c.sweeps then 0 else 1) := by
  have hbooks := Books.announced hnews
  rw [← htally] at hbooks
  show Books w ((c, past) :: (next (w past c)).trace w.answer (c :: past))
    (tallyOf ((next (w past c)).run w.answer (c :: past)).1) _
  rw [hnext]
  exact hbooks

end

/-- From any calls on, the part is accounted for by the tally it ends with. -/
def Booked (w : World) (m : Steps Tally) (more : Int) : Prop :=
  ∀ past, BookedAs w (fun t => t) m past more

/-! ## One host -/

theorem bookedAs_createEntry (desired : ServiceEntry) (past : List Call) :
    BookedAs w hostTally (createEntry desired) past 1 := by
  cases h : w past (.create desired) with
  | ok stored =>
    have hnews : w.news? (.create desired, past) = some (.created desired.name) := by
      simp [World.news?, Call.news?, h]
    exact bookedAs_announced hnews (by rw [h]; rfl) rfl
  | error f =>
    have hnews : w.news? (.create desired, past) =
        some (.failed desired.name .create f.message) := by
      simp [World.news?, Call.news?, h]
    exact bookedAs_announced hnews (by rw [h]; rfl) rfl

/-- An update that follows at once on the read. -/
theorem bookedAs_updateEntry (entry desired : ServiceEntry) (past : List Call) :
    BookedAs w hostTally (updateEntry entry desired) (.get desired.name :: past) 1 := by
  cases h : w (.get desired.name :: past) (.update { entry with spec := desired.spec }) with
  | ok stored =>
    have hnews : w.news? (.update { entry with spec := desired.spec }, .get desired.name :: past) =
        some (.updated desired.name) := by
      simp [World.news?, Call.news?, askedFor, h]
    exact bookedAs_announced hnews (by rw [h]; rfl) rfl
  | error f =>
    have hnews : w.news? (.update { entry with spec := desired.spec }, .get desired.name :: past) =
        some (.failed desired.name .update f.message) := by
      simp [World.news?, Call.news?, askedFor, h]
    exact bookedAs_announced hnews (by rw [h]; rfl) rfl

theorem bookedAs_replaceEntry (desired : ServiceEntry) (past : List Call) :
    BookedAs w hostTally (replaceEntry desired) past 1 := by
  cases hget : w past (.get desired.name) with
  | ok entry =>
    refine bookedAs_quiet rfl (by simp [World.news?, Call.news?, hget]) rfl ?_
    rw [hget]
    exact bookedAs_updateEntry entry desired past
  | error f =>
    by_cases hf : f.isNotFound
    · refine bookedAs_quiet rfl (by simp [World.news?, Call.news?, hget, hf]) rfl ?_
      simp only [hget, hf, if_true]
      exact bookedAs_createEntry desired _
    · have hnews : w.news? (.get desired.name, past) =
          some (.failed desired.name .get f.message) := by
        simp [World.news?, Call.news?, hget, hf]
      exact bookedAs_announced hnews (by simp only [hget, hf]; rfl) rfl

/-- **Settling an entry settles one host.** -/
theorem bookedAs_settleEntry (desired : ServiceEntry) (past : List Call) :
    BookedAs w hostTally (settleEntry desired) past 1 := by
  cases hlookup : w past (.lookup desired.name) with
  | error f =>
    have hnews : w.news? (.lookup desired.name, past) =
        some (.failed desired.name .lookup f.message) := by
      simp [World.news?, Call.news?, hlookup]
    exact bookedAs_announced hnews (by rw [hlookup]; rfl) rfl
  | ok found =>
    refine bookedAs_quiet rfl (by simp [World.news?, Call.news?, hlookup]) rfl ?_
    rw [hlookup]
    cases found with
    | none => exact bookedAs_createEntry desired _
    | some entry =>
      by_cases hsame : entry.spec.equivalent desired.spec
      · simp only [hsame, if_true]
        refine ⟨rfl, rfl, fun name before hx => ?_, rfl⟩
        cases List.mem_singleton.1 hx
        exact ⟨past, entry, rfl, hlookup⟩
      · simp only [hsame]
        exact bookedAs_replaceEntry desired _

theorem booked_settleMember (b : Backend) (namespaceName : String) (m : String × List Endpoint) :
    Booked w (settleMember b namespaceName m) 1 := by
  intro past
  rw [BookedAs, trace_settleMember, settleMember, Dialogue.bind_eq, Dialogue.run_bind]
  exact bookedAs_settleEntry (.desired b namespaceName m.1 m.2) past

/-! ## Loops, turns and cycles -/

theorem booked_tallyEach {body : ι → Steps Tally} {k : Int} (h : ∀ i, Booked w (body i) k)
    (is : List ι) : Booked w (tallyEach body is) (k * is.length) := by
  induction is with
  | nil =>
    intro past
    rw [List.length_nil, Int.natCast_zero, Int.mul_zero]
    exact Books.nothing
  | cons i is ih =>
    intro past
    have hmore : k * (i :: is).length = k + k * is.length := by
      rw [List.length_cons, Int.natCast_succ, Int.mul_add, Int.mul_one, Int.add_comm]
    have hboth := (h i past).append (ih ((body i).run w.answer past).2)
    rw [hmore]
    simpa [BookedAs, tallyEach, Dialogue.trace_bind, Dialogue.run_bind] using hboth

theorem booked_deleteObject (name : String) : Booked w (deleteObject name) 0 := by
  intro past
  cases hreply : w past (.delete name) with
  | ok u =>
    have hnews : w.news? (.delete name, past) = some (.deleted name) := by
      simp [World.news?, Call.news?, hreply]
    exact bookedAs_announced hnews (by rw [hreply]; rfl) rfl
  | error f =>
    by_cases hf : f.isNotFound
    · refine bookedAs_quiet rfl (by simp [World.news?, Call.news?, hreply, hf]) rfl ?_
      simp only [hreply, hf, if_true]
      exact Books.nothing
    · have hnews : w.news? (.delete name, past) = some (.failed name .delete f.message) := by
        simp [World.news?, Call.news?, hreply, hf]
      exact bookedAs_announced hnews (by simp only [hreply, hf]; rfl) rfl

/-- **A sweep settles no host.** -/
theorem bookedAs_sweep (b : Backend) (members : Membership) (past : List Call) :
    BookedAs w sweepTally (sweep b members) past 0 := by
  cases hreply : w past (.list b.scope) with
  | error f =>
    have hnews : w.news? (.list b.scope, past) = some (.failed b.scope .lookup f.message) := by
      simp [World.news?, Call.news?, hreply]
    exact bookedAs_announced hnews (by rw [hreply]; rfl) rfl
  | ok entries =>
    have hdeletions := booked_tallyEach (w := w) booked_deleteObject
      ((entries.filter (isStray b members)).map (·.name)) (.list b.scope :: past)
    rw [← sweepObjects_eq_deletes, Int.zero_mul] at hdeletions
    refine bookedAs_quiet rfl (by simp [World.news?, Call.news?, hreply]) rfl ?_
    rw [hreply]
    simpa [BookedAs, sweepTally, Dialogue.trace_bind, Dialogue.run_bind] using hdeletions

/-- **A turn settles as many hosts as it reads.** -/
theorem booked_syncBackend (namespaceName : String) (b : Backend) :
    Booked w (syncBackend namespaceName b) 0 := by
  intro past
  have hread : Books w [(.members b, past)] {} (-(w past (.members b)).entries.length) :=
    Books.quiet rfl rfl
  have hsettled := booked_tallyEach (w := w) (booked_settleMember b namespaceName)
    (w past (.members b)).entries (.members b :: past)
  rw [← settleHosts_eq, Int.one_mul] at hsettled
  have hswept := bookedAs_sweep (w := w) b (w past (.members b))
    ((settleHosts b namespaceName (w past (.members b)).entries).run w.answer
      (.members b :: past)).2
  have hturn := (hread.append hsettled).append hswept
  rw [Int.add_left_neg, Int.add_zero, Tally.empty_add] at hturn
  simpa [BookedAs, syncBackend, call, World.answer, Dialogue.trace_bind, Dialogue.run_bind]
    using hturn

/-- A cycle settles as many hosts as it reads; what it tells last is its tally. -/
theorem books_once (w : World) (namespaceName : String) (bs : List Backend) (past : List Call) :
    let tally := ((once namespaceName bs).run w.answer past).1
    ∃ calls last, (once namespaceName bs).trace w.answer past =
      calls ++ [(.tell (.cycleCompleted tally), last)] ∧ Books w calls tally 0 := by
  have hturns := booked_tallyEach (w := w) (booked_syncBackend namespaceName) bs past
  rw [← syncBackends_eq, Int.zero_mul] at hturns
  refine ⟨(syncBackends namespaceName bs).trace w.answer past,
    ((syncBackends namespaceName bs).run w.answer past).2, ?_, ?_⟩
  · simp [once, tell, call, Dialogue.trace_bind, Dialogue.run_bind]
  · simpa [BookedAs, once, tell, call, Dialogue.run_bind] using hturns

/-- An update writes the object that was read at once before. -/
theorem read_of_update {namespaceName : String} {bs : List Backend} {entry : ServiceEntry}
    (h : (.update entry, past) ∈ (once namespaceName bs).trace w.answer []) :
    ∃ read before, past = .get (askedFor past entry) :: before ∧
      w before (.get (askedFor past entry)) = .ok read ∧ entry.name = read.name ∧
      (.get (askedFor past entry), before) ∈ (once namespaceName bs).trace w.answer [] := by
  obtain ⟨turn, -, m, -, read, before, hstretch, hget, rfl⟩ := read_of_update_mem h
  obtain ⟨hreply, rfl⟩ := Prod.mk.inj hget
  exact ⟨read, before, rfl, hreply, rfl, hstretch.subset List.mem_cons_self⟩

/-- The tally of what is to be told counts the calls. -/
theorem ofEvents_news (w : World) (calls : List (Call × List Call)) :
    Tally.ofEvents (calls.filterMap w.news?) = {
      created := calls.countP (w.replied Call.creates)
      updated := calls.countP (w.replied Call.updates)
      deleted := calls.countP (w.replied Call.deletes)
      failed := calls.countP (w.replied Call.fails) } := by
  induction calls with
  | nil => rfl
  | cons x calls ih =>
    have hx : (x :: calls).filterMap w.news? =
        (x.1.news? x.2 (w x.2 x.1)).toList ++ calls.filterMap w.news? := by
      rw [List.filterMap_cons, ← World.news?]
      cases w.news? x <;> rfl
    rw [hx, Tally.ofEvents_append, tally_news, ih]
    simp only [countP_replied_cons]
    rfl

/-- Calls that are accounted for are counted by the tally. -/
theorem Books.counts {calls : List (Call × List Call)} {t : Tally} {k : Int}
    (h : Books w calls t k) :
    t.created = calls.countP (w.replied Call.creates) ∧
    t.updated = calls.countP (w.replied Call.updates) ∧
    t.deleted = calls.countP (w.replied Call.deletes) ∧
    t.failed = calls.countP (w.replied Call.fails) := by
  have hnews := ofEvents_news w calls
  rw [← h.told, ← Tally.ofEvents_changes, h.tally] at hnews
  injection hnews with hcreated hupdated _ hdeleted hfailed
  exact ⟨hcreated, hupdated, hdeleted, hfailed⟩

end Cycle

open RegistrySync.Cycle

/-- Whatever is replied, the report of a cycle counts the creations, updates and deletions that were
granted, and the calls that failed; that an object is gone is no failure of a read or a deletion.
The hosts read are those that were created, updated, left alone or failed, where failed listings and
deletions count besides.

What is told is what is to be told of the calls, in their order: it names the object of the call, or
the scope of a listing, and the operation that failed. An object is told to be unchanged when the
call before looked it up and found it. The events told are those of the report, and the report comes
last. An update is told under the name that the object it writes was asked for by, in the read at
once before; that is the object's own name when objects are read by their names. A listener with
room gets all of it. -/
theorem cycle_books_balance (r : Reconciler) (w : World) :
    let calls := r.cycle.trace w.answer []
    let report := (r.cycle.run w.answer []).1
    let count := fun kind => calls.countP (w.replied kind)
    let events := calls.filterMap (·.1.told?)
    (report.created = count Call.creates ∧ report.updated = count Call.updates ∧
      report.deleted = count Call.deletes ∧ report.failed = count Call.fails) ∧
    report.created + report.updated + report.unchanged + report.failed =
      (calls.map (w.replied Call.hostsRead)).sum + count Call.failsListing +
        count Call.failsDeletion ∧
    (∃ told, events = told ++ [.cycleCompleted report] ∧ Tally.ofEvents told = report ∧
      told.filter (!·.isUnchanged) = calls.filterMap w.news? ∧
      ∀ name past, (.tell (.unchanged name), past) ∈ calls → w.Found name past) ∧
    (∀ entry past, (.update entry, past) ∈ calls →
      (∃ read before, past = .get (askedFor past entry) :: before ∧
        w before (.get (askedFor past entry)) = .ok read ∧ entry.name = read.name) ∧
      (ReadsByName w.answer calls → askedFor past entry = entry.name)) ∧
    ∀ q : EventQueue, q.listening → q.waiting.length + events.length ≤ q.capacity →
      (events.foldl EventQueue.send q).waiting = q.waiting ++ events := by
  intro calls report count events
  obtain ⟨before, last, hcalls, hbooks⟩ := books_once w r.settings.namespaceName r.backends []
  have hcalls : calls = before ++ [(.tell (.cycleCompleted report), last)] := hcalls
  have hcount : ∀ kind : (c : Call) → c.Reply → Bool,
      kind (.tell (.cycleCompleted report)) () = false →
      count kind = before.countP (w.replied kind) := by
    intro kind hkind
    show calls.countP _ = _
    rw [hcalls, List.countP_append, List.countP_singleton]
    show _ + (if kind (.tell (.cycleCompleted report)) () then 1 else 0) = _
    rw [hkind]
    rfl
  refine ⟨?_, ?_, ⟨before.filterMap (·.1.told?), ?_, hbooks.tally, ?_, ?_⟩, ?_, ?_⟩
  · rw [hcount _ rfl, hcount _ rfl, hcount _ rfl, hcount _ rfl]
    exact hbooks.counts
  · have hhosts : (calls.map (w.replied Call.hostsRead)).sum =
        (before.map (w.replied Call.hostsRead)).sum := by
      rw [hcalls, List.map_append, List.sum_append]
      rfl
    rw [hcount _ rfl, hcount _ rfl, hhosts]
    have hsettled := hbooks.settled
    rw [Int.add_zero] at hsettled
    exact Int.ofNat.inj hsettled
  · show calls.filterMap _ = _
    rw [hcalls, List.filterMap_append]
    rfl
  · have hlast : w.news? (.tell (.cycleCompleted report), last) = none := rfl
    rw [hbooks.told, hcalls, List.filterMap_append, List.filterMap_cons_none hlast,
      List.filterMap_nil, List.append_nil]
  · intro name past hx
    rw [hcalls] at hx
    rcases List.mem_append.1 hx with hx | hx
    · exact hbooks.found name past hx
    · cases List.mem_singleton.1 hx
  · intro entry past hx
    obtain ⟨read, before, hpast, hget, hname, hmem⟩ := read_of_update hx
    refine ⟨⟨read, before, hpast, hget, hname⟩, fun hread => ?_⟩
    exact (hname.trans (hread _ before read hmem hget)).symm
  · intro q hq hroom
    exact EventQueue.waiting_foldl_send hq hroom

/-- Seven hosts and three orphans, each of which ends in another way; the second listing fails. -/
def eventful : World
  | _, .members b =>
    if b = Consul.backend then
      ["a", "b", "c", "d", "e", "f", "g"].foldl (fun members host => members.insert host []) .empty
    else .empty
  | _, .lookup name =>
    if name = "consul-a" then .ok none
    else if name = "consul-b" then .error (.controlPlane "down")
    else if name = "consul-c" then .ok (some (.desired Consul.backend "default" "c" []))
    else .ok (some ⟨{ name }, { hosts := ["other"], resolution := .static }⟩)
  | _, .list scope =>
    if scope = "consul-" then
      .ok (["x", "y", "z"].map fun host =>
        ⟨{ name := scope ++ host }, { hosts := [], resolution := .dns }⟩)
    else .error (.controlPlane "down")
  | _, .get name =>
    if name = "consul-d" then .error (.notFound name)
    else if name = "consul-e" then .error (.controlPlane "down")
    else .ok ⟨{ name }, { hosts := ["other"], resolution := .static }⟩
  | _, .create entry => if entry.name = "consul-a" then .ok entry else .error (.controlPlane "down")
  | _, .update entry => if entry.name = "consul-f" then .ok entry else .error (.controlPlane "down")
  | _, .delete name =>
    if name = "consul-x" then .ok ()
    else if name = "consul-y" then .error (.notFound name)
    else .error (.controlPlane "down")
  | _, .tell _ => ()

theorem eventful_cycle_books_balance :
    let r : Reconciler := ⟨[Consul.backend, CloudMap.backend], {}⟩
    let calls := r.cycle.trace eventful.answer []
    let report := { created := 1, updated := 1, unchanged := 1, deleted := 1, failed := 6 }
    (r.cycle.run eventful.answer []).1 = report ∧
    (calls.map (eventful.replied Call.hostsRead)).sum = 7 ∧
    calls.countP (eventful.replied Call.fails) = 6 ∧
    ((calls.filterMap (·.1.told?)).foldl EventQueue.send { capacity := 11 }).waiting =
      calls.filterMap (·.1.told?) ∧
    (calls.filterMap (·.1.told?)).getLast? = some (.cycleCompleted report) := by
  intro r calls report
  have hreport : (r.cycle.run eventful.answer []).1 = report := by decide +kernel
  obtain ⟨⟨-, -, -, hfailed⟩, -, ⟨told, htold, -⟩, -, hqueue⟩ :=
    cycle_books_balance r eventful
  rw [hreport] at hfailed htold
  refine ⟨hreport, ?_, hfailed.symm, hqueue { capacity := 11 } rfl ?_, ?_⟩
  · decide +kernel
  · decide +kernel
  · exact List.getLast?_eq_some_iff.2 ⟨told, htold⟩

/-- The books name another object than the update carries when a read finds another object, and a
queue with room loses everything when nobody listens. -/
theorem misread_update_told_as_asked :
    let r : Reconciler := ⟨[Consul.backend], {}⟩
    let calls := r.cycle.trace (misread "consul-x").answer []
    let events := calls.filterMap (·.1.told?)
    Reconciler.assemble [Consul.backend] {} = .ok r ∧
    calls.filterMap (·.1.updated?) = ["consul-x", "consul-x"] ∧
    events = [.updated "consul-a", .updated "consul-b", .deleted "consul-x", .deleted "consul-",
      .cycleCompleted { updated := 2, deleted := 2 }] ∧
    (events.foldl EventQueue.send { capacity := 1000, listening := false }).waiting = [] :=
  ⟨rfl, rfl, rfl, rfl⟩

end RegistrySync
