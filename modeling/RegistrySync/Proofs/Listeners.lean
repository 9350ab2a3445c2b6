import Mathlib.Data.List.Induction
import RegistrySync.Proofs.Accounts

/-!
# Listeners

**Theorem (`listener_has_no_say`).** Whether and when the listener receives events, and whether it
goes away, makes no difference to a run: the calls and their replies, the reports and what becomes
of the control plane and its cache are those of a run whose every event is heard at once. And what
gets through to the listener are the events told, in their order, but for those that were told after
it had left or when the queue was full.

**Two worlds.** Both keep an account of a run (`Account`). In one each event is heard as it is told
(`overheard`). In the other there is a queue between the reconciler and a listener, who receives and
leaves by a schedule, in between any two calls (`Audience`). The account is a view of the second
world, and in this view the two worlds answer alike.

**What gets through** (`survivors`). The events are counted, not queued: an event gets through when
the listener is there and fewer than so many of those that got through before are still to be
received. The queue does the same because it holds just these (`Delivered`).
-/

namespace RegistrySync

open RegistrySync.Cycle

variable {τ : Type}

/-! ## Two worlds -/

/-- The control plane with its cache, and all calls so far with their replies, events among them. -/
structure Account (τ : Type) where
  plane : τ
  log : List ((c : Call) × c.Reply) := []

/-- The events that were told. -/
def Account.told (a : Account τ) : List Event := a.log.filterMap (·.1.told?)

/-- What listens to everything at once. -/
def overheard (plane : Answerer Call.Reply τ) : Answerer Call.Reply (Account τ)
  | .tell event, a => ((), { a with log := a.log ++ [⟨.tell event, ()⟩] })
  | c, a =>
    let (reply, after) := plane c a.plane
    (reply, { plane := after, log := a.log ++ [⟨c, reply⟩] })

/-- What a listener may do. -/
inductive Act where
  | receive
  | leave
deriving DecidableEq

/-- An event that was told, how many events the listener had received by then, and whether it was
still there. -/
structure Emission where
  event : Event
  received : Nat
  attended : Bool

/-- A run and its listener. -/
structure Audience (τ : Type) where
  account : Account τ
  queue : EventQueue
  received : List Event := []
  /-- What waited when the listener left. -/
  left : List Event := []
  emissions : List Emission := []

namespace Audience

/-- The listener does something. -/
def act (s : Audience τ) : Act → Audience τ
  | .receive =>
    match s.queue.receive with
    | (none, queue) => { s with queue }
    | (some event, queue) => { s with queue, received := s.received ++ [event] }
  | .leave => { s with queue := s.queue.close, left := s.left ++ s.queue.waiting }

def acts (s : Audience τ) (as : List Act) : Audience τ := as.foldl act s

/-- An event is sent to the listener. -/
def emit (s : Audience τ) (event : Event) : Audience τ :=
  { s with
    queue := s.queue.send event
    emissions := s.emissions ++ [⟨event, s.received.length, s.queue.listening⟩] }

/-- The listener does what is scheduled before the next call; then the call is answered. -/
def answer (plane : Answerer Call.Reply τ) (schedule : Nat → List Act) :
    Answerer Call.Reply (Audience τ) := fun c s =>
  let s := s.acts (schedule s.account.log.length)
  let (reply, account) := overheard plane c s.account
  match c.told? with
  | none => (reply, { s with account })
  | some event => (reply, { s.emit event with account })

end Audience

/-- Time passes for a part of the state. -/
def Timekeeper.within {σ τ : Type} (k : Timekeeper τ) (get : σ → τ) (put : σ → τ → σ) :
    Timekeeper σ where
  now s := k.now (get s)
  signal s := k.signal (get s)
  sleep due s := put s (k.sleep due (get s))

/-- The clock of the control plane. -/
def Account.timekeeper (k : Timekeeper τ) : Timekeeper (Account τ) :=
  k.within Account.plane fun a plane => { a with plane }

def Audience.timekeeper (k : Timekeeper τ) : Timekeeper (Audience τ) :=
  (Account.timekeeper k).within Audience.account fun s account => { s with account }

/-! ## The account is a view -/

section

variable {σ α : Type} {k : Timekeeper τ} {get : σ → τ} {put : σ → τ → σ}
  (hput : ∀ s t, get (put s t) = t)
include hput

theorem Timekeeper.rest_within (due : Nat) (s : σ) :
    k.rest due (get s) = get ((k.within get put).rest due s) := by
  unfold rest
  by_cases h : (k.signal (get s)).stops ∨ due ≤ k.now (get s)
  · rw [if_pos h]
    exact congrArg get (if_pos h).symm
  · rw [if_neg h]
    exact (hput s _).symm.trans (congrArg get (if_neg h).symm)

theorem Timekeeper.wait_within (due : Nat) (s : σ) : k.wait due (get s) =
    (((k.within get put).wait due s).1, get ((k.within get put).wait due s).2) := by
  simp only [wait, rest_within hput]
  rfl

/-- A loop over the whole goes as the loop over the part, when the bodies do. -/
theorem Ticker.drive_within {body : σ → σ} {body' : τ → τ}
    (hbody : ∀ s, body' (get s) = get (body s)) (rounds : Nat) (t : Ticker) (s : σ) :
    drive k body' rounds t (get s) =
      ((drive (k.within get put) body rounds t s).1,
        get (drive (k.within get put) body rounds t s).2) := by
  induction rounds generalizing t s with
  | zero => rfl
  | succ rounds ih =>
    rw [drive, drive, Timekeeper.wait_within hput]
    cases hwait : (k.within get put).wait t.due s with
    | mk wake w =>
      cases wake with
      | stop => rfl
      | tick now =>
        show drive k body' rounds (t.next now) (body' (get w)) = _
        rw [hbody, ih]

/-- A run over the whole goes as the run over the part, when the answers do. -/
theorem Reconciler.run_within {answer : Answerer Call.Reply σ} {answer' : Answerer Call.Reply τ}
    (hanswer : ∀ c s, answer' c (get s) = ((answer c s).1, get (answer c s).2)) (r : Reconciler)
    (rounds : Nat) (s : σ) : r.run answer' k rounds (get s) =
      ((r.run answer (k.within get put) rounds s).1,
        get (r.run answer (k.within get put) rounds s).2) := by
  have hview {α : Type} (m : Steps α) (s : σ) :
      m.run answer' (get s) = ((m.run answer s).1, get (m.run answer s).2) :=
    Dialogue.run_view get hanswer m s
  have hloop : ∀ w, r.loop answer' k rounds (get w) =
      ((r.loop answer (k.within get put) rounds w).1,
        get (r.loop answer (k.within get put) rounds w).2) := fun w =>
    Ticker.drive_within hput (fun s => congrArg Prod.snd (hview r.cycle s)) rounds _ w
  simp only [run, hview, hloop]
  rw [apply_ite get]

end

namespace Audience

variable {plane : Answerer Call.Reply τ} {schedule : Nat → List Act}

@[simp] theorem account_act (s : Audience τ) (a : Act) : (s.act a).account = s.account := by
  cases a with
  | receive =>
    simp only [act]
    split <;> rfl
  | leave => rfl

@[simp] theorem account_acts (s : Audience τ) (as : List Act) :
    (s.acts as).account = s.account := by
  induction as generalizing s with
  | nil => rfl
  | cons a as ih => exact (ih (s.act a)).trans (account_act s a)

theorem overheard_account (plane : Answerer Call.Reply τ) (schedule : Nat → List Act) (c : Call)
    (s : Audience τ) : overheard plane c s.account =
    ((answer plane schedule c s).1, (answer plane schedule c s).2.account) := by
  simp only [answer, account_acts]
  split <;> rfl

end Audience

/-! ## What gets through -/

/-- An event gets through when the listener is there and fewer than `c` of those that got through
before are still to be received. -/
def Emission.survives (c : Nat) (kept : List Event) (m : Emission) : Bool :=
  m.attended && kept.length - m.received < c

/-- The events that get through. -/
def survivors (c : Nat) (emissions : List Emission) : List Event :=
  emissions.foldl (fun kept m => kept ++ if m.survives c kept then [m.event] else []) []

theorem survivors_concat (c : Nat) (emissions : List Emission) (m : Emission) :
    survivors c (emissions ++ [m]) = survivors c emissions ++
      if m.survives c (survivors c emissions) then [m.event] else [] := by
  unfold survivors
  rw [List.foldl_append, List.foldl_cons, List.foldl_nil]

/-- What gets through was told, in the same order and as often at most. -/
theorem survivors_sublist (c : Nat) (emissions : List Emission) :
    (survivors c emissions).Sublist (emissions.map (·.event)) := by
  induction emissions using List.reverseRecOn with
  | nil => exact .slnil
  | append_singleton emissions m ih =>
    rw [survivors_concat, List.map_append, List.map_singleton]
    apply List.Sublist.append ih
    split
    · exact .refl _
    · exact List.nil_sublist _

/-- A queue for one event loses the second, but not the one told after the first was received. -/
example : survivors 1 [⟨.started 2, 0, true⟩, ⟨.created "a", 0, true⟩, ⟨.created "b", 1, true⟩] =
    [.started 2, .created "b"] := by decide

namespace Audience

/-- What got through was received, or waited when the listener left, or waits now. -/
structure Delivered (c : Nat) (s : Audience τ) : Prop where
  capacity_eq : s.queue.capacity = c
  survivors_eq : s.received ++ s.left ++ s.queue.waiting = survivors c s.emissions
  waiting_eq : s.queue.listening = false → s.queue.waiting = []
  left_eq : s.queue.listening → s.left = []

variable {plane : Answerer Call.Reply τ} {schedule : Nat → List Act} {c : Nat} {s : Audience τ}

theorem Delivered.act (h : Delivered c s) (a : Act) : Delivered c (s.act a) := by
  have hall := h.survivors_eq
  cases a with
  | leave =>
    refine ⟨h.capacity_eq, ?_, fun _ => rfl, fun hlistening => nomatch hlistening⟩
    show s.received ++ (s.left ++ s.queue.waiting) ++ [] = survivors c s.emissions
    rw [List.append_nil, ← List.append_assoc, hall]
  | receive =>
    cases hwaiting : s.queue.waiting with
    | nil =>
      have hact : s.act .receive = s := by simp [Audience.act, EventQueue.receive, hwaiting]
      rwa [hact]
    | cons event rest =>
      have hact : s.act .receive = { s with
          queue := { s.queue with waiting := rest }, received := s.received ++ [event] } := by
        simp [Audience.act, EventQueue.receive, hwaiting]
      have hlistening : s.queue.listening = true := by
        by_contra hgone
        rw [h.waiting_eq (Bool.eq_false_iff.2 hgone)] at hwaiting
        cases hwaiting
      have hleft := h.left_eq hlistening
      rw [hact]
      refine ⟨h.capacity_eq, ?_, fun hgone => ?_, h.left_eq⟩
      · show s.received ++ [event] ++ s.left ++ rest = survivors c s.emissions
        rw [← hall, hleft, hwaiting]
        simp
      · rw [hlistening] at hgone
        cases hgone

theorem Delivered.acts (h : Delivered c s) (as : List Act) : Delivered c (s.acts as) := by
  induction as generalizing s with
  | nil => exact h
  | cons a as ih => exact ih (h.act a)

/-- The queue has room exactly when the count says that the event gets through. -/
theorem Delivered.emit (h : Delivered c s) (event : Event) : Delivered c (s.emit event) := by
  have hall := h.survivors_eq
  have hsurvives : Emission.survives c (survivors c s.emissions)
      ⟨event, s.received.length, s.queue.listening⟩ =
        (s.queue.listening && decide (s.queue.waiting.length < s.queue.capacity)) := by
    rw [Emission.survives, h.capacity_eq]
    cases hlistening : s.queue.listening with
    | false => rfl
    | true =>
      have hlength : (survivors c s.emissions).length - s.received.length =
          s.queue.waiting.length := by
        rw [← hall, h.left_eq hlistening]
        simp
      rw [hlength]
  have hwaiting : (s.emit event).queue.waiting = s.queue.waiting ++
      if s.queue.listening && decide (s.queue.waiting.length < s.queue.capacity) then [event]
      else [] := s.queue.waiting_send event
  refine ⟨(s.queue.capacity_send event).trans h.capacity_eq, ?_, fun hgone => ?_, fun hthere => ?_⟩
  · show s.received ++ s.left ++ (s.emit event).queue.waiting = survivors c (s.emissions ++ [_])
    rw [hwaiting, survivors_concat, ← List.append_assoc, hall, hsurvives]
  · have hlistening : s.queue.listening = false := (s.queue.listening_send event).symm.trans hgone
    rw [hwaiting, h.waiting_eq hlistening, hlistening]
    rfl
  · exact h.left_eq ((s.queue.listening_send event).symm.trans hthere)

/-- The emissions are the events told. -/
def Recorded (s : Audience τ) : Prop := s.emissions.map (·.event) = s.account.told

@[simp] theorem emissions_acts (s : Audience τ) (as : List Act) :
    (s.acts as).emissions = s.emissions := by
  induction as generalizing s with
  | nil => rfl
  | cons a as ih =>
    refine (ih (s.act a)).trans ?_
    cases a with
    | receive =>
      simp only [Audience.act]
      split <;> rfl
    | leave => rfl

theorem told_overheard (plane : Answerer Call.Reply τ) (call : Call) (a : Account τ) :
    (overheard plane call a).2.told = a.told ++ call.told?.toList := by
  cases call <;> simp [overheard, Account.told, Call.told?]

theorem Delivered.answer (h : Delivered c s) (call : Call) :
    Delivered c (answer plane schedule call s).2 := by
  have hacts := h.acts (schedule s.account.log.length)
  unfold Audience.answer
  cases call.told? with
  | none => exact ⟨hacts.capacity_eq, hacts.survivors_eq, hacts.waiting_eq, hacts.left_eq⟩
  | some event =>
    have hemit := hacts.emit event
    exact ⟨hemit.capacity_eq, hemit.survivors_eq, hemit.waiting_eq, hemit.left_eq⟩

theorem Recorded.answer (h : Recorded s) (call : Call) :
    Recorded (answer plane schedule call s).2 := by
  have htold := told_overheard plane call s.account
  unfold Recorded at h ⊢
  unfold Audience.answer
  cases hcall : call.told? with
  | none => simp [h, htold, hcall]
  | some event => simp [Audience.emit, h, htold, hcall]

/-! ## Whole runs -/

theorem Delivered.sleep {k : Timekeeper τ} (h : Delivered c s) (due : Nat) :
    Delivered c ((timekeeper k).sleep due s) :=
  ⟨h.capacity_eq, h.survivors_eq, h.waiting_eq, h.left_eq⟩

theorem act_receive (s : Audience τ) :
    (s.act .receive).queue.waiting = s.queue.waiting.tail ∧ (s.act .receive).left = s.left := by
  unfold Audience.act EventQueue.receive
  cases h : s.queue.waiting <;> simp [h]

/-- Who receives often enough has received all that waited. -/
theorem acts_receive (s : Audience τ) (n : Nat) :
    (s.acts (List.replicate n .receive)).queue.waiting = s.queue.waiting.drop n ∧
      (s.acts (List.replicate n .receive)).left = s.left := by
  induction n generalizing s with
  | zero => exact ⟨rfl, rfl⟩
  | succ n ih =>
    obtain ⟨hwaiting, hleft⟩ := s.act_receive
    obtain ⟨hrest, hleft'⟩ := ih (s.act .receive)
    rw [hwaiting, List.drop_tail] at hrest
    exact ⟨hrest, hleft'.trans hleft⟩

end Audience

section

variable {σ : Type} {k : Timekeeper σ} {P : σ → Prop}
  (hsleep : ∀ due s, P s → P (k.sleep due s))
include hsleep

/-- What sleep and the body keep, a loop keeps. -/
theorem Ticker.drive_keeps {body : σ → σ} (hbody : ∀ s, P s → P (body s)) (rounds : Nat)
    (t : Ticker) {s : σ} (hs : P s) : P (drive k body rounds t s).2 := by
  have hrest : ∀ due s, P s → P (k.rest due s) := by
    intro due s hs
    unfold Timekeeper.rest
    split
    · exact hs
    · exact hsleep due s hs
  induction rounds generalizing t s with
  | zero => exact hs
  | succ rounds ih =>
    have hwait := hrest t.due s hs
    simp only [drive, Timekeeper.wait]
    cases k.wake (k.rest t.due s) with
    | stop => exact hwait
    | tick now => exact ih _ (hbody _ hwait)

/-- What sleep and every call keep, a run keeps. -/
theorem Reconciler.run_keeps {answer : Answerer Call.Reply σ}
    (hanswer : ∀ c s, P s → P (answer c s).2) (r : Reconciler) (rounds : Nat) {s : σ} (hs : P s) :
    P (r.run answer k rounds s).2 := by
  have hrun {α : Type} (m : Steps α) {s : σ} (hs : P s) : P (m.run answer s).2 :=
    Dialogue.run_keeps hanswer m hs
  have hloop : P (r.loop answer k rounds
      ((Cycle.tell (.started r.backends.length)).run answer s).2).2 :=
    Ticker.drive_keeps hsleep (fun s hs => hrun r.cycle hs) rounds _ (hrun _ hs)
  unfold run
  simp only
  split
  · exact hrun _ hloop
  · exact hloop

end

/-- Cycle so many times, for the reports. -/
def Reconciler.cycles (r : Reconciler) : Nat → Steps (List Tally)
  | 0 => return []
  | n + 1 => do
    let report ← r.cycle
    let others ← r.cycles n
    return report :: others

open Audience

/-- What a listener with room for `c` events makes of a run, beside the same run heard at once. -/
structure Faithful {α : Type} (c : Nat) (outcome : α × Audience τ) (ideal : α × Account τ) :
    Prop where
  /-- The results are the same, -/
  result_eq : outcome.1 = ideal.1
  /-- and so are the calls, their replies and what they come to. -/
  account_eq : outcome.2.account = ideal.2
  emissions_eq : outcome.2.emissions.map (·.event) = ideal.2.told
  /-- Whatever the listener still does: it has received what gets through, but for what waits or
  waited when it left. -/
  delivered : ∀ as, (outcome.2.acts as).received ++ (outcome.2.acts as).left ++
    (outcome.2.acts as).queue.waiting = survivors c outcome.2.emissions
  /-- A listener that stays can receive all of it. -/
  received_eq : outcome.2.queue.listening →
    (outcome.2.acts (List.replicate outcome.2.queue.waiting.length .receive)).received =
      survivors c outcome.2.emissions
  sublist : (survivors c outcome.2.emissions).Sublist ideal.2.told

theorem faithful_of_delivered {α : Type} {c : Nat} {outcome : α × Audience τ}
    {ideal : α × Account τ} (hview : ideal = (outcome.1, outcome.2.account))
    (hdelivered : Delivered c outcome.2) (hrecorded : Recorded outcome.2) :
    Faithful c outcome ideal := by
  subst hview
  have hacts := fun as => (hdelivered.acts as).survivors_eq
  simp only [emissions_acts] at hacts
  refine ⟨rfl, rfl, hrecorded, hacts, fun hlistening => ?_, ?_⟩
  · have hall := hacts (List.replicate outcome.2.queue.waiting.length .receive)
    obtain ⟨hwaiting, hleft⟩ := outcome.2.acts_receive outcome.2.queue.waiting.length
    rwa [hwaiting, List.drop_length, hleft, hdelivered.left_eq hlistening, List.append_nil,
      List.append_nil] at hall
  · rw [← hrecorded]
    exact survivors_sublist c outcome.2.emissions

/-- **A listener has no say.** -/
theorem listener_has_no_say (r : Reconciler) (plane : Answerer Call.Reply τ) (k : Timekeeper τ)
    (schedule : Nat → List Act) (p : τ) :
    let c := r.settings.eventCapacity.toNat
    let audience : Audience τ := { account := { plane := p }, queue := r.queue }
    (∀ rounds, Faithful c
      (r.run (answer plane schedule) (Audience.timekeeper k) rounds audience)
      (r.run (overheard plane) (Account.timekeeper k) rounds { plane := p })) ∧
    ∀ n, Faithful c ((r.cycles n).run (answer plane schedule) audience)
      ((r.cycles n).run (overheard plane) { plane := p }) := by
  intro c audience
  have hfirst : Delivered c audience ∧ Recorded audience :=
    ⟨⟨rfl, rfl, fun _ => rfl, fun _ => rfl⟩, rfl⟩
  have hcall : ∀ call s, Delivered c s ∧ Recorded s →
      Delivered c (answer plane schedule call s).2 ∧ Recorded (answer plane schedule call s).2 :=
    fun call s h => ⟨h.1.answer call, h.2.answer call⟩
  have hanswer := overheard_account plane schedule
  refine ⟨fun rounds => ?_, fun n => ?_⟩
  · have hview : r.run (overheard plane) (Account.timekeeper k) rounds audience.account =
        ((r.run (answer plane schedule) (Audience.timekeeper k) rounds audience).1,
          (r.run (answer plane schedule) (Audience.timekeeper k) rounds audience).2.account) :=
      Reconciler.run_within (fun _ _ => rfl) hanswer r rounds audience
    obtain ⟨hdelivered, hrecorded⟩ := Reconciler.run_keeps (k := Audience.timekeeper k)
      (fun due s h => ⟨h.1.sleep due, h.2⟩) hcall r rounds hfirst
    exact faithful_of_delivered hview hdelivered hrecorded
  · have hview := Dialogue.run_view Audience.account hanswer (r.cycles n) audience
    obtain ⟨hdelivered, hrecorded⟩ := Dialogue.run_keeps hcall (r.cycles n) hfirst
    exact faithful_of_delivered hview hdelivered hrecorded

end RegistrySync
