import RegistrySync.Proofs.Accounts

/-!
# The discipline of the run loop

**Theorem (`run_keeps_discipline`).** Whatever the collaborators answer and however long they take,
a run tells that it starts, does one whole cycle after the other, and tells at last that it stops.
The first cycle begins at once, unless the run is told to stop before. No cycle begins once it is,
and a cycle that has begun is finished. Two cycles begin a period apart, up to the grace of the
ticker.

**Courses** (`Ticker.Course`). A course lists the states in which the ticks of a loop come. It says
nothing of a number of rounds; a loop that is granted more rounds than its course has ticks takes
that course (`Ticker.Course.drive_eq`).

**Circumstances.** All that a run may count on is that a sleep lasts until it is over
or there is a signal, that there is a signal for good from some moment on, and that the listener
hears what it is told. Ticks come later by most of a second each time, so they reach any moment, and
there is a course (`Circumstances.exists_course`).

**Pace.** A tick comes no sooner than it is due, and after it the ticker is due again a period
later, up to the grace; or thirty years later, when the clock ends before that
(`Ticker.le_due_next`).
-/

namespace RegistrySync

open RegistrySync.Cycle

variable {σ : Type}

namespace Timekeeper

variable {k : Timekeeper σ} {due : Nat} {s : σ}

/-- Rest ends at once, or after a sleep. -/
theorem rest_cases (k : Timekeeper σ) (due : Nat) (s : σ) :
    (k.rest due s = s ∧ ((k.signal s).stops ∨ due ≤ k.now s)) ∨ k.rest due s = k.sleep due s := by
  unfold rest
  split
  · next h => exact .inl ⟨rfl, h⟩
  · exact .inr rfl

theorem wake_eq_stop_iff : k.wake s = .stop ↔ (k.signal s).stops := by
  unfold wake
  split <;> simp_all

theorem wake_eq_tick_iff {now : Nat} :
    k.wake s = .tick now ↔ (k.signal s).stops = false ∧ k.now s = now := by
  unfold wake
  split <;> simp_all

/-- A tick that is due needs no rest. -/
theorem rest_of_due (h : due ≤ k.now s) : k.rest due s = s := by
  simp [rest, h]

end Timekeeper

/-! ## Courses -/

namespace Ticker

/-- How a loop goes that is told to stop: the states in which `body` begins, and the last state. -/
inductive Course (k : Timekeeper σ) (body : σ → σ) : Ticker → σ → List σ → σ → Prop
  | stopped {t : Ticker} {s last : σ} (h : k.wait t.due s = (.stop, last)) :
      Course k body t s [] last
  | ticked {t : Ticker} {s w last : σ} {now : Nat} {begins : List σ}
      (h : k.wait t.due s = (.tick now, w))
      (hrest : Course k body (t.next now) (body w) begins last) :
      Course k body t s (w :: begins) last

section

variable {k : Timekeeper σ} {body : σ → σ} {t : Ticker} {s last : σ} {begins : List σ}

/-- A loop with rounds enough takes its course. -/
theorem Course.drive_eq (h : Course k body t s begins last) {rounds : Nat}
    (hrounds : begins.length < rounds) : drive k body rounds t s = (true, last) := by
  induction h generalizing rounds with
  | stopped h =>
    cases rounds with
    | zero => cases hrounds
    | succ rounds => rw [drive, h]
  | ticked h hrest ih =>
    cases rounds with
    | zero => cases hrounds
    | succ rounds =>
      rw [drive, h]
      exact ih (Nat.lt_of_succ_lt_succ hrounds)

end

/-- After a tick that is not early, the next one is due a period later, up to the grace; or after
`longest`, when the clock ends before that. -/
theorem le_due_next {t : Ticker} {now : Nat} (h : t.due ≤ now) :
    now + min t.period longest ≤ (t.next now).due + grace ∧
      (now + t.period < clockEnd → now + t.period ≤ (t.next now).due + grace) := by
  have hafter := t.le_dueAfter now
  have hbound : t.dueAfter now ≤ now + t.period := by
    simp only [dueAfter]
    split <;> omega
  simp only [next]
  split <;> omega

end Ticker

/-! ## Circumstances -/

/-- What a run may count on: time and a signal that comes at last, collaborators, and a listener. -/
structure Circumstances (σ : Type) extends Timekeeper σ where
  answer : Answerer Call.Reply σ
  /-- The events that the listener has been told. -/
  heard : σ → List Event
  /-- From when on there is a signal for good. -/
  moment : Nat
  awake : ∀ due s, (signal (sleep due s)).stops ∨ due ≤ now (sleep due s)
  stops_of_moment : ∀ s, moment ≤ now s → (signal s).stops
  heard_answer : ∀ c s, heard (answer c s).2 = heard s ++ c.told?.toList
  heard_sleep : ∀ due s, heard (sleep due s) = heard s

namespace Circumstances

open Ticker

variable {e : Circumstances σ} {due now : Nat} {s w last : σ}

theorem heard_rest (e : Circumstances σ) (due : Nat) (s : σ) :
    e.heard (e.rest due s) = e.heard s := by
  rcases e.rest_cases due s with ⟨h, -⟩ | h
  · rw [h]
  · rw [h, e.heard_sleep]

/-- After a rest there is a signal, or the instant has come. -/
theorem stops_or_le_rest (e : Circumstances σ) (due : Nat) (s : σ) :
    (e.signal (e.rest due s)).stops ∨ due ≤ e.now (e.rest due s) := by
  rcases e.rest_cases due s with ⟨h, hs⟩ | h
  · rwa [h]
  · rw [h]
    exact e.awake due s

theorem of_wait_tick (h : e.wait due s = (.tick now, w)) :
    now = e.now w ∧ (e.signal w).stops = false ∧ due ≤ e.now w ∧ e.heard w = e.heard s := by
  obtain ⟨hwake, rfl⟩ := Prod.ext_iff.1 h
  obtain ⟨hsignal, hnow⟩ := Timekeeper.wake_eq_tick_iff.1 hwake
  refine ⟨hnow.symm, hsignal, (e.stops_or_le_rest due s).resolve_left ?_, e.heard_rest due s⟩
  exact Bool.eq_false_iff.1 hsignal

theorem of_wait_stop (h : e.wait due s = (.stop, last)) :
    (e.signal last).stops ∧ e.heard last = e.heard s := by
  obtain ⟨hwake, rfl⟩ := Prod.ext_iff.1 h
  exact ⟨Timekeeper.wake_eq_stop_iff.1 hwake, e.heard_rest due s⟩

theorem lt_moment (h : (e.signal w).stops = false) : e.now w < e.moment := by
  by_contra hle
  rw [e.stops_of_moment w (Nat.not_lt.1 hle)] at h
  cases h

/-- A loop with a period of a second at least has a course: its ticks come later and later, and
none comes after the moment of the signal. -/
theorem exists_course (e : Circumstances σ) (body : σ → σ) {t : Ticker} (ht : 1000 ≤ t.period)
    (s : σ) : ∃ begins last, Course e.toTimekeeper body t s begins last := by
  obtain ⟨n, hn⟩ : ∃ n, n = e.moment - t.due := ⟨_, rfl⟩
  induction n using Nat.strongRecOn generalizing t s with
  | ind n ih =>
    cases hwait : e.wait t.due s with
    | mk wake w =>
      cases wake with
      | stop => exact ⟨[], w, .stopped hwait⟩
      | tick now =>
        obtain ⟨rfl, hsignal, hdue, -⟩ := of_wait_tick hwait
        have hlt := lt_moment hsignal
        have hlater : t.due < (t.next (e.now w)).due := by
          have hnext := (le_due_next hdue).1
          have hlongest : 1000 ≤ longest := by decide
          simp only [grace] at hnext
          omega
        have hless : e.moment - (t.next (e.now w)).due < n := by omega
        obtain ⟨begins, last, hrest⟩ := ih _ hless (t := t.next (e.now w)) ht (body w) rfl
        exact ⟨w :: begins, last, .ticked hwait hrest⟩

section

variable {body : σ → σ} {t : Ticker} {begins : List σ}

theorem signals_of_course (h : Course e.toTimekeeper body t s begins last) :
    (∀ w ∈ begins, (e.signal w).stops = false) ∧ (e.signal last).stops := by
  induction h with
  | stopped h => exact ⟨fun w hw => absurd hw List.not_mem_nil, (of_wait_stop h).1⟩
  | ticked h hrest ih => exact ⟨List.forall_mem_cons.2 ⟨(of_wait_tick h).2.1, ih.1⟩, ih.2⟩

theorem due_le_of_course (h : Course e.toTimekeeper body t s (w :: begins) last) :
    t.due ≤ e.now w := by
  cases h with
  | ticked h hrest => exact (of_wait_tick h).2.2.1

/-- A tick that is due comes in the state as it is. -/
theorem head?_of_course (hdue : t.due ≤ e.now s)
    (h : Course e.toTimekeeper body t s begins last) :
    begins.head? = if (e.signal s).stops then none else some s := by
  have hrest := Timekeeper.rest_of_due hdue
  cases h with
  | stopped h =>
    obtain ⟨hwake, -⟩ := Prod.ext_iff.1 h
    rw [Timekeeper.wait, hrest] at hwake
    rw [if_pos (Timekeeper.wake_eq_stop_iff.1 hwake), List.head?_nil]
  | ticked h htail =>
    obtain ⟨hwake, rfl⟩ := Prod.ext_iff.1 h
    rw [Timekeeper.wait, hrest] at hwake ⊢
    obtain ⟨hsignal, -⟩ := Timekeeper.wake_eq_tick_iff.1 hwake
    rw [hsignal, if_neg Bool.false_ne_true, List.head?_cons]

/-- The second state comes a period after the first, as far as the clock tells. -/
def Paced (e : Circumstances σ) (period : Nat) (w w' : σ) : Prop :=
  period ≤ longest ∨ e.now w + period < clockEnd → e.now w + period ≤ e.now w' + grace

theorem paced_of_course (h : Course e.toTimekeeper body t s begins last) :
    begins.IsChain (e.Paced t.period) := by
  induction h with
  | stopped h => exact .nil
  | @ticked t s w last now begins h hrest ih =>
    obtain ⟨rfl, -, hdue, -⟩ := of_wait_tick h
    cases begins with
    | nil => exact .singleton w
    | cons w' begins =>
      refine .cons_cons (fun hclock => ?_) ih
      have hnext := le_due_next hdue
      have hle := due_le_of_course hrest
      omega

/-- The listener hears what is told while `body` runs, and nothing in between. -/
theorem heard_of_course {told : σ → List Event}
    (hbody : ∀ w, e.heard (body w) = e.heard w ++ told w)
    (h : Course e.toTimekeeper body t s begins last) :
    e.heard last = e.heard s ++ begins.flatMap told := by
  induction h with
  | stopped h => rw [(of_wait_stop h).2, List.flatMap_nil, List.append_nil]
  | ticked h hrest ih =>
    rw [ih, hbody, (of_wait_tick h).2.2.2, List.flatMap_cons, List.append_assoc]

end

/-- The listener hears what a dialogue tells. -/
theorem heard_run {α : Type} (e : Circumstances σ) (m : Steps α) (s : σ) :
    e.heard (m.run e.answer s).2 = e.heard s ++ (m.trace e.answer s).filterMap (·.1.told?) := by
  induction m generalizing s with
  | done a => exact (List.append_nil _).symm
  | ask c next ih =>
    rw [Dialogue.run_ask, Dialogue.trace_ask, ih, e.heard_answer, List.append_assoc]
    cases h : c.told? <;> simp [h]

end Circumstances

/-! ## What a cycle tells -/

namespace Cycle

/-- What the call tells, if anything, is about an object. -/
def Call.TellsOfObjects (c : Call) : Prop := ∀ event, c.told? = some event → event.object?.isSome

theorem Call.Serves.tellsOfObjects {desired : ServiceEntry} {c : Call} (h : c.Serves desired) :
    c.TellsOfObjects := by
  intro event hevent
  cases c with
  | tell told =>
    cases hevent
    have hobject : event.object? = some desired.name := h
    rw [hobject]
    rfl
  | _ => cases hevent

theorem Call.Removes.tellsOfObjects {name : String} {c : Call} (h : c.Removes name) :
    c.TellsOfObjects := by
  intro event hevent
  cases c with
  | tell told =>
    cases hevent
    cases event with
    | deleted other | failed other operation message => rfl
    | _ => exact h.elim
  | _ => cases hevent

theorem only_settleHosts (b : Backend) (namespaceName : String)
    (ms : List (String × List Endpoint)) :
    (settleHosts b namespaceName ms).Only Call.TellsOfObjects := by
  rw [settleHosts_eq]
  refine only_tallyEach (fun m => ?_) ms
  obtain ⟨next, heq, hnext⟩ := settleEntry_eq (.desired b namespaceName m.1 m.2)
  have hsettle : (settleHost b namespaceName m.1 m.2).Only Call.TellsOfObjects := by
    rw [settleHost, heq]
    refine ⟨fun event h => ?_, fun reply => (hnext reply).imp fun c => (·.tellsOfObjects)⟩
    cases h
  exact hsettle.bind fun _ => trivial

theorem only_sweep (b : Backend) (m : Membership) : (sweep b m).Only Call.TellsOfObjects := by
  refine only_call_bind (fun event h => nomatch h) fun reply => ?_
  cases reply with
  | error f =>
    refine only_call_bind (fun event h => ?_) fun _ => trivial
    cases h
    rfl
  | ok entries =>
    show Dialogue.Only _ ((sweepObjects b m entries).bind _)
    rw [sweepObjects_eq_deletes]
    have hdeletes := only_tallyEach (fun name => (only_deleteObject name).imp fun c h =>
      h.tellsOfObjects) ((entries.filter (isStray b m)).map (·.name))
    exact hdeletes.bind fun _ => trivial

theorem only_syncBackends (namespaceName : String) (bs : List Backend) :
    (syncBackends namespaceName bs).Only Call.TellsOfObjects := by
  rw [syncBackends_eq]
  refine only_tallyEach (fun b => only_call_bind (fun event h => nomatch h) fun m => ?_) bs
  exact (only_settleHosts b namespaceName m.entries).bind fun _ =>
    (only_sweep b m).bind fun _ => trivial

/-- What a run of the dialogue tells. -/
def told {α : Type} (answer : Answerer Call.Reply σ) (m : Steps α) (s : σ) : List Event :=
  (m.trace answer s).filterMap (·.1.told?)

/-- A cycle tells of objects, and then that it is complete. -/
theorem told_once (answer : Answerer Call.Reply σ) (namespaceName : String) (bs : List Backend)
    (s : σ) : ∃ events, told answer (once namespaceName bs) s =
        events ++ [.cycleCompleted ((once namespaceName bs).run answer s).1] ∧
      ∀ event ∈ events, event.object?.isSome := by
  refine ⟨told answer (syncBackends namespaceName bs) s, ?_, fun event hevent => ?_⟩
  · simp [told, once, Cycle.tell, call, Dialogue.trace_bind, Dialogue.run_bind, Call.told?]
  · obtain ⟨x, hx, htold⟩ := List.mem_filterMap.1 hevent
    exact (only_syncBackends namespaceName bs).of_mem_trace hx event htold

end Cycle

open Ticker

/-- **A run keeps its discipline.** There is a list of states in which cycles begin, and a state in
which the run is told to stop, such that:
* with rounds enough the run takes this course and ends after it has told that it stops;
* the listener hears of the start, then of each cycle, and last of the stop, and a cycle tells of
  objects and then once that it is complete;
* the first cycle begins in the very state after the start, unless there is a signal in it; and no
  cycle begins when there is a signal, so none does from the moment of the signal on;
* of two cycles in a row the later begins a period after the earlier, up to the grace. -/
theorem run_keeps_discipline (r : Reconciler) (hinterval : r.settings.interval ≠ 0)
    (e : Circumstances σ) (s : σ) :
    let started := ((Cycle.tell (.started r.backends.length)).run e.answer s).2
    let cycle := fun w => (r.cycle.run e.answer w).2
    let ended := fun w => ((Cycle.tell (.stopped Reconciler.stopReason)).run e.answer w).2
    ∃ begins last,
      Course e.toTimekeeper cycle { period := r.period, due := e.now started } started begins last ∧
      (∀ rounds, begins.length < rounds →
        r.run e.answer e.toTimekeeper rounds s = (true, ended last)) ∧
      e.heard (ended last) = e.heard s ++ [.started r.backends.length] ++
        begins.flatMap (told e.answer r.cycle) ++ [.stopped Reconciler.stopReason] ∧
      (∀ w ∈ begins, ∃ events, told e.answer r.cycle w =
          events ++ [.cycleCompleted (r.cycle.run e.answer w).1] ∧
        ∀ event ∈ events, event.object?.isSome) ∧
      begins.head? = (if (e.signal started).stops then none else some started) ∧
      (∀ w ∈ begins, (e.signal w).stops = false ∧ e.now w < e.moment) ∧
      (e.signal last).stops ∧
      begins.IsChain (e.Paced r.period) := by
  intro started cycle ended
  have hperiod : 1000 ≤ r.period := by
    have hpos : r.settings.interval.toNat ≠ 0 := fun h => hinterval (UInt64.toNat_inj.1 h)
    simp only [Reconciler.period]
    omega
  obtain ⟨begins, last, hcourse⟩ := e.exists_course cycle
    (t := { period := r.period, due := e.now started }) hperiod started
  obtain ⟨hsignals, hlast⟩ := Circumstances.signals_of_course hcourse
  refine ⟨begins, last, hcourse, fun rounds hrounds => ?_, ?_, fun w _ => told_once _ _ _ w, ?_,
    fun w hw => ⟨hsignals w hw, Circumstances.lt_moment (hsignals w hw)⟩, hlast,
    Circumstances.paced_of_course hcourse⟩
  · have hloop : r.loop e.answer e.toTimekeeper rounds started = (true, last) :=
      hcourse.drive_eq hrounds
    simp [Reconciler.run, hloop, started, ended]
  · have hheard := Circumstances.heard_of_course (fun w => e.heard_run r.cycle w) hcourse
    rw [e.heard_run, hheard, e.heard_run]
    rfl
  · exact Circumstances.head?_of_course (Nat.le_refl _) hcourse

/-- A clock, and what was heard. -/
structure Shift where
  clock : Nat := 0
  heard : List Event := []
deriving DecidableEq

/-- Every listing takes longer than a second, and after three and a half seconds nobody holds the
signal any more. -/
def overrun : Circumstances Shift where
  now s := s.clock
  signal s := { held := s.clock < 3500 }
  sleep due s := { s with clock := max s.clock (min due 3500) }
  answer
    | .members _, s => (.empty, s)
    | .lookup _, s => (.ok none, s)
    | .list _, s => (.ok [], { s with clock := s.clock + 1200 })
    | .get name, s => (.error (.notFound name), s)
    | .create entry, s => (.ok entry, s)
    | .update entry, s => (.ok entry, s)
    | .delete _, s => (.ok (), s)
    | .tell event, s => ((), { s with heard := s.heard ++ [event] })
  heard s := s.heard
  moment := 3500
  awake due s := by
    simp only [Signal.stops, Bool.not_eq_true', Bool.or_eq_true, decide_eq_false_iff_not]
    omega
  stops_of_moment s h := by
    simp only [Signal.stops, Bool.not_eq_true', Bool.or_eq_true, decide_eq_false_iff_not]
    omega
  heard_answer c s := by cases c <;> simp [Call.told?]
  heard_sleep _ _ := rfl

/-- Cycles that overrun their second begin at 0, 1200 and 2400; the third is under way when the
signal is lost. -/
theorem overrun_keeps_discipline :
    let r : Reconciler := ⟨[Consul.backend], { interval := 1 }⟩
    r.settings.interval ≠ 0 ∧
    r.run overrun.answer overrun.toTimekeeper 4 {} = (true, {
      clock := 3600
      heard := [.started 1, .cycleCompleted {}, .cycleCompleted {}, .cycleCompleted {},
        .stopped "Shutdown signal"] }) ∧
    ∃ begins : List Shift,
      begins.head? = some { heard := [.started 1] } ∧
      (∀ w ∈ begins, w.clock < 3500) ∧
      begins.IsChain (overrun.Paced 1000) := by
  intro r
  have hinterval : r.settings.interval ≠ 0 := by decide
  obtain ⟨begins, last, -, -, -, -, hfirst, hbegins, -, hpaced⟩ :=
    run_keeps_discipline r hinterval overrun {}
  exact ⟨hinterval, by decide, begins, hfirst, fun w hw => (hbegins w hw).2, hpaced⟩

end RegistrySync
