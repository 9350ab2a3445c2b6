import RegistrySync.Dialogue

/-!
# Traces of dialogues

`Dialogue.trace` lists the calls that a run makes, each with the state in which it is made. The
answerer and such a pair determine the reply and the state after it, so that a trace tells all that
happens in a run.

Calls that are made for each member of a list fall into *stages*, one per member
(`Dialogue.stages`), and a computation may be run over and over (`Dialogue.after`), each *round*
going on with the result of the one before (`Dialogue.rounds`). What every call keeps, these keep.
When calls are made by way of others, they are answered by running these (`Dialogue.run_via`).

`Dialogue.Only` is about the computation alone: the calls it can make, whatever is replied. So is
`Dialogue.Hears`, which tells for a log of calls and replies what the computation makes of it; every
run has such a log (`Dialogue.hears_run`). `Dialogue.Alike` compares runs with two answerers.
-/

namespace RegistrySync.Dialogue

variable {Call : Type} {Reply : Call → Type} {α β ι σ : Type}

/-- The calls of a run, each with the state in which it is made. -/
def trace (answer : Answerer Reply σ) : Dialogue Reply α → σ → List (Call × σ)
  | done _, _ => []
  | ask c next, s => (c, s) :: (next (answer c s).1).trace answer (answer c s).2

@[simp] theorem trace_done (answer : Answerer Reply σ) (a : α) (s : σ) :
    (done a : Dialogue Reply α).trace answer s = [] := rfl

@[simp] theorem trace_ask (answer : Answerer Reply σ) (c : Call)
    (next : Reply c → Dialogue Reply α) (s : σ) :
    (ask c next).trace answer s = (c, s) :: (next (answer c s).1).trace answer (answer c s).2 := rfl

/-- A sequence makes the calls of its parts one after the other. -/
theorem trace_bind (answer : Answerer Reply σ) (m : Dialogue Reply α) (f : α → Dialogue Reply β)
    (s : σ) :
    (m.bind f).trace answer s =
      m.trace answer s ++ (f (m.run answer s).1).trace answer (m.run answer s).2 := by
  induction m generalizing s with
  | done a => rfl
  | ask c next ih => simp [ih]

theorem bind_done (m : Dialogue Reply α) : (m.bind fun a => .done a) = m := by
  induction m with
  | done a => rfl
  | ask c next ih => exact congrArg (ask c) (funext ih)

theorem via_bind {Call' : Type} {Reply' : Call' → Type}
    (serve : (c : Call) → Dialogue Reply' (Reply c)) (m : Dialogue Reply α)
    (f : α → Dialogue Reply β) :
    (m.bind f).via serve = (m.via serve).bind fun a => (f a).via serve := by
  induction m with
  | done a => rfl
  | ask c next ih => simp [via, ih, bind_assoc]

/-! ## Calls by way of others -/

section

variable {Call' : Type} {Reply' : Call' → Type} (serve : (c : Call) → Dialogue Reply' (Reply c))
  (answer : Answerer Reply' σ)

/-- Replies to a call by way of other calls. -/
def serving : Answerer Reply σ := fun c s => (serve c).run answer s

theorem run_via (m : Dialogue Reply α) (s : σ) :
    (m.via serve).run answer s = m.run (serving serve answer) s := by
  induction m generalizing s with
  | done a => rfl
  | ask c next ih => rw [via, run_bind, run_ask, ih, serving]

/-- Each call is replaced by those it takes. -/
theorem trace_via (m : Dialogue Reply α) (s : σ) :
    (m.via serve).trace answer s =
      (m.trace (serving serve answer) s).flatMap fun x => (serve x.1).trace answer x.2 := by
  induction m generalizing s with
  | done a => rfl
  | ask c next ih => rw [via, trace_bind, trace_ask, ih, List.flatMap_cons, serving]

end

/-! ## Logs -/

/-- The calls of a run, each with the reply it gets. -/
def log (answer : Answerer Reply σ) (m : Dialogue Reply α) (s : σ) : List ((c : Call) × Reply c) :=
  (m.trace answer s).map fun x => ⟨x.1, (answer x.1 x.2).1⟩

/-- The computation makes the calls of the log, and with these replies it has the result. -/
inductive Hears : Dialogue Reply α → List ((c : Call) × Reply c) → α → Prop
  | ended (a : α) : Hears (.done a) [] a
  | replied {c : Call} {next : Reply c → Dialogue Reply α} {r : Reply c}
      {log : List ((c : Call) × Reply c)} {a : α} (h : Hears (next r) log a) :
      Hears (.ask c next) (⟨c, r⟩ :: log) a

theorem hears_run (answer : Answerer Reply σ) (m : Dialogue Reply α) (s : σ) :
    m.Hears (m.log answer s) (m.run answer s).1 := by
  induction m generalizing s with
  | done a => exact .ended a
  | ask c next ih => exact .replied (ih _ _)

section

variable {log : List ((c : Call) × Reply c)}

theorem Hears.of_done {a b : α} (h : (done a : Dialogue Reply α).Hears log b) :
    log = [] ∧ b = a := by
  cases h
  exact ⟨rfl, rfl⟩

theorem Hears.of_ask {c : Call} {next : Reply c → Dialogue Reply α} {a : α}
    (h : (ask c next).Hears log a) : ∃ r rest, log = ⟨c, r⟩ :: rest ∧ (next r).Hears rest a := by
  cases h with
  | replied h => exact ⟨_, _, rfl, h⟩

/-- The log of a sequence is that of its parts, one after the other. -/
theorem Hears.of_bind {m : Dialogue Reply α} {f : α → Dialogue Reply β} {b : β}
    (h : (m.bind f).Hears log b) :
    ∃ first a rest, log = first ++ rest ∧ m.Hears first a ∧ (f a).Hears rest b := by
  induction m generalizing log with
  | done a => exact ⟨[], a, log, rfl, .ended a, h⟩
  | ask c next ih =>
    obtain ⟨r, _, rfl, hr⟩ := h.of_ask
    obtain ⟨first, a, rest, rfl, hm, hf⟩ := ih r hr
    exact ⟨⟨c, r⟩ :: first, a, rest, rfl, .replied hm, hf⟩

end

/-! ## Stages -/

/-- The members of a list, each with the state in which `body` begins for it. -/
def stages (answer : Answerer Reply σ) (body : ι → Dialogue Reply α) : List ι → σ → List (ι × σ)
  | [], _ => []
  | i :: is, s => (i, s) :: stages answer body is ((body i).run answer s).2

/-- Every member has its stage, in order. -/
theorem map_fst_stages (answer : Answerer Reply σ) (body : ι → Dialogue Reply α) (is : List ι)
    (s : σ) : (stages answer body is s).map (·.1) = is := by
  induction is generalizing s with
  | nil => rfl
  | cons i is ih => rw [stages, List.map_cons, ih]

theorem mem_of_mem_stages {answer : Answerer Reply σ} {body : ι → Dialogue Reply α} {is : List ι}
    {s : σ} {stage : ι × σ} (h : stage ∈ stages answer body is s) : stage.1 ∈ is := by
  rw [← map_fst_stages answer body is s]
  exact List.mem_map_of_mem h

theorem exists_stage (answer : Answerer Reply σ) (body : ι → Dialogue Reply α) {is : List ι} {i : ι}
    (h : i ∈ is) (s : σ) : ∃ w, (i, w) ∈ stages answer body is s := by
  rw [← map_fst_stages answer body is s] at h
  obtain ⟨stage, hstage, rfl⟩ := List.mem_map.1 h
  exact ⟨stage.2, hstage⟩

/-! ## Many runs -/

/-- The state after so many runs. -/
def after (answer : Answerer Reply σ) (m : Dialogue Reply α) : Nat → σ → σ
  | 0, s => s
  | k + 1, s => (m.run answer (after answer m k s)).2

section

variable (answer : Answerer Reply σ) (step : β → Dialogue Reply β) (b : β) (s : σ)

/-- The value and the state after so many rounds, each of which goes on with the value before. -/
def rounds : Nat → β × σ
  | 0 => (b, s)
  | k + 1 => (step (rounds k).1).run answer (rounds k).2

/-- The calls of a round. -/
def round (k : Nat) : List (Call × σ) :=
  (step (rounds answer step b s k).1).trace answer (rounds answer step b s k).2

/-- The calls of the first rounds. -/
def pastRounds (k : Nat) : List (Call × σ) := (List.range k).flatMap (round answer step b s)

variable {answer step b s}

theorem pastRounds_succ (k : Nat) : pastRounds answer step b s (k + 1) =
    pastRounds answer step b s k ++ round answer step b s k := by
  rw [pastRounds, List.range_succ, List.flatMap_append, List.flatMap_singleton, pastRounds]

/-- What every round keeps, all keep. -/
theorem rounds_keep {P : β → Prop} (hP : ∀ b s, P b → P ((step b).run answer s).1) (hb : P b)
    (k : Nat) : P (rounds answer step b s k).1 := by
  induction k with
  | zero => exact hb
  | succ k ih => exact hP _ _ ih

end

/-! ## What every call keeps -/

section

variable {answer : Answerer Reply σ} {P : σ → Prop} (hP : ∀ c s, P s → P (answer c s).2)
include hP

theorem run_keeps (m : Dialogue Reply α) {s : σ} (hs : P s) : P (m.run answer s).2 := by
  induction m generalizing s with
  | done a => exact hs
  | ask c next ih => exact ih _ (hP c s hs)

theorem trace_keeps {m : Dialogue Reply α} {s : σ} (hs : P s) {x : Call × σ}
    (hx : x ∈ m.trace answer s) : P x.2 := by
  induction m generalizing s with
  | done a => cases hx
  | ask c next ih =>
    rcases List.mem_cons.1 hx with rfl | hx
    · exact hs
    · exact ih _ (hP c s hs) hx

theorem stages_keep {body : ι → Dialogue Reply α} {is : List ι} {s : σ} (hs : P s)
    {stage : ι × σ} (hstage : stage ∈ stages answer body is s) : P stage.2 := by
  induction is generalizing s with
  | nil => cases hstage
  | cons i is ih =>
    rcases List.mem_cons.1 hstage with rfl | hstage
    · exact hs
    · exact ih (run_keeps hP (body i) hs) hstage

theorem after_keeps (m : Dialogue Reply α) (k : Nat) {s : σ} (hs : P s) :
    P (after answer m k s) := by
  induction k with
  | zero => exact hs
  | succ k ih => exact run_keeps hP m ih

end

/-- What the calls of one run keep, this run keeps. -/
theorem run_keeps_of_trace {answer : Answerer Reply σ} {P : σ → Prop} {m : Dialogue Reply α}
    {s : σ} (hP : ∀ x ∈ m.trace answer s, P x.2 → P (answer x.1 x.2).2) (hs : P s) :
    P (m.run answer s).2 := by
  induction m generalizing s with
  | done a => exact hs
  | ask c next ih =>
    have hc : P (answer c s).2 := hP (c, s) List.mem_cons_self hs
    exact ih _ (fun x hx => hP x (List.mem_cons_of_mem _ hx)) hc

/-- When the answerer sees only a part of the state, so does the run. -/
theorem run_view {τ : Type} {answer : Answerer Reply σ} {answer' : Answerer Reply τ} (view : σ → τ)
    (h : ∀ c s, answer' c (view s) = ((answer c s).1, view (answer c s).2)) (m : Dialogue Reply α)
    (s : σ) : m.run answer' (view s) = ((m.run answer s).1, view (m.run answer s).2) := by
  induction m generalizing s with
  | done a => rfl
  | ask c next ih => rw [run_ask, run_ask, h c s, ih]

/-! ## The calls that can be made -/

/-- Whatever is replied, only calls with the property are made. -/
def Only (P : Call → Prop) : Dialogue Reply α → Prop
  | done _ => True
  | ask c next => P c ∧ ∀ r, (next r).Only P

section

variable {P Q : Call → Prop} {m : Dialogue Reply α}

theorem Only.bind {f : α → Dialogue Reply β} (hm : m.Only P) (hf : ∀ a, (f a).Only P) :
    (m.bind f).Only P := by
  induction m with
  | done a => exact hf a
  | ask c next ih => exact ⟨hm.1, fun r => ih r (hm.2 r)⟩

theorem Only.imp (h : m.Only P) (hPQ : ∀ c, P c → Q c) : m.Only Q := by
  induction m with
  | done a => trivial
  | ask c next ih => exact ⟨hPQ c h.1, fun r => ih r (h.2 r)⟩

theorem Only.of_mem_trace (h : m.Only P) {answer : Answerer Reply σ} {s : σ} {x : Call × σ}
    (hx : x ∈ m.trace answer s) : P x.1 := by
  induction m generalizing s with
  | done a => cases hx
  | ask c next ih =>
    rcases List.mem_cons.1 hx with rfl | hx
    · exact h.1
    · exact ih _ (h.2 _) hx

end

/-! ## Two answerers -/

/-- With either answerer a run makes the same calls in the same states, and ends alike. -/
structure Alike (answer answer' : Answerer Reply σ) (m : Dialogue Reply α) (s : σ) : Prop where
  trace_eq : m.trace answer s = m.trace answer' s
  run_eq : m.run answer s = m.run answer' s

section

variable {answer answer' : Answerer Reply σ} {s : σ}

/-- The replies to a call may differ, as long as it goes on in the same way. -/
theorem alike_ask {c : Call} {next : Reply c → Dialogue Reply α}
    (hstate : (answer c s).2 = (answer' c s).2)
    (hnext : next (answer c s).1 = next (answer' c s).1)
    (h : Alike answer answer' (next (answer c s).1) (answer c s).2) :
    Alike answer answer' (ask c next) s where
  trace_eq := by rw [trace_ask, trace_ask, ← hstate, ← hnext, h.trace_eq]
  run_eq := by rw [run_ask, run_ask, ← hstate, ← hnext, h.run_eq]

theorem Alike.bind {m : Dialogue Reply α} {f : α → Dialogue Reply β} (h : Alike answer answer' m s)
    (hf : Alike answer answer' (f (m.run answer s).1) (m.run answer s).2) :
    Alike answer answer' (m.bind f) s where
  trace_eq := by rw [trace_bind, trace_bind, ← h.trace_eq, ← h.run_eq, hf.trace_eq]
  run_eq := by rw [run_bind, run_bind, ← h.run_eq, hf.run_eq]

/-- Answerers that agree on all calls that can be made cannot be told apart. -/
theorem alike_of_only {m : Dialogue Reply α}
    (h : m.Only fun c => ∀ s, answer c s = answer' c s) : Alike answer answer' m s := by
  induction m generalizing s with
  | done a => exact ⟨rfl, rfl⟩
  | ask c next ih =>
    have hc := h.1 s
    exact alike_ask (by rw [hc]) (by rw [hc]) (ih _ (h.2 _))

end

end RegistrySync.Dialogue
