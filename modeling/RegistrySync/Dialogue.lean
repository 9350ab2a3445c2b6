/-!
# Dialogues: computations that call collaborators

A `Dialogue` is a computation that makes calls, goes on with whatever is replied, and ends with a
result. It says nothing about who replies, so a statement about every answerer is a statement about
every behaviour of the collaborators.

- `run` lets an answerer with a state reply to each call, in the order of the calls.
- `via` replaces each call by a dialogue over calls of another kind.
-/

namespace RegistrySync

/-- A computation over calls, where `Reply c` is the type of the replies to `c`. -/
inductive Dialogue {Call : Type} (Reply : Call → Type) (α : Type) where
  | done (result : α)
  | ask (call : Call) (next : Reply call → Dialogue Reply α)

/-- Replies to every call from a state, and moves the state on. -/
abbrev Answerer {Call : Type} (Reply : Call → Type) (σ : Type) := (c : Call) → σ → Reply c × σ

namespace Dialogue

variable {Call Call' : Type} {Reply : Call → Type} {Reply' : Call' → Type} {α β γ σ : Type}

/-- First one computation, then the one its result selects. -/
def bind : Dialogue Reply α → (α → Dialogue Reply β) → Dialogue Reply β
  | done a, f => f a
  | ask c next, f => ask c fun r => (next r).bind f

instance : Monad (Dialogue Reply) where
  pure := done
  bind := bind

/-- The result and the final state, when `answer` replies. -/
def run (answer : Answerer Reply σ) : Dialogue Reply α → σ → α × σ
  | done a, s => (a, s)
  | ask c next, s => (next (answer c s).1).run answer (answer c s).2

/-- Make each call by way of other calls. -/
def via (f : (c : Call) → Dialogue Reply' (Reply c)) : Dialogue Reply α → Dialogue Reply' α
  | done a => done a
  | ask c next => (f c).bind fun r => (next r).via f

@[simp] theorem pure_eq_done (a : α) : (pure a : Dialogue Reply α) = done a := rfl

@[simp] theorem bind_eq (m : Dialogue Reply α) (f : α → Dialogue Reply β) :
    m >>= f = m.bind f := rfl

@[simp] theorem done_bind (a : α) (f : α → Dialogue Reply β) : (done a).bind f = f a := rfl

@[simp] theorem ask_bind (c : Call) (next : Reply c → Dialogue Reply α)
    (f : α → Dialogue Reply β) : (ask c next).bind f = ask c fun r => (next r).bind f := rfl

theorem bind_assoc (m : Dialogue Reply α) (f : α → Dialogue Reply β) (g : β → Dialogue Reply γ) :
    (m.bind f).bind g = m.bind fun a => (f a).bind g := by
  induction m with
  | done a => rfl
  | ask c next ih => simp [ih]

@[simp] theorem run_done (answer : Answerer Reply σ) (a : α) (s : σ) :
    (done a : Dialogue Reply α).run answer s = (a, s) := rfl

@[simp] theorem run_ask (answer : Answerer Reply σ) (c : Call)
    (next : Reply c → Dialogue Reply α) (s : σ) :
    (ask c next).run answer s = (next (answer c s).1).run answer (answer c s).2 := rfl

/-- A sequence runs its parts one after the other. -/
theorem run_bind (answer : Answerer Reply σ) (m : Dialogue Reply α) (f : α → Dialogue Reply β)
    (s : σ) :
    (m.bind f).run answer s = (f (m.run answer s).1).run answer (m.run answer s).2 := by
  induction m generalizing s with
  | done a => rfl
  | ask c next ih => simp [ih]

end Dialogue

end RegistrySync
