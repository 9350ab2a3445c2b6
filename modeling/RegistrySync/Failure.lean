/-!
# Failures

Why a call or a check failed, and the one line that says so. Whoever makes a call only asks whether
the object was missing; everything else about a failure is for people to read. A `Refusal` is a
failure to make something at all.

A check is a sequence of demands, the first of which that is not met tells the fault.
-/

namespace RegistrySync

/-- Why something failed. -/
inductive Failure where
  /-- The control plane refused or could not answer. -/
  | controlPlane (message : String)
  | notFound (name : String)
  | alreadyExists (name : String)
  /-- The object was written by someone else in the meantime. -/
  | conflict (message : String)
  | configuration (message : String)
  /-- A text is not the JSON that was expected. -/
  | json
  | http (message : String)
  /-- A registry answered with an error. -/
  | backend (name message : String)
deriving DecidableEq

namespace Failure

def message : Failure → String
  | controlPlane m => "Config client error: " ++ m
  | notFound n => "Object not found: " ++ n
  | alreadyExists n => "Object already exists: " ++ n
  | conflict m => "Conflict: " ++ m
  | configuration m => "Configuration error: " ++ m
  | json => "JSON error: "
  | http m => "HTTP error: " ++ m
  | backend n m => "Backend error (" ++ n ++ "): " ++ m

/-- The object asked for does not exist. -/
def isNotFound : Failure → Bool
  | notFound _ => true
  | _ => false

end Failure

/-- Why something could not be made. -/
inductive Refusal where
  | failure (f : Failure)
  /-- A length of time exceeds what the clock can count. -/
  | clockOverflow
  /-- A queue is asked to hold more than any queue can. -/
  | queueTooLarge
deriving DecidableEq

def Refusal.message : Refusal → String
  | failure f => f.message
  | clockOverflow => "overflow when adding durations"
  | queueTooLarge => "a semaphore may not have more than MAX_PERMITS permits (2305843009213693951)"

/-- Go on when the condition holds, and otherwise end with the fault. -/
def demand {ε : Type} (condition : Bool) (fault : ε) : Except ε Unit :=
  if condition then .ok () else .error fault

theorem demand_eq_ok_iff {ε : Type} {condition : Bool} {fault : ε} {u : Unit} :
    demand condition fault = .ok u ↔ condition := by
  cases condition <;> simp [demand]

/-- Steps in turn come to an end when each of them does. -/
theorem bind_eq_ok_iff {ε α β : Type} {x : Except ε α} {f : α → Except ε β} {b : β} :
    x >>= f = .ok b ↔ ∃ a, x = .ok a ∧ f a = .ok b := by
  cases x with
  | error e =>
    constructor
    · rintro ⟨⟩
    · rintro ⟨a, ⟨⟩, h⟩
  | ok a =>
    constructor
    · intro h
      exact ⟨a, rfl, h⟩
    · rintro ⟨_, ⟨⟩, h⟩
      exact h

end RegistrySync
