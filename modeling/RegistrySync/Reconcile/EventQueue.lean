import RegistrySync.Reconcile.Event

/-!
# The event queue

Events wait in order for a listener. The queue holds a limited number of them; an event that finds
it full is lost, and so is every event once the listener is gone.
-/

namespace RegistrySync

/-- Events on their way to a listener. -/
structure EventQueue where
  capacity : Nat
  /-- The events not yet received, oldest first. -/
  waiting : List Event := []
  /-- Somebody may still receive events. -/
  listening : Bool := true

namespace EventQueue

/-- The greatest capacity that a queue can be made with. -/
def maxCapacity : Nat := 2305843009213693951

/-- Send an event; it is lost when nobody listens or the queue is full. -/
def send (q : EventQueue) (e : Event) : EventQueue :=
  if q.listening && q.waiting.length < q.capacity then { q with waiting := q.waiting ++ [e] } else q

@[simp] theorem capacity_send (q : EventQueue) (e : Event) : (q.send e).capacity = q.capacity := by
  unfold send
  split <;> rfl

@[simp] theorem listening_send (q : EventQueue) (e : Event) :
    (q.send e).listening = q.listening := by
  unfold send
  split <;> rfl

/-- A send keeps the events that wait, in order, and adds at most the new one behind them. -/
theorem waiting_send (q : EventQueue) (e : Event) :
    (q.send e).waiting = q.waiting ++
      if q.listening && q.waiting.length < q.capacity then [e] else [] := by
  rw [send]
  split <;> simp_all

/-- With somebody listening and room for all of them, no event is lost. -/
theorem waiting_foldl_send {q : EventQueue} {es : List Event} (hq : q.listening)
    (hroom : q.waiting.length + es.length ≤ q.capacity) :
    (es.foldl send q).waiting = q.waiting ++ es := by
  induction es generalizing q with
  | nil => exact (List.append_nil _).symm
  | cons e es ih =>
    rw [List.length_cons] at hroom
    have hsend : q.send e = { q with waiting := q.waiting ++ [e] } := by
      have hfree : q.waiting.length < q.capacity := by omega
      simp [send, hq, hfree]
    have hrest : (q.waiting ++ [e]).length + es.length ≤ q.capacity := by
      simp only [List.length_append, List.length_singleton]
      omega
    rw [List.foldl_cons, hsend, ih, List.append_assoc, List.singleton_append]
    · exact hq
    · exact hrest

/-- Receive the event that has waited longest. -/
def receive (q : EventQueue) : Option Event × EventQueue :=
  match q.waiting with
  | [] => (none, q)
  | e :: rest => (some e, { q with waiting := rest })

/-- Receive everything that waits. -/
def drain (q : EventQueue) : List Event × EventQueue := (q.waiting, { q with waiting := [] })

/-- The listener goes away, and what it has not received with it. -/
def close (q : EventQueue) : EventQueue := { q with waiting := [], listening := false }

end EventQueue

end RegistrySync
