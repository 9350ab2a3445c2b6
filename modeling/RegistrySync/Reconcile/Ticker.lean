/-!
# Tickers

Doing something at regular instants until told to stop. A ticker is due at once and then every
period. A tick that comes more than `Ticker.grace` late moves the ticks after it, so that they stay
a period apart and missed ticks are never made up for; one that is less late does not. The clock
ends at `Ticker.clockEnd`; a tick that would come later than that comes `Ticker.longest` after the
one before it.

Between two ticks there is a wait (`Timekeeper.wait`). It looks at the signal to stop before it
looks at the clock, so a signal wins over a tick that is due at the same instant; and it looks at
neither while something is being done, so that what was begun is finished.

Times are in milliseconds.
-/

namespace RegistrySync

/-- A repeating timer. -/
structure Ticker where
  period : Nat
  /-- When the next tick is due. -/
  due : Nat
deriving DecidableEq

/-- A signal to stop, which somebody holds to raise it. -/
structure Signal where
  raised : Bool := false
  held : Bool := true

/-- Who looks at the signal has to stop: it is raised, or nobody is left to raise it. -/
def Signal.stops (s : Signal) : Bool := s.raised || !s.held

/-- What ends a wait. -/
inductive Wake where
  /-- The tick, at this time. -/
  | tick (now : Nat)
  /-- The signal to stop. -/
  | stop
deriving DecidableEq

/-- How to tell the time and the signal, and how to sleep. -/
structure Timekeeper (σ : Type) where
  now : σ → Nat
  signal : σ → Signal
  /-- Sleep until an instant, or less when there is a signal before. -/
  sleep : Nat → σ → σ

variable {σ : Type}

namespace Timekeeper

/-- Sleep until an instant, unless it has come or there is a signal. -/
def rest (k : Timekeeper σ) (due : Nat) (s : σ) : σ :=
  if (k.signal s).stops ∨ due ≤ k.now s then s else k.sleep due s

/-- What there is to wake for: a signal if there is one, and else the tick. -/
def wake (k : Timekeeper σ) (s : σ) : Wake :=
  if (k.signal s).stops then .stop else .tick (k.now s)

/-- Wait until an instant, unless there is a signal by then. -/
def wait (k : Timekeeper σ) (due : Nat) (s : σ) : Wake × σ :=
  let s := k.rest due s
  (k.wake s, s)

end Timekeeper

namespace Ticker

/-- How late a tick may come without moving those after it. -/
def grace : Nat := 5

/-- The last second that the clock can tell, counted in 63 bits. -/
def clockEnd : Nat := (UInt64.size / 2 - 1) * 1000

/-- Thirty years of 365 days. -/
def longest : Nat := 30 * 365 * 24 * 60 * 60 * 1000

/-- When the tick after one at `now` is due, if the clock gets there. -/
def dueAfter (t : Ticker) (now : Nat) : Nat :=
  (if t.due + grace < now then now else t.due) + t.period

/-- The ticker after a tick at `now`. -/
def next (t : Ticker) (now : Nat) : Ticker :=
  let due := t.dueAfter now
  { t with due := if due < clockEnd then due else now + longest }

/-- The next tick is due no sooner than a period after this one, up to the grace. -/
theorem le_dueAfter (t : Ticker) (now : Nat) : now + t.period ≤ t.dueAfter now + grace := by
  simp only [dueAfter]
  split <;> omega

/-- At every tick, run `body`; until there is a signal to stop, which gives true, or `rounds` ticks
have passed. -/
def drive (k : Timekeeper σ) (body : σ → σ) : Nat → Ticker → σ → Bool × σ
  | 0, _, s => (false, s)
  | rounds + 1, t, s =>
    match k.wait t.due s with
    | (.stop, s) => (true, s)
    | (.tick now, s) => drive k body rounds (t.next now) (body s)

end Ticker

end RegistrySync
