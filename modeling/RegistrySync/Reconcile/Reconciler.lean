import RegistrySync.Reconcile.Cycle
import RegistrySync.Reconcile.EventQueue
import RegistrySync.Reconcile.Ticker
import RegistrySync.Settings

/-!
# The reconciler

A reconciler follows a fixed list of backends. Every object belongs to at most one of them, because
`Reconciler.assemble` refuses an empty scope and two scopes of which one begins with the other. What
it accepts it still cannot assemble when the settings ask for a queue beyond the limit of queues.

`Reconciler.run` does a cycle at every tick until it is told to stop. It tells its listener when it
starts and when it stops.
-/

namespace RegistrySync

/-- Why backends cannot be followed together. -/
inductive ScopeFault where
  | emptyScope (b : Backend)
  | overlap (a b : Backend)
deriving DecidableEq

def ScopeFault.message : ScopeFault → String
  | .emptyScope b => "Backend " ++ b.name ++ " has an empty prefix"
  | .overlap a b =>
    "Backends " ++ a.name ++ " (" ++ a.scope ++ ") and " ++ b.name ++ " (" ++ b.scope ++
      ") have overlapping prefixes"

namespace Backend

/-- One of the scopes begins with the other. -/
def overlaps (a b : Backend) : Bool :=
  b.scope.toList.isPrefixOf a.scope.toList || a.scope.toList.isPrefixOf b.scope.toList

/-- The first fault of a list of backends: each has a scope of its own, and none overlaps a later
one. -/
def checkScopes : List Backend → Except ScopeFault Unit
  | [] => .ok ()
  | a :: rest =>
    if a.scope = "" then .error (.emptyScope a)
    else match rest.find? a.overlaps with
      | some b => .error (.overlap a b)
      | none => checkScopes rest

end Backend

/-- Backends to follow, and how. -/
structure Reconciler where
  backends : List Backend
  settings : CycleSettings

namespace Reconciler

/-- A reconciler for acceptable settings and backends that do not overlap. The check of the settings
asks for some capacity, but sets it no limit, so the queue may turn out too large to be made. -/
def assemble (backends : List Backend) (settings : CycleSettings) : Except Refusal Reconciler :=
  match settings.check with
  | .error f => .error (.failure f.failure)
  | .ok () =>
    match Backend.checkScopes backends with
    | .error f => .error (.failure (.configuration f.message))
    | .ok () =>
      if EventQueue.maxCapacity < settings.eventCapacity.toNat then .error .queueTooLarge
      else .ok { backends, settings }

/-- One cycle over all backends. -/
def cycle (r : Reconciler) : Cycle.Steps Tally :=
  Cycle.once r.settings.namespaceName r.backends

/-- The queue between the reconciler and its listener, as it is at first. -/
def queue (r : Reconciler) : EventQueue := { capacity := r.settings.eventCapacity.toNat }

/-- Milliseconds between two cycles. -/
def period (r : Reconciler) : Nat := 1000 * r.settings.interval.toNat

/-- Why a run ends. -/
def stopReason : String := "Shutdown signal"

variable {σ : Type}

/-- Cycle at every tick, from the first at once. -/
def loop (r : Reconciler) (answer : Answerer Cycle.Call.Reply σ) (k : Timekeeper σ) (rounds : Nat)
    (s : σ) : Bool × σ :=
  Ticker.drive k (fun s => (r.cycle.run answer s).2) rounds
    { period := r.period, due := k.now s } s

/-- Tell of the start, cycle until told to stop, but for at most `rounds` ticks, and then tell of
the stop; true when told to stop. -/
def run (r : Reconciler) (answer : Answerer Cycle.Call.Reply σ) (k : Timekeeper σ) (rounds : Nat)
    (s : σ) : Bool × σ :=
  let s := ((Cycle.tell (.started r.backends.length)).run answer s).2
  let (stopped, s) := r.loop answer k rounds s
  (stopped, if stopped then ((Cycle.tell (.stopped stopReason)).run answer s).2 else s)

end Reconciler

end RegistrySync
