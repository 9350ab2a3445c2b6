import RegistrySync.CloudMap.Collect
import RegistrySync.Consul.Poller
import RegistrySync.Reconcile.EventQueue
import RegistrySync.Reconcile.ObjectStore
import RegistrySync.Reconcile.Ticker
import RegistrySync.Rehearsal.Request

/-!
# The world of a rehearsal

A rehearsal runs the reconciler and its watchers against collaborators that follow a script, on a
clock that only moves while somebody waits. Nothing is left to chance, so a rehearsal can be
repeated.

**What a request goes through** (`World.attend`): it is logged; its delay passes; the first hook for
it does its work and is spent; it is counted for the stop rule; and the first failure rule for it
makes it fail. Only then does the collaborator do what was asked.

**Stopping.** A stop rule names the moment at which a run is told to stop: before it starts, during
the n-th request of a kind, or after some time. `World.timekeeper` is how a run learns of it.
-/

namespace RegistrySync.Rehearsal

/-- Something that happens a limited number of times, or always. -/
structure Limited (α : Type) where
  what : α
  left : Option Nat := none

namespace Limited

variable {α : Type}

/-- One time less; nothing once the last time has passed. -/
def spend (l : Limited α) : Option (Limited α) :=
  match l.left with
  | none => some l
  | some n => if n ≤ 1 then none else some { l with left := some (n - 1) }

/-- The first that satisfies `p`, with what is left of all after spending it. -/
def take (p : α → Bool) : List (Limited α) → Option (α × List (Limited α))
  | [] => none
  | l :: ls =>
    if p l.what then some (l.what, l.spend.toList ++ ls)
    else (take p ls).map fun r => (r.1, l :: r.2)

end Limited

/-- Requests that fail. -/
structure FailureRule where
  pattern : Pattern
  failure : Failure

/-- Requests that take some milliseconds. -/
structure Delay where
  kind : RequestKind
  length : Nat

/-- What happens during a request: a membership is published, an object is written or removed behind
the reconciler's back. -/
structure Hook where
  pattern : Pattern
  publish : Option (Nat × Membership) := none
  seed : Option ServiceEntry := none
  remove : Option String := none

/-- When a run is told to stop. -/
inductive StopRule where
  | before
  | during (kind : RequestKind) (count : Nat)
  | after (length : Nat)

/-- What a scripted catalog tells. -/
structure Catalog where
  index : UInt64 := 0
  services : Table (List Consul.Instance) := .empty
  /-- The names to list, when they are not those of the services. -/
  names : Option (List String) := none

/-- What a scripted directory tells; instances are found by namespace and service name with a slash
between them. -/
structure Directory where
  namespaces : List CloudMap.Summary := []
  services : Table (List CloudMap.Summary) := .empty
  instances : Table (List CloudMap.Instance) := .empty

/-- Where a watcher of a rehearsal reads. -/
inductive Script where
  /-- Polls come out as listed, and without news after that. -/
  | outcomes (next : List Poll)
  | catalog (poller : Consul.Poller) (data : Catalog)
  | directory (data : Directory)

/-- A watcher of a rehearsal. -/
structure Actor where
  backend : Backend
  /-- Milliseconds between polls. -/
  interval : Nat
  roster : Roster := {}
  script : Script

structure World where
  actors : List Actor
  control : ObjectStore := {}
  /-- A cache of its own; without one the control plane is its own cache. -/
  separateCache : Option ObjectStore := none
  /-- The cache lists everything, whatever the scope. -/
  listsAll : Bool := false
  failures : List (Limited FailureRule) := []
  delays : List (Limited Delay) := []
  hooks : List Hook := []
  /-- Milliseconds since the rehearsal began. -/
  clock : Nat := 0
  /-- The requests so far, latest first. -/
  log : List Request := []
  events : EventQueue
  /-- The kind and the number of requests until the run is told to stop. -/
  countdown : Option (RequestKind × Nat) := none
  /-- When the run is told to stop, if that is known. -/
  stopTime : Option Nat := none

namespace World

def cache (w : World) : ObjectStore := w.separateCache.getD w.control

/-- Publish a membership as the watcher at a place of the list. -/
def publish (w : World) (i : Nat) (m : Membership) : World :=
  { w with actors := w.actors.modify i fun a => { a with roster := a.roster.publish m } }

/-- What a hook does. -/
def applyHook (w : World) (h : Hook) : World :=
  let w := match h.publish with
    | some (i, m) => w.publish i m
    | none => w
  let w := match h.seed with
    | some entry => { w with control := (w.control.put entry).2 }
    | none => w
  match h.remove with
  | some name => { w with control := (w.control.delete name).2 }
  | none => w

def passDelay (w : World) (r : Request) : World :=
  match Limited.take (fun d : Delay => d.kind = r.kind) w.delays with
  | some (d, delays) => { w with clock := w.clock + d.length, delays }
  | none => w

def runHook (w : World) (r : Request) : World :=
  match w.hooks.find? (·.pattern.picks r) with
  | some h => { w with hooks := w.hooks.eraseP (·.pattern.picks r) }.applyHook h
  | none => w

def countRequest (w : World) (r : Request) : World :=
  match w.countdown with
  | none => w
  | some (kind, n) =>
    if kind ≠ r.kind then w
    else if n ≤ 1 then { w with countdown := none, stopTime := some w.clock }
    else { w with countdown := some (kind, n - 1) }

def takeFailure (w : World) (r : Request) : Option Failure × World :=
  match Limited.take (fun f : FailureRule => f.pattern.picks r) w.failures with
  | some (f, failures) => (some f.failure, { w with failures })
  | none => (none, w)

/-- What every request goes through before it is served; a failure if it is not to be served. -/
def attend (w : World) (r : Request) : Option Failure × World :=
  ((({ w with log := r :: w.log }.passDelay r).runHook r).countRequest r).takeFailure r

/-- Set up the stop rule of a run that starts now. -/
def plan (w : World) : StopRule → World
  | .before => { w with countdown := none, stopTime := some w.clock }
  | .during kind count => { w with countdown := some (kind, count), stopTime := none }
  | .after length => { w with countdown := none, stopTime := some (w.clock + length) }

/-- The clock of the rehearsal only moves on, and nobody sleeps through the moment to stop. -/
def timekeeper : Timekeeper World where
  now w := w.clock
  signal w := { raised := w.stopTime.any (· ≤ w.clock) }
  sleep due w := { w with clock := max w.clock (min due (w.stopTime.getD due)) }

end World

end RegistrySync.Rehearsal
