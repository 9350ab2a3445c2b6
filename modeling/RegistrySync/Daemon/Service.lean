import RegistrySync.Daemon.Startup
import RegistrySync.Reconcile.EventQueue
import RegistrySync.Reconcile.ObjectStore

/-!
# The running daemon

A service is what the daemon keeps while it runs: for every watcher what it polled last and what it
publishes, and the objects of a dry run, which stay in the memory of the process. Polls and cycles
take turns in any order; each is one step of the service.
-/

namespace RegistrySync.Daemon

/-- A watcher at work. -/
structure Feed where
  watcher : Watcher
  poller : Consul.Poller := {}
  roster : Roster := {}

namespace Feed

/-- A watcher that has not polled yet. -/
def ofWatcher (w : Watcher) : Feed :=
  match w.source with
  | .consul _ namespaceName => { watcher := w, poller := { namespaceName } }
  | _ => { watcher := w }

/-- Poll once and publish the news. Sources other than Consul agents have none for the daemon. -/
def refresh (f : Feed) : Dialogue Net.Http.Call.Reply Feed :=
  match f.watcher.source with
  | .consul agent _ => (f.poller.poll.via agent.serve).bind fun r =>
    .done { f with poller := r.2, roster := (f.roster.absorb r.1).2 }
  | _ => .done f

end Feed

structure Service where
  feeds : List Feed
  reconciler : Reconciler
  objects : ObjectStore := {}
  events : EventQueue

namespace Service

/-- A service that has done nothing yet. -/
def ofRunning (r : Running) : Service where
  feeds := r.watchers.map Feed.ofWatcher
  reconciler := r.reconciler
  events := { capacity := r.reconciler.settings.eventCapacity.toNat }

/-- What a backend publishes. -/
def members (s : Service) (b : Backend) : Membership :=
  match s.feeds.find? (·.watcher.backend.scope == b.scope) with
  | some f => f.roster.hosts
  | none => .empty

/-- A reply of the object store, which is also its own cache. -/
def onObjects {α : Type} (s : Service) (r : Except Failure α × ObjectStore) :
    Except Failure α × Service :=
  (r.1, { s with objects := r.2 })

def answer : Answerer Cycle.Call.Reply Service
  | .members b, s => (s.members b, s)
  | .lookup name, s => (.ok (s.objects.find? name), s)
  | .list scope, s => (.ok (s.objects.list scope), s)
  | .get name, s => (s.objects.get name, s)
  | .create entry, s => s.onObjects (s.objects.create entry)
  | .update entry, s => s.onObjects (s.objects.update entry)
  | .delete name, s => s.onObjects (s.objects.delete name)
  | .tell event, s => ((), { s with events := s.events.send event })

/-- One reconciliation cycle. -/
def cycle (s : Service) : Service := (s.reconciler.cycle.run answer s).2

end Service

end RegistrySync.Daemon
