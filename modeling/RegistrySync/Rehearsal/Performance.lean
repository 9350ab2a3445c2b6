import RegistrySync.Reconcile.Reconciler
import RegistrySync.Rehearsal.World
import RegistrySync.Watch.Workshop

/-!
# Performing in a rehearsal

The collaborators of a rehearsal answer the dialogues of the reconciler and of the pollers, and the
run loops are driven by the clock of the rehearsal.
-/

namespace RegistrySync.Rehearsal

namespace World

/-- Attend to a request and let the collaborator serve it unless it fails. -/
def serve {α : Type} (w : World) (r : Request) (f : World → Except Failure α × World) :
    Except Failure α × World :=
  match w.attend r with
  | (some failure, w) => (.error failure, w)
  | (none, w) => f w

/-- Let the control plane do something. -/
def onControl {α : Type} (f : ObjectStore → Except Failure α × ObjectStore) (w : World) :
    Except Failure α × World :=
  let (reply, control) := f w.control
  (reply, { w with control })

/-- What a backend publishes. -/
def members (w : World) (b : Backend) : Membership :=
  match w.actors.find? (·.backend.scope == b.scope) with
  | some a => a.roster.hosts
  | none => .empty

/-- The collaborators of a cycle. -/
def answerCycle : Answerer Cycle.Call.Reply World
  | .members b, w => (w.members b, w)
  | .lookup name, w => w.serve (.cacheGet name) fun w => (.ok (w.cache.find? name), w)
  | .list scope, w => w.serve (.cacheList scope) fun w =>
    (.ok (if w.listsAll then w.cache.all else w.cache.list scope), w)
  | .get name, w => w.serve (.get name) fun w => (w.control.get name, w)
  | .create entry, w => w.serve (.create entry.name) (onControl (·.create entry))
  | .update entry, w =>
    w.serve (.update entry.name entry.metadata.resourceVersion) (onControl (·.update entry))
  | .delete name, w => w.serve (.delete name) (onControl (·.delete name))
  | .tell event, w => ((), { w with events := w.events.send event })

/-- What the watcher at a place of the list reads. -/
def script? (w : World) (i : Nat) : Option Script := (w.actors[i]?).map Actor.script

/-- The scripted catalog of the watcher at a place of the list. -/
def catalogOf (w : World) (i : Nat) : Catalog :=
  match w.script? i with
  | some (.catalog _ data) => data
  | _ => {}

def directoryOf (w : World) (i : Nat) : Directory :=
  match w.script? i with
  | some (.directory data) => data
  | _ => {}

def answerCatalog (i : Nat) : Answerer Consul.Catalog.Call.Reply World
  | .list index ns, w => w.serve (.list index ns) fun w =>
    let data := w.catalogOf i
    (.ok (data.names.getD data.services.keys, data.index), w)
  | .instances service ns, w => w.serve (.instances service ns) fun w =>
    (.ok (((w.catalogOf i).services.find? service).getD []), w)

def answerDirectory (i : Nat) : Answerer CloudMap.Directory.Call.Reply World
  | .namespaces, w => w.serve .namespaces fun w => (.ok (w.directoryOf i).namespaces, w)
  | .services id, w => w.serve (.services id) fun w =>
    (.ok (((w.directoryOf i).services.find? id).getD []), w)
  | .instances space service, w => w.serve (.discover space service) fun w =>
    (.ok (((w.directoryOf i).instances.find? (space ++ "/" ++ service)).getD []), w)

def setScript (w : World) (i : Nat) (script : Script) : World :=
  { w with actors := w.actors.modify i fun a => { a with script } }

/-- Replace what the catalog of a watcher tells. -/
def setCatalog (w : World) (i : Nat) (data : Catalog) : World :=
  match w.script? i with
  | some (.catalog poller _) => w.setScript i (.catalog poller data)
  | _ => w

def setPoller (w : World) (i : Nat) (poller : Consul.Poller) : World :=
  match w.script? i with
  | some (.catalog _ data) => w.setScript i (.catalog poller data)
  | _ => w

/-- The next scripted outcome of a watcher. -/
def nextOutcome (i : Nat) (w : World) : Except Failure Poll × World :=
  match w.script? i with
  | some (.outcomes (p :: ps)) => (.ok p, w.setScript i (.outcomes ps))
  | _ => (.ok .same, w)

/-- Poll as the watcher at a place of the list. -/
def poll (i : Nat) (w : World) : Poll × World :=
  match w.actors[i]? with
  | none => (.same, w)
  | some a =>
    match a.script with
    | .outcomes _ =>
      match w.serve (.poll a.backend.name) (nextOutcome i) with
      | (.ok p, w) => (p, w)
      | (.error f, w) => (.failed f.message, w)
    | .catalog poller _ =>
      let ((p, poller), w) := poller.poll.run (answerCatalog i) w
      (p, w.setPoller i poller)
    | .directory _ => CloudMap.poll.run (answerDirectory i) w

/-- Poll and publish the news; true when the roster was replaced. -/
def refresh (i : Nat) (w : World) : Bool × World :=
  let (p, w) := w.poll i
  match w.actors[i]? with
  | none => (false, w)
  | some a =>
    let (replaced, roster) := a.roster.absorb p
    (replaced, { w with actors := w.actors.modify i fun a => { a with roster } })

/-- Refresh a watcher at every tick until told to stop, at most `rounds` times. -/
def runWatcher (rounds i : Nat) (w : World) : Bool × World :=
  match w.actors[i]? with
  | none => (false, w)
  | some a =>
    Ticker.drive timekeeper (fun w => (w.refresh i).2) rounds
      { period := max a.interval 1, due := w.clock } w

/-- Run the reconciler until told to stop, for at most `rounds` cycles. -/
def runReconciler (r : Reconciler) (rounds : Nat) (w : World) : Bool × World :=
  r.run answerCycle timekeeper rounds w

/-- Forget the stop rule of a run. -/
def unplan (w : World) : World := { w with countdown := none, stopTime := none }

/-- The requests since the log was last taken, first to last. -/
def takeLog (w : World) : List Request × World := (w.log.reverse, { w with log := [] })

end World

/-- Makes watchers of a kind that needs nothing, or refuses to. -/
def standInMaker (failure : Option Failure) : Maker := fun settings =>
  .done <|
    match failure with
    | some f => .error (.failure f)
    | none => .ok ⟨⟨settings.kind, settings.kind ++ "-"⟩, 1, .custom⟩

/-- The maker with its clients built by a builder that fails, if a failure is given. -/
def withBuilder (failure : Option Failure) (maker : Maker) : Maker := fun settings =>
  (maker settings).via fun
    | .build region keys => .ask (.build region keys) fun reply => .done <|
      match failure with
      | some f => .error f
      | none => reply

/-- A builder that always succeeds; the region and keys of every client built, latest first. -/
def recordClients : Answerer ClientCall.Reply (List (String × Option CloudMap.KeyPair))
  | .build region keys, built => (.ok (), (region, keys) :: built)

end RegistrySync.Rehearsal
