import RegistrySync.Daemon.Environment
import RegistrySync.Reconcile.Reconciler
import RegistrySync.Watch.Workshop

/-!
# Starting the daemon

From the environment to watchers and a reconciler. Faults of the environment end the daemon with a
line on its error output and status 1. What fails after that ends it with status 2 and is only
logged. A daemon that has started runs until it is told to stop and then ends with status 0.
-/

namespace RegistrySync.Daemon

/-- What the daemon runs. -/
structure Running where
  watchers : List Watcher
  reconciler : Reconciler

/-- How a start comes out. -/
inductive Startup where
  /-- The environment cannot be used; the line says why. -/
  | refused (line : String)
  /-- The environment is acceptable, but something could not be made from it. -/
  | broken (refusal : Refusal)
  | running (r : Running)

/-- The workshop of the daemon. -/
def workshop : Workshop := ({} : Workshop).register "consul" Maker.consul

/-- Make watchers in turn, as long as none is refused. The daemon builds no Cloud Map clients. -/
def makeWatchers : List BackendSettings → Except Refusal (List Watcher)
  | [] => .ok []
  | settings :: rest => do
    let noClient : Answerer ClientCall.Reply Unit := fun
      | .build .., s => (.error (.configuration "AWS region must be specified"), s)
    let watcher ← ((workshop.make settings).run noClient ()).1
    let watchers ← makeWatchers rest
    return watcher :: watchers

/-- Make all that acceptable settings ask for. -/
def assemble (settings : Settings) : Except Refusal Running := do
  let watchers ← makeWatchers settings.backends
  let reconciler ← Reconciler.assemble (watchers.map (·.backend)) settings.cycle
  return { watchers, reconciler }

/-- Start from the variables of the environment. -/
def start (lookup : String → Option String) : Startup :=
  match Environment.read lookup with
  | .error fault => .refused ("Configuration error: " ++ fault.message ++ "\n")
  | .ok e =>
    match e.check with
    | .error fault => .refused ("Configuration validation error: " ++ fault.message ++ "\n")
    | .ok () =>
      match assemble e.settings with
      | .error refusal => .broken refusal
      | .ok r => .running r

namespace Startup

/-- The status the daemon ends with, in time. -/
def exitCode : Startup → UInt32
  | refused _ => 1
  | broken _ => 2
  | running _ => 0

/-- What the daemon writes to its error output. -/
def errorText : Startup → String
  | refused line => line
  | _ => ""

end Startup

end RegistrySync.Daemon
