import RegistrySync.Daemon.Service

/-!
# The daemon

The command without arguments: it is set up by its environment, says on its error output why it
cannot start, and otherwise runs until its standard input ends.

It has no carrier for HTTP requests of its own: its polls end as those of a daemon that reaches no
agent (`Net.Http.unreachable`). What a poll does once an agent answers is in `Consul.Agent`.
-/

namespace RegistrySync.Daemon

/-- The variables of the environment that are set. -/
def readVariables : IO (Table String) := do
  let mut found : Table String := .empty
  for name in Environment.names do
    if let some value ← IO.getEnv name then
      found := found.insert name value
  return found

/-- Read until there is no more. -/
partial def awaitEnd (input : IO.FS.Stream) : IO Unit := do
  let line ← input.getLine
  unless line.isEmpty do
    awaitEnd input

/-- When the next cycle and the next polls are due. -/
structure Timers where
  cycle : Ticker
  polls : List Ticker

/-- The feeds whose timer is due poll. -/
def pollDue (now : Nat) (polls : List Ticker) (feeds : List Feed) : List (Feed × Ticker) :=
  (feeds.zip polls).map fun (f, t) =>
    if t.due ≤ now then ((f.refresh.run Net.Http.unreachable ()).1, t.next now) else (f, t)

/-- Poll and reconcile at the ticks of the timers until `ended`. -/
partial def serve (ended : Task (Except IO.Error Unit)) (timers : Timers) (s : Service) :
    IO Unit := do
  if ← IO.hasFinished ended then return
  let now ← IO.monoMsNow
  let polled := pollDue now timers.polls s.feeds
  let s := { s with feeds := polled.map (·.1) }
  let polls := polled.map (·.2)
  IO.sleep 50
  if timers.cycle.due ≤ now then
    let s := s.cycle
    serve ended { cycle := timers.cycle.next now, polls } { s with events := s.events.drain.2 }
  else
    serve ended { cycle := timers.cycle, polls } s

end RegistrySync.Daemon

open RegistrySync.Daemon in
def main : IO UInt32 := do
  let found ← readVariables
  let startup := start found.find?
  IO.eprint startup.errorText
  if let .running r := startup then
    let ended ← IO.asTask (awaitEnd (← IO.getStdin))
    let now ← IO.monoMsNow
    let polls := r.watchers.map fun w => { period := 1000 * w.interval.toNat, due := now }
    serve ended { cycle := { period := r.reconciler.period, due := now }, polls }
      (Service.ofRunning r)
  return startup.exitCode
