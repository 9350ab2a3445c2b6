import RegistrySync.Dialogue
import RegistrySync.Failure
import RegistrySync.Mesh.Inference
import RegistrySync.Reconcile.Event

/-!
# The reconciliation cycle

A cycle brings the control plane in line with what the backends publish. It is a dialogue over the
calls listed in `Cycle.Call`, so that it can be run against any control plane, cache and listener.

**Per backend.** The membership is read once. Every host of it, in order of name, is created,
updated or left alone; then every listed object of the backend whose host is not in that membership
is deleted. Everything is judged against the one membership read.

**Per host.** The cache tells the object at hand. If there is none, the desired entry is created. If
the object says the same as the desired entry, nothing is done. Otherwise the object is read from
the control plane, so that the update keeps its metadata and shows its version, and is written back
with the desired spec; an object that is gone by then is created.

**Failures** are told to the listener and counted, and the cycle goes on with the next host, object
or backend. Nothing is remembered between cycles.
-/

namespace RegistrySync

namespace Cycle

/-- The calls a cycle makes. -/
inductive Call where
  /-- Read what a backend publishes. -/
  | members (b : Backend)
  /-- Ask the cache for an object. -/
  | lookup (name : String)
  /-- Ask the cache for all objects whose names begin with a scope. -/
  | list (scope : String)
  /-- Read an object from the control plane. -/
  | get (name : String)
  | create (entry : ServiceEntry)
  | update (entry : ServiceEntry)
  | delete (name : String)
  /-- Tell the listener. -/
  | tell (event : Event)

/-- What is replied to a call. -/
@[reducible]
def Call.Reply : Call → Type
  | .members _ => Membership
  | .lookup _ => Except Failure (Option ServiceEntry)
  | .list _ => Except Failure (List ServiceEntry)
  | .get _ => Except Failure ServiceEntry
  | .create _ => Except Failure ServiceEntry
  | .update _ => Except Failure ServiceEntry
  | .delete _ => Except Failure Unit
  | .tell _ => Unit

/-- A part of a cycle. -/
abbrev Steps (α : Type) := Dialogue Call.Reply α

/-- Make one call. -/
def call (c : Call) : Steps c.Reply := .ask c .done

def tell (e : Event) : Steps Unit := call (.tell e)

/-- Tell that a call about `name` failed, and end with the failure. -/
def fail {α : Type} (name : String) (operation : Operation) (failure : Failure) :
    Steps (Except Failure α) := do
  tell (.failed name operation failure.message)
  return .error failure

/-! ## One host -/

def createEntry (entry : ServiceEntry) : Steps (Except Failure Change) := do
  match ← call (.create entry) with
  | .error f => fail entry.name .create f
  | .ok _ =>
    tell (.created entry.name)
    return .ok .created

/-- Write `entry` with the spec of `desired`. -/
def updateEntry (entry desired : ServiceEntry) : Steps (Except Failure Change) := do
  match ← call (.update { entry with spec := desired.spec }) with
  | .error f => fail desired.name .update f
  | .ok _ =>
    tell (.updated desired.name)
    return .ok .updated

/-- Update an object that differs from the desired entry, as the control plane now has it. -/
def replaceEntry (desired : ServiceEntry) : Steps (Except Failure Change) := do
  match ← call (.get desired.name) with
  | .error f => if f.isNotFound then createEntry desired else fail desired.name .get f
  | .ok entry => updateEntry entry desired

/-- Make the control plane hold an entry that says the same as the desired one. -/
def settleEntry (desired : ServiceEntry) : Steps (Except Failure Change) := do
  match ← call (.lookup desired.name) with
  | .error f => fail desired.name .lookup f
  | .ok none => createEntry desired
  | .ok (some entry) =>
    if entry.spec.equivalent desired.spec then
      tell (.unchanged desired.name)
      return .ok .unchanged
    else replaceEntry desired

/-- Reconcile one host of a backend. -/
def settleHost (b : Backend) (namespaceName host : String) (endpoints : List Endpoint) :
    Steps (Except Failure Change) :=
  settleEntry (.desired b namespaceName host endpoints)

/-- What the outcome for one host adds to the tally. -/
def hostTally : Except Failure Change → Tally
  | .ok c => .ofChange c
  | .error _ => { failed := 1 }

/-- Reconcile hosts one after the other. -/
def settleHosts (b : Backend) (namespaceName : String) :
    List (String × List Endpoint) → Steps Tally
  | [] => return {}
  | (host, endpoints) :: rest => do
    let outcome ← settleHost b namespaceName host endpoints
    let others ← settleHosts b namespaceName rest
    return hostTally outcome + others

/-! ## Objects whose host is gone -/

def deleteObject (name : String) : Steps Tally := do
  match ← call (.delete name) with
  | .ok _ =>
    tell (.deleted name)
    return { deleted := 1 }
  | .error f =>
    if f.isNotFound then return {}
    else
      tell (.failed name .delete f.message)
      return { failed := 1 }

/-- Delete an object of the backend unless its host is a member. Objects of others are left alone,
whoever listed them. -/
def sweepObject (b : Backend) (members : Membership) (entry : ServiceEntry) : Steps Tally :=
  match b.hostOf? entry.name with
  | none => return {}
  | some host => if members.contains host then return {} else deleteObject entry.name

def sweepObjects (b : Backend) (members : Membership) : List ServiceEntry → Steps Tally
  | [] => return {}
  | entry :: rest => do
    let first ← sweepObject b members entry
    let others ← sweepObjects b members rest
    return first + others

/-- Delete the backend's objects whose hosts are not members. -/
def sweep (b : Backend) (members : Membership) : Steps (Except Failure Tally) := do
  match ← call (.list b.scope) with
  | .error f => fail b.scope .lookup f
  | .ok entries => return .ok (← sweepObjects b members entries)

/-- Delete the backend's objects whose hosts it does not publish now. -/
def sweepNow (b : Backend) : Steps (Except Failure Tally) := do
  let members ← call (.members b)
  sweep b members

/-! ## Whole cycles -/

/-- What a sweep adds to the tally. -/
def sweepTally : Except Failure Tally → Tally
  | .ok t => t
  | .error _ => { failed := 1 }

/-- Reconcile all hosts of a backend, then sweep. -/
def syncBackend (namespaceName : String) (b : Backend) : Steps Tally := do
  let members ← call (.members b)
  let settled ← settleHosts b namespaceName members.entries
  let swept ← sweep b members
  return settled + sweepTally swept

def syncBackends (namespaceName : String) : List Backend → Steps Tally
  | [] => return {}
  | b :: bs => do
    let first ← syncBackend namespaceName b
    let others ← syncBackends namespaceName bs
    return first + others

/-- One cycle over all backends. -/
def once (namespaceName : String) (backends : List Backend) : Steps Tally := do
  let tally ← syncBackends namespaceName backends
  tell (.cycleCompleted tally)
  return tally

end Cycle

end RegistrySync
