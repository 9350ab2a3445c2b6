/-!
# Tallies and events

What a cycle did: a `Tally` counts it and `Event`s tell it one by one.
-/

namespace RegistrySync

/-- What was being done when something failed. -/
inductive Operation where
  /-- Reading the cache. -/
  | lookup
  | create
  /-- Reading the object anew before an update. -/
  | get
  | update
  | delete
deriving DecidableEq

def Operation.name : Operation → String
  | .lookup => "lookup"
  | .create => "create"
  | .get => "get"
  | .update => "update"
  | .delete => "delete"

/-- What became of the object of a host. -/
inductive Change where
  | created
  | updated
  | unchanged
deriving DecidableEq

/-- How often a cycle did what. -/
structure Tally where
  created : Nat := 0
  updated : Nat := 0
  unchanged : Nat := 0
  deleted : Nat := 0
  failed : Nat := 0
deriving DecidableEq

namespace Tally

instance : Add Tally where
  add a b := {
    created := a.created + b.created
    updated := a.updated + b.updated
    unchanged := a.unchanged + b.unchanged
    deleted := a.deleted + b.deleted
    failed := a.failed + b.failed }

/-- The tally of one change. -/
def ofChange : Change → Tally
  | .created => { created := 1 }
  | .updated => { updated := 1 }
  | .unchanged => { unchanged := 1 }

/-- The control plane was changed. -/
def hasChanges (t : Tally) : Bool := 0 < t.created + t.updated + t.deleted

end Tally

/-- What the reconciler tells its listener. -/
inductive Event where
  | started (backends : Nat)
  | created (name : String)
  | updated (name : String)
  | unchanged (name : String)
  | deleted (name : String)
  /-- A call about the named object failed; for a listing the name is the scope listed. -/
  | failed (name : String) (operation : Operation) (message : String)
  | cycleCompleted (tally : Tally)
  | stopped (reason : String)
deriving DecidableEq

end RegistrySync
