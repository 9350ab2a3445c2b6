import RegistrySync.Failure
import RegistrySync.Mesh.ServiceEntry
import RegistrySync.Text.Decimal
import RegistrySync.Text.Pieces
import RegistrySync.Text.Quoted

/-!
# The object store

Service entries by name, as a control plane holds them. Every write gives the entry a version of its
own, the number of writes so far. An update has to show the version that is stored; a failing
operation changes nothing (`create_of_find?`, `update_of_stale`). A write concerns its own name only
(`find?_put`), and so does a deletion (`find?_delete`).
-/

namespace RegistrySync

/-- The service entries by name, and how many writes there have been. -/
structure ObjectStore where
  objects : Table ServiceEntry := .empty
  writes : Nat := 0

namespace ObjectStore

/-- What this kind of control plane is called. -/
def kindName : String := "memory"

/-- Store an entry under its name with the next version. -/
def put (s : ObjectStore) (entry : ServiceEntry) : ServiceEntry × ObjectStore :=
  let writes := s.writes + 1
  let version := Text.Decimal.write writes
  let entry := { entry with metadata := { entry.metadata with resourceVersion := some version } }
  (entry, { objects := s.objects.insert entry.name entry, writes })

def find? (s : ObjectStore) (name : String) : Option ServiceEntry := s.objects.find? name

@[simp] theorem name_put (s : ObjectStore) (entry : ServiceEntry) :
    (s.put entry).1.name = entry.name := rfl

@[simp] theorem writes_put (s : ObjectStore) (entry : ServiceEntry) :
    (s.put entry).2.writes = s.writes + 1 := rfl

/-- A write concerns its own name only. -/
theorem find?_put (s : ObjectStore) (entry : ServiceEntry) (name : String) :
    (s.put entry).2.find? name =
      if name = entry.name then some (s.put entry).1 else s.find? name :=
  Table.find?_insert _ _ _ _

def get (s : ObjectStore) (name : String) : Except Failure ServiceEntry :=
  match s.find? name with
  | some entry => .ok entry
  | none => .error (.notFound name)

/-- Store an entry under a name that is free. -/
def create (s : ObjectStore) (entry : ServiceEntry) : Except Failure ServiceEntry × ObjectStore :=
  match s.find? entry.name with
  | some _ => (.error (.alreadyExists entry.name), s)
  | none =>
    let (stored, s) := s.put entry
    (.ok stored, s)

theorem create_of_find? {s : ObjectStore} {entry current : ServiceEntry}
    (h : s.find? entry.name = some current) :
    s.create entry = (.error (.alreadyExists entry.name), s) := by
  simp [create, h]

theorem create_of_free {s : ObjectStore} {entry : ServiceEntry} (h : s.find? entry.name = none) :
    s.create entry = (.ok (s.put entry).1, (s.put entry).2) := by
  simp [create, h]

/-- The update of an object showed another version than the stored one. -/
def staleFailure (name : String) (shown stored : Option String) : Failure :=
  .conflict (name ++ ": resource version " ++ Text.quotedOption shown ++ " is stale (current " ++
    Text.quotedOption stored ++ ")")

/-- Replace an entry by one that shows its version. -/
def update (s : ObjectStore) (entry : ServiceEntry) : Except Failure ServiceEntry × ObjectStore :=
  match s.find? entry.name with
  | none => (.error (.notFound entry.name), s)
  | some current =>
    let shown := entry.metadata.resourceVersion
    let stored := current.metadata.resourceVersion
    if shown = stored then
      let (stored, s) := s.put entry
      (.ok stored, s)
    else (.error (staleFailure entry.name shown stored), s)

theorem update_of_current {s : ObjectStore} {entry current : ServiceEntry}
    (h : s.find? entry.name = some current)
    (hv : entry.metadata.resourceVersion = current.metadata.resourceVersion) :
    s.update entry = (.ok (s.put entry).1, (s.put entry).2) := by
  simp [update, h, hv]

theorem update_of_stale {s : ObjectStore} {entry current : ServiceEntry}
    (h : s.find? entry.name = some current)
    (hv : entry.metadata.resourceVersion ≠ current.metadata.resourceVersion) :
    (s.update entry).2 = s := by
  simp [update, h, hv]

def delete (s : ObjectStore) (name : String) : Except Failure Unit × ObjectStore :=
  match s.find? name with
  | none => (.error (.notFound name), s)
  | some _ => (.ok (), { s with objects := s.objects.erase name })

/-- After a deletion the name is free, whether it was before or not. -/
theorem find?_delete (s : ObjectStore) (name other : String) :
    (s.delete name).2.find? other = if other = name then none else s.find? other := by
  rw [delete]
  split
  · next h =>
    split
    · next ho => rw [ho, h]
    · rfl
  · exact Table.find?_erase _ _ _

/-- All entries, by name. -/
def all (s : ObjectStore) : List ServiceEntry := s.objects.values

/-- The entries whose names begin with a scope, by name. -/
def list (s : ObjectStore) (scope : String) : List ServiceEntry :=
  s.all.filter fun e => scope.toList.isPrefixOf e.name.toList

end ObjectStore

end RegistrySync
