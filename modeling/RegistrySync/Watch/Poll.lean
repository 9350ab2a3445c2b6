import RegistrySync.Watch.Roster

/-!
# Polls

A poll asks a registry once for its membership. Only a poll with news changes what is published: a
registry that has not moved and a registry that cannot be read leave the roster as it is.
-/

namespace RegistrySync

/-- What asking a registry came to. -/
inductive Poll where
  /-- The membership as it is now. -/
  | news (members : Membership)
  /-- Nothing has happened since the last poll. -/
  | same
  | failed (reason : String)

/-- Publish the news of a poll, if it has any; true when the roster was replaced. -/
def Roster.absorb (r : Roster) : Poll → Bool × Roster
  | .news m => (true, r.publish m)
  | .same => (false, r)
  | .failed _ => (false, r)

end RegistrySync
