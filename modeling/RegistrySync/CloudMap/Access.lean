import RegistrySync.Failure
import RegistrySync.Text.Quoted

/-!
# Access to Cloud Map

Which region a directory is asked in, and with which key pair. A configured region counts when it is
not empty; otherwise the environment decides. A key pair is used only when both halves are set and
not empty. Its printed form never shows the secret.
-/

namespace RegistrySync.CloudMap

/-- A configured key pair. -/
structure KeyPair where
  accessKeyId : String
  secretAccessKey : String
deriving DecidableEq

namespace KeyPair

def ofSettings? : Option String → Option String → Option KeyPair
  | some id, some secret => if id ≠ "" ∧ secret ≠ "" then some ⟨id, secret⟩ else none
  | _, _ => none

/-- The pair as it may be shown to people. -/
def shown (k : KeyPair) : String :=
  "StaticCredentials \x7b access_key_id: " ++ Text.quoted k.accessKeyId ++
    ", secret_access_key: " ++ Text.quoted "<redacted>" ++ " \x7d"

end KeyPair

/-- The configured region unless it is empty, or else the one of the environment. -/
def region (configured environment : Option String) : Except Failure String :=
  match configured.filter (· ≠ "") with
  | some r => .ok r
  | none =>
    match environment with
    | some r => .ok r
    | none => .error (.configuration "AWS region must be specified")

end RegistrySync.CloudMap
