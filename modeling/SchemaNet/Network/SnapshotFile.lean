import SchemaNet.Network.Codec

/-!
Snapshots in files.
-/

namespace SchemaNet.Snapshot

variable {α : Type} [JsonScalar α] {m : Type → Type} [Monad m]

def save (snapshot : Snapshot α) (files : FileAccess m) (path : String) :
    m (Except (NetworkError α) Unit) := do
  return (← files.write path snapshot.text).mapError (.file path)

/-- The snapshot in a file, with what is reported while it is read. -/
def load (files : FileAccess m) (path : String) : m (Logged (NetworkError α) (Snapshot α)) := do
  match ← files.read path with
  | .ok text => return Logged.mapError (fun _ => .malformed) (parse text)
  | .error fault => return throw (.file path fault)

end SchemaNet.Snapshot
