import SchemaNet.Files.Basic
import SchemaNet.Planning.Codec

/-!
Instances in files.
-/

namespace SchemaNet

inductive InstanceError where
  | file (path : String) (fault : FileError)
  | malformed
  deriving DecidableEq, Repr

def InstanceError.message : InstanceError → String
  | .file path fault => s!"could not read {path}: {fault.message}"
  | .malformed => "malformed instance"

def Instance.load {m : Type → Type} [Monad m] (files : FileAccess m) (path : String) :
    m (Except InstanceError Instance) := do
  match ← files.read path with
  | .ok text => return (Instance.parse text).mapError fun _ => .malformed
  | .error fault => return .error (.file path fault)

end SchemaNet
