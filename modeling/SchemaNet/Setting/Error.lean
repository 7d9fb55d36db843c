/-!
Faults of a setting that is read from the environment.
-/

namespace SchemaNet

inductive SettingError where
  | invalidDefault (name default : String)
  | alreadyInitialized (name : String)
  deriving DecidableEq, Repr

def SettingError.kind : SettingError → String
  | .invalidDefault .. => "InvalidDefault"
  | .alreadyInitialized .. => "AlreadyInitialized"

def SettingError.message : SettingError → String
  | .invalidDefault name default => s!"[env_param] {name}: invalid default value \"{default}\""
  | .alreadyInitialized name => s!"[env_param] {name}: parameter is already initialized"

end SchemaNet
