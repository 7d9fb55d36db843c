import SchemaNet.Journal
import SchemaNet.Setting.EnvValue
import SchemaNet.Setting.Error

/-!
Settings that are read from the environment. A setting has a default in the form of a
text. Its value is read once, when it is first asked for, and is then kept.
-/

namespace SchemaNet

/-- How the values of a type are read and shown. -/
structure SettingType (β : Type) where
  parse? : String → Option β
  display : β → String

structure Setting (β : Type) where
  name : String
  default : String
  type : SettingType β

namespace Setting

variable {β : Type}

def readDefault (setting : Setting β) : Except SettingError β :=
  match setting.type.parse? setting.default with
  | some value => .ok value
  | none => .error (.invalidDefault setting.name setting.default)

/-- The value that the variable stands for. A variable that cannot be read is reported. -/
def readEnv? (setting : Setting β) : EnvValue → Option β × List Event
  | .unset => (none, [])
  | .text text =>
    match setting.type.parse? text with
    | some value => (some value, [])
    | none => (none, [⟨.warn, "could not parse environment variable, using default",
      [("env", setting.name), ("value", text), ("default", setting.default)]⟩])
  | .bytes bytes =>
    (none, [⟨.warn, "using default",
      [("env", setting.name),
        ("err", "environment variable was not valid unicode: " ++ EnvValue.quote bytes),
        ("default", setting.default)]⟩])

/-- The value of the variable, and otherwise the default. -/
def read (setting : Setting β) (env : EnvValue) : Logged SettingError β := do
  let (value?, events) := setting.readEnv? env
  Logged.note events
  match value? with
  | some value => return value
  | none => Logged.ofExcept setting.readDefault fun _ => []

end Setting

structure Parameter (β : Type) where
  setting : Setting β
  value : Option β

namespace Parameter

variable {β : Type}

def ofSetting (setting : Setting β) : Parameter β := ⟨setting, none⟩

def isInitialized (parameter : Parameter β) : Bool := parameter.value.isSome

/-- The value that is kept; the environment is only asked if there is none. -/
def get (parameter : Parameter β) (env : EnvValue) : Logged SettingError (β × Parameter β) := do
  match parameter.value with
  | some value => return (value, parameter)
  | none =>
    let value ← parameter.setting.read env
    return (value, { parameter with value := some value })

/-- Forces a value; only a parameter without one takes it. -/
def set (parameter : Parameter β) (value : β) : Except SettingError (Parameter β) :=
  if parameter.isInitialized then
    .error (.alreadyInitialized parameter.setting.name)
  else
    .ok { parameter with value := some value }

def display (parameter : Parameter β) : String :=
  match parameter.value with
  | some value => s!"{parameter.setting.name}={parameter.setting.type.display value}"
  | none => s!"{parameter.setting.name}=<unread, default {parameter.setting.default}>"

end Parameter

end SchemaNet
