import SchemaNet.Inspect.Session

/-!
The program itself: files, the environment and the two output streams.
-/

namespace SchemaNet.Inspect

def faultOf : IO.Error → FileError
  | .noFileOrDirectory .. => .notFound
  | .inappropriateType _ _ details =>
    if details = "not a directory" then .notDirectory else .isDirectory
  | .invalidArgument _ _ details =>
    if details = "name too long" then .nameTooLong else .nulCharacter
  | .resourceExhausted .. => .noSpace
  | .permissionDenied .. => .other "Permission denied (os error 13)"
  | .userError _ => .notText
  | fault => .other (toString fault)

def diskFiles : FileAccess IO where
  read path := do
    try return .ok (← IO.FS.readFile path) catch fault => return .error (faultOf fault)
  write path text := do
    try
      IO.FS.writeFile path text
      return .ok ()
    catch fault => return .error (faultOf fault)

def settingNames : List String :=
  [Setting.activation.name, Setting.poolPad.name, Setting.dropout.name, Setting.initSeed.name]

def readEnv : IO (String → EnvValue) := do
  let values ← settingNames.mapM fun name => do
    return (name, ← IO.getEnv name)
  return fun name =>
    match values.lookup name with
    | some (some value) => .text value
    | _ => .unset

end SchemaNet.Inspect

def main (arguments : List String) : IO UInt32 := do
  let outcome ← SchemaNet.Inspect.run SchemaNet.Inspect.diskFiles (← SchemaNet.Inspect.readEnv)
    arguments
  (← IO.getStdout).putStr outcome.text
  (← IO.getStderr).putStr outcome.complaint
  return outcome.exitCode.toUInt32
