import SchemaNet.Journal
import SchemaNet.Network.Architecture
import SchemaNet.Setting.Values
import SchemaNet.Text.Blank

/-!
The command line: its options and how their values are read. Arguments are read from the
left to the right; the first fault or request for help decides what happens.
-/

namespace SchemaNet.Inspect

/-- What is inspected, and how. -/
structure Options where
  instancePath : String
  /-- The widths of the hidden layers of new weights. -/
  hidden : List LayerSizes
  skip : Bool
  countFeature : Bool
  seed : Option Nat
  weights : Option String
  save : Option String
  /-- The enabled actions; all actions if none is named. -/
  enable : List String
  level : Level
  deriving DecidableEq, Repr

/-- Options that stand alone. -/
inductive Switch where
  | skip
  | countFeature
  deriving DecidableEq, Repr

/-- Options with a value. -/
inductive Field where
  | hidden
  | seed
  | weights
  | save
  | enable
  | logLevel
  deriving DecidableEq, Repr

def Switch.name : Switch → String
  | .skip => "skip"
  | .countFeature => "count-feature"

def Switch.all : List Switch := [.skip, .countFeature]

def Field.name : Field → String
  | .hidden => "hidden"
  | .seed => "seed"
  | .weights => "weights"
  | .save => "save"
  | .enable => "enable"
  | .logLevel => "log-level"

def Field.all : List Field := [.hidden, .seed, .weights, .save, .enable, .logLevel]

/-- An option as the usage shows it. -/
def Field.label (field : Field) : String :=
  let value := String.map (fun c => if c = '-' then '_' else c.toUpper) field.name
  s!"--{field.name} <{value}>"

def Switch.label (switch : Switch) : String := s!"--{switch.name}"

def instanceLabel : String := "<INSTANCE>"

inductive UsageError where
  | unexpectedArgument (argument : String)
  | unexpectedValue (label value : String)
  | missingValue (label : String)
  | invalidValue (label value : String)
  | repeated (label : String)
  | missingInstance
  deriving DecidableEq, Repr

def UsageError.message : UsageError → String
  | .unexpectedArgument argument => s!"unexpected argument '{argument}' found"
  | .unexpectedValue label value =>
    s!"unexpected value '{value}' for '{label}' found; no more were expected"
  | .missingValue label => s!"a value is required for '{label}' but none was supplied"
  | .invalidValue label value => s!"invalid value '{value}' for '{label}'"
  | .repeated label => s!"the argument '{label}' cannot be used multiple times"
  | .missingInstance =>
    s!"the following required arguments were not provided:\n  {instanceLabel}"

/-- The texts before and after the first mark, if there is one. -/
def splitOnce (mark : Char) : List Char → List Char × Option (List Char)
  | [] => ([], none)
  | c :: rest =>
    if c = mark then ([], some rest)
    else
      let (first, second) := splitOnce mark rest
      (c :: first, second)

/-- What one argument is, by its form alone. -/
inductive Token where
  /-- Everything after it is a plain argument. -/
  | escape
  | plain (text : String)
  | help (long : Bool)
  | switch (switch : Switch)
  | field (field : Field) (value : Option String)
  | fault (fault : UsageError)
  deriving DecidableEq, Repr

namespace Token

def ofLong (argument name : String) (value : Option String) : Token :=
  match Field.all.find? fun option => option.name = name with
  | some option => .field option value
  | none =>
    let found := (Switch.all.find? fun option => option.name = name).map fun option =>
      (option.label, Token.switch option)
    match found <|> (if name = "help" then some ("--help", .help true) else none), value with
    | some (_, token), none => token
    | some (label, _), some value => .fault (.unexpectedValue label value)
    | none, _ => .fault (.unexpectedArgument argument)

/-- A value that follows its letter directly, or after an equals sign. -/
def attached? : List Char → Option String
  | [] => none
  | '=' :: value => some (String.ofList value)
  | value => some (String.ofList value)

def ofShort (letter : Char) (rest : List Char) : Token :=
  if letter = 'h' then .help false
  else if letter = 'l' then .field .logLevel (attached? rest)
  else .fault (.unexpectedArgument (String.ofList ['-', letter]))

/-- A hyphen alone is plain. -/
def ofArgument (argument : String) : Token :=
  match argument.toList with
  | ['-', '-'] => .escape
  | '-' :: '-' :: rest =>
    let (name, value) := splitOnce '=' rest
    ofLong argument (String.ofList name) (value.map String.ofList)
  | '-' :: letter :: rest => ofShort letter rest
  | _ => .plain argument

end Token

def natural? (text : List Char) : Option Nat :=
  (SettingType.natural 64).parse? (String.ofList (Text.trim text))

/-- Two widths around a colon, with blanks around each. -/
def layer? (text : String) : Option LayerSizes :=
  match splitOnce ':' text.toList with
  | (act, some prop) => do return ⟨← natural? act, ← natural? prop⟩
  | (_, none) => none

/-- A level by its name in any case, or by its number: one is the gravest. -/
def level? (text : String) : Option Level :=
  match (SettingType.natural 64).parse? text with
  | some n => if n = 0 then none else [Level.error, .warn, .info, .debug, .trace][n - 1]?
  | none => [Level.error, .warn, .info, .debug, .trace].find? fun level =>
      level.label = text.toUpper

def path? (text : String) : Option String := if text.isEmpty then none else some text

/-- What the arguments on the left have set. -/
structure Draft where
  instancePath : Option String
  hidden : List LayerSizes
  skip : Bool
  countFeature : Bool
  seed : Option Nat
  weights : Option String
  save : Option String
  enable : List String
  level : Option Level
  deriving DecidableEq, Repr

namespace Draft

def empty : Draft := ⟨none, [], false, false, none, none, none, [], none⟩

/-- Sets what may be set once. -/
def once {β : Type} (label : String) (old : Option β) (value : β) :
    Except UsageError (Option β) :=
  if old.isSome then .error (.repeated label) else .ok (some value)

def readValue {β : Type} (field : Field) (parse? : String → Option β) (value : String) :
    Except UsageError β :=
  match parse? value with
  | some result => .ok result
  | none => .error (.invalidValue field.label value)

def give (draft : Draft) (field : Field) (value : String) : Except UsageError Draft := do
  match field with
  | .hidden =>
    return { draft with hidden := draft.hidden ++ [← readValue field layer? value] }
  | .seed =>
    let seed ← readValue field (SettingType.natural 64).parse? value
    return { draft with seed := ← once field.label draft.seed seed }
  | .weights =>
    return { draft with weights := ← once field.label draft.weights (← readValue field path? value) }
  | .save =>
    return { draft with save := ← once field.label draft.save (← readValue field path? value) }
  | .enable => return { draft with enable := draft.enable ++ [value] }
  | .logLevel =>
    return { draft with level := ← once field.label draft.level (← readValue field level? value) }

def turnOn (draft : Draft) : Switch → Except UsageError Draft
  | .skip =>
    if draft.skip then .error (.repeated Switch.skip.label) else .ok { draft with skip := true }
  | .countFeature =>
    if draft.countFeature then .error (.repeated Switch.countFeature.label)
    else .ok { draft with countFeature := true }

/-- The first plain argument names the instance, and there is no second one. -/
def setInstance (draft : Draft) (text : String) : Except UsageError Draft :=
  if draft.instancePath.isSome then .error (.unexpectedArgument text)
  else if text.isEmpty then .error (.missingValue instanceLabel)
  else .ok { draft with instancePath := some text }

def finish (draft : Draft) : Except UsageError Options :=
  match draft.instancePath with
  | some path => .ok ⟨path, draft.hidden, draft.skip, draft.countFeature, draft.seed,
      draft.weights, draft.save, draft.enable, draft.level.getD .info⟩
  | none => .error .missingInstance

end Draft

inductive Request where
  | help (long : Bool)
  | inspect (options : Options)
  deriving DecidableEq, Repr

namespace Request

/-- Goes on after the draft has taken in more arguments. An option without a value of its
own takes the next argument, which must be plain. -/
def read : Draft → List String → Except UsageError Request
  | draft, [] => draft.finish.map .inspect
  | draft, argument :: rest =>
    match Token.ofArgument argument with
    | .escape => do return .inspect (← (← rest.foldlM Draft.setInstance draft).finish)
    | .plain text => do read (← draft.setInstance text) rest
    | .help long => .ok (.help long)
    | .switch switch => do read (← draft.turnOn switch) rest
    | .field field (some value) => do read (← draft.give field value) rest
    | .field field none =>
      match rest with
      | [] => .error (.missingValue field.label)
      | next :: others =>
        match Token.ofArgument next with
        | .plain value => do read (← draft.give field value) others
        | _ => .error (.missingValue field.label)
    | .fault fault => .error fault

def ofArguments (arguments : List String) : Except UsageError Request := read .empty arguments

end Request

end SchemaNet.Inspect
