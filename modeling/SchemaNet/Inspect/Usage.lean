import SchemaNet.Inspect.Options

/-!
The help of the program, in a short and in a long form, and what a fault of the arguments
is answered with. A text stands on one line, however long it is.
-/

namespace SchemaNet.Inspect

namespace Usage

def indent (count : Nat) : String := String.ofList (List.replicate count ' ')

def lines (text : List String) : String := String.join (text.map (· ++ "\n"))

def purpose : String :=
  "Builds the action schema network of a grounded instance and evaluates its policy on the "
    ++ "initial state"

def remark : String :=
  "Module parameters (activation, pooling pad, dropout) are read from the `ASNETS_*` "
    ++ "environment variables."

def call : String := s!"Usage: asnet-inspect [OPTIONS] {instanceLabel}"

def instanceHelp : String := "JSON description of the grounded domain and problem"

/-- An entry of the list of options: how it is called, what it does, and its default. -/
structure Entry where
  label : String
  help : String
  default : Option String

def switchHelp : Switch → String
  | .skip => "Give each module the output of the same entity at the previous layer"
  | .countFeature => "Also give each action the number of times it was already taken"

def fieldHelp : Field → String
  | .hidden =>
    "Output widths of each hidden layer, as `ACT:PROP` (e.g. `--hidden 16:16 --hidden 16:16`)"
  | .seed => "Seed for weight initialization. Defaults to `ASNETS_INIT_SEED`"
  | .weights => "Restore weights from this snapshot instead of initializing them"
  | .save => "Write the weights to this file"
  | .enable =>
    "Actions enabled in the initial state, by identifier (e.g. `--enable \"move a b\"`). "
      ++ "If absent, all actions are considered enabled"
  | .logLevel =>
    "Logging level to use: one of \"error\", \"warn\", \"info\", \"debug\", \"trace\""

def ofSwitch (switch : Switch) : Entry := ⟨"    " ++ switch.label, switchHelp switch, none⟩

def ofField (field : Field) : Entry :=
  match field with
  | .logLevel => ⟨"-l, " ++ field.label, fieldHelp field, some "info"⟩
  | _ => ⟨"    " ++ field.label, fieldHelp field, none⟩

def entries (long : Bool) : List Entry :=
  [ofField .hidden, ofSwitch .skip, ofSwitch .countFeature, ofField .seed, ofField .weights,
    ofField .save, ofField .enable, ofField .logLevel,
    ⟨"-h, --help",
      if long then "Print help (see a summary with '-h')" else "Print help (see more with '--help')",
      none⟩]

/-- The help stands beside the label, in a column of its own. -/
def Entry.short (column : Nat) (entry : Entry) : String :=
  let default := match entry.default with
    | some value => s!" [default: {value}]"
    | none => ""
  "  " ++ entry.label ++ indent (column - 2 - entry.label.length) ++ entry.help ++ default

/-- The help and the default stand below the label. -/
def Entry.long (entry : Entry) : List String :=
  let default := match entry.default with
    | some value => ["", s!"[default: {value}]"]
    | none => []
  ("  " ++ entry.label) :: (entry.help :: default).map (indent 10 ++ ·)

def column (entries : List Entry) : Nat :=
  (entries.map fun entry => entry.label.length).foldl max 0 + 4

def instanceEntry : Entry := ⟨instanceLabel, instanceHelp, none⟩

def shortHelp : String :=
  lines ([purpose, "", call, "", "Arguments:", instanceEntry.short (column [instanceEntry]), "",
    "Options:"] ++ (entries false).map (Entry.short (column (entries false))))

def longHelp : String :=
  lines ([purpose ++ ".", "", remark, "", call, "", "Arguments:"] ++ instanceEntry.long
    ++ ["", "Options:"] ++ List.intercalate [""] ((entries true).map Entry.long))

def help (long : Bool) : String := if long then longHelp else shortHelp

end Usage

def UsageError.text (fault : UsageError) : String :=
  Usage.lines [s!"error: {fault.message}", "", Usage.call, "", "For more information, try '--help'."]

end SchemaNet.Inspect
