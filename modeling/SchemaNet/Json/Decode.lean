import SchemaNet.Json.Basic

/-!
Reading structures out of JSON values. A structure is written as an object, its
fields in any order and among others, or as an array of its field values in their
declared order. A known field may not be repeated.
-/

namespace SchemaNet.Json

abbrev Fields := List (String × Json)

/-- The known members of an object, refusing a second one of the same name. -/
def knownMembers (names : List String) : (found : Fields) → Fields → Except Error Fields
  | found, [] => .ok found
  | found, (key, value) :: rest =>
    if key ∈ names then
      if key ∈ found.map (·.1) then
        .error (.repeatedField key)
      else
        knownMembers names (found ++ [(key, value)]) rest
    else
      knownMembers names found rest

def fields (names : List String) : Json → Except Error Fields
  | .obj members => knownMembers names [] members
  | .arr items =>
    if items.length ≤ names.length then
      .ok (names.zip items)
    else
      .error (.expected s!"at most {names.length} fields")
  | _ => .error (.expected "a structure")

namespace Fields

def required {α : Type} (fields : Fields) (name : String) (read : Json → Except Error α) :
    Except Error α :=
  match fields.lookup name with
  | some value => read value
  | none => .error (.missingField name)

def optional {α : Type} (fields : Fields) (name : String) (default : α)
    (read : Json → Except Error α) : Except Error α :=
  match fields.lookup name with
  | some value => read value
  | none => .ok default

end Fields

/-- What the fields of a structure report while they are read one after the other. Reading stops
at the first field that is repeated or that `read` refuses; what was reported before stays. -/
def fieldReports {ε : Type} (names : List String) (read : String → Json → Except Error (List ε)) :
    (found : List String) → Fields → List ε
  | _, [] => []
  | found, (name, value) :: rest =>
    if name ∈ names then
      if name ∈ found then
        []
      else
        match read name value with
        | .ok reports => reports ++ fieldReports names read (name :: found) rest
        | .error _ => []
    else
      fieldReports names read found rest

/-- What a structure reports whose fields are read as far as they go. -/
def reports {ε : Type} (names : List String) (read : String → Json → Except Error (List ε)) :
    Json → List ε
  | .obj members => fieldReports names read [] members
  | .arr items => fieldReports names read [] (names.zip items)
  | _ => []

def silent {α ε : Type} (read : Json → Except Error α) (value : Json) : Except Error (List ε) :=
  (read value).map fun _ => []

def asText : Json → Except Error String
  | .str text => .ok text
  | _ => .error (.expected "a string")

def asBool : Json → Except Error Bool
  | .bool value => .ok value
  | _ => .error (.expected "true or false")

def asList {α : Type} (read : Json → Except Error α) : Json → Except Error (List α)
  | .arr items => items.mapM read
  | _ => .error (.expected "an array")

/-- A natural number of at most `bits` bits, written without fraction and exponent. -/
def asNat (bits : Nat) : Json → Except Error Nat
  | .num number =>
    match number.toNat? with
    | some n => if n < Nat.pow 2 bits then .ok n else .error (.expected s!"an integer of {bits} bits")
    | none => .error (.expected "a natural number")
  | _ => .error (.expected "a natural number")

def texts (items : List String) : Json := .arr (items.map .str)

end SchemaNet.Json
