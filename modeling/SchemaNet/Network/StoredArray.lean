import SchemaNet.Json.Decode
import SchemaNet.Network.Size
import SchemaNet.Scalar.Basic

/-!
The JSON form of an array of numbers: a version, which is one, the dimensions and the
row-major entries. Other members are refused, and of a repeated one the last counts.
-/

namespace SchemaNet

open Json (Error)

/-- An array of any rank as it is stored. -/
structure StoredArray (α : Type) where
  dims : List Nat
  data : List α
  deriving DecidableEq, Repr

namespace StoredArray

variable {α : Type}

/-- The members that were read so far. -/
structure Parts (α : Type) where
  versioned : Bool
  dims : Option (List Nat)
  data : Option (List α)

def Parts.none : Parts α := ⟨false, .none, .none⟩

/-- The dimensions give the number of entries, whose positions can be numbered. -/
def ofParts (parts : Parts α) : Except Error (StoredArray α) :=
  match parts with
  | ⟨true, some dims, some data⟩ =>
    if !Size.isIndexable dims then .error (.expected "smaller dimensions")
    else if data.length ≠ Size.product dims then .error (.expected "one entry for each position")
    else .ok ⟨dims, data⟩
  | _ => .error (.expected "a version, dimensions and data")

def version : Nat := 1

def toJson [JsonScalar α] (array : StoredArray α) : Json :=
  .obj [("v", .nat version), ("dim", .arr (array.dims.map .nat)),
    ("data", .arr (array.data.map JsonScalar.toJson))]

variable [JsonScalar α]

def addPart (rank : Nat) (parts : Parts α) (name : String) (value : Json) :
    Except Error (Parts α) := do
  match name with
  | "v" =>
    if (← Json.asNat 8 value) = version then return { parts with versioned := true }
    throw (.expected "version 1")
  | "dim" =>
    let dims ← Json.asList (Json.asNat 64) value
    if dims.length = rank then return { parts with dims := some dims }
    throw (.expected s!"{rank} dimensions")
  | "data" => return { parts with data := some (← Json.asList JsonScalar.ofJson value) }
  | name => throw (.unknownField name)

/-- Reads an array of that rank, written as an object or as its three members in order. -/
def ofJson (rank : Nat) (value : Json) : Except Error (StoredArray α) := do
  let members ← match value with
    | .obj members => .ok members
    | .arr items =>
      if items.length = 3 then .ok (["v", "dim", "data"].zip items)
      else .error (.expected "three members")
    | _ => .error (.expected "an array of numbers")
  ofParts (← members.foldlM (fun parts (name, value) => addPart rank parts name value) .none)

end StoredArray

end SchemaNet
