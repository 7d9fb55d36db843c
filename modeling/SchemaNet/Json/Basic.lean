/-!
JSON values. A number keeps the digits it is written with, so that each reader
can decide what they denote. A string or an object key with an unpaired surrogate
is correct JSON but is no text; a value with one is `illFormed`.
-/

namespace SchemaNet

structure Json.Exponent where
  negative : Bool
  digits : List Char
  deriving DecidableEq, Repr

/-- A number as written: its fraction is empty when there is no decimal point. -/
structure Json.Number where
  negative : Bool
  whole : List Char
  fraction : List Char
  exponent : Option Json.Exponent
  deriving DecidableEq, Repr

inductive Json where
  | null
  | bool (value : Bool)
  | num (value : Json.Number)
  | str (value : String)
  | arr (items : List Json)
  | obj (members : List (String × Json))
  | illFormed
  deriving Repr

/-- Why a text or a value is not what a reader expects. -/
inductive Json.Error where
  | malformed
  | expected (what : String)
  | missingField (name : String)
  | repeatedField (name : String)
  | unknownField (name : String)
  | rejected (reason : String)
  deriving DecidableEq, Repr

def Json.Error.message : Json.Error → String
  | .malformed => "the text is not a JSON value"
  | .expected what => s!"expected {what}"
  | .missingField name => s!"missing field {name}"
  | .repeatedField name => s!"repeated field {name}"
  | .unknownField name => s!"unknown field {name}"
  | .rejected reason => reason

namespace Json.Number

def digitValue (digit : Char) : Nat := digit.toNat - '0'.toNat

def digitsValue (digits : List Char) : Nat :=
  digits.foldl (fun value digit => value * 10 + digitValue digit) 0

def ofNat (n : Nat) : Number := ⟨false, Nat.toDigits 10 n, [], none⟩

/-- The natural number that is written without sign, fraction and exponent. -/
def toNat? (number : Number) : Option Nat :=
  match number with
  | ⟨false, whole, [], none⟩ => some (digitsValue whole)
  | _ => none

end Json.Number

def Json.nat (n : Nat) : Json := .num (.ofNat n)

end SchemaNet
