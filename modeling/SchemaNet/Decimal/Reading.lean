import SchemaNet.Decimal.Basic

/-!
Reading decimal notation: an optional sign, then digits with an optional point among
them and an optional power of ten, or one of the names of the values that are not
finite, in any case.
-/

namespace SchemaNet

inductive Numeral where
  | nan
  | infinite (negative : Bool)
  | finite (negative : Bool) (magnitude : Decimal)
  deriving DecidableEq, Repr

namespace Numeral

def isDigit (c : Char) : Bool := '0' ≤ c && c ≤ '9'

def digitsValue (digits : List Char) : Nat :=
  digits.foldl (fun value digit => value * 10 + (digit.toNat - '0'.toNat)) 0

/-- A sign and what follows it. -/
def splitSign : List Char → Bool × List Char
  | '-' :: rest => (true, rest)
  | '+' :: rest => (false, rest)
  | text => (false, text)

/-- At least one digit and nothing else. -/
def digits? (text : List Char) : Option Nat :=
  if !text.isEmpty && text.all isDigit then some (digitsValue text) else none

/-- Nothing, or a mark and a signed power of ten. -/
def exponent? : List Char → Option Int
  | [] => some 0
  | mark :: text =>
    if mark == 'e' || mark == 'E' then
      let (negative, digits) := splitSign text
      (digits? digits).map fun value => if negative then -(value : Int) else value
    else
      none

/-- Digits with a point before, among or after them, then the exponent. -/
def magnitude? (text : List Char) : Option Decimal :=
  let whole := text.takeWhile isDigit
  let rest := text.dropWhile isDigit
  let (fraction, tail) := match rest with
    | '.' :: more => (more.takeWhile isDigit, more.dropWhile isDigit)
    | _ => ([], rest)
  if whole.isEmpty && fraction.isEmpty then
    none
  else
    (exponent? tail).map fun exponent =>
      ⟨digitsValue (whole ++ fraction), exponent - fraction.length⟩

def ofChars? (text : List Char) : Option Numeral :=
  let (negative, rest) := splitSign text
  match String.ofList (rest.map Char.toLower) with
  | "nan" => some .nan
  | "inf" => some (.infinite negative)
  | "infinity" => some (.infinite negative)
  | _ => (magnitude? rest).map (.finite negative)

def parse? (text : String) : Option Numeral := ofChars? text.toList

end Numeral

end SchemaNet
