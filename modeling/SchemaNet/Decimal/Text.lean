import SchemaNet.Decimal.Shortest

/-!
Decimal notations: positional, with a fixed number of places, and scientific.
-/

namespace SchemaNet.Decimal

def zeros (count : Nat) : List Char := List.replicate count '0'

/-- The digits before and after the decimal point, at least one before it. -/
def split (value : Decimal) : List Char × List Char :=
  let digits := value.digits
  if 0 ≤ value.exponent then
    (if value.coefficient = 0 then ['0'] else digits ++ zeros value.exponent.toNat, [])
  else
    let places := (-value.exponent).toNat
    let padded := zeros (places + 1 - digits.length) ++ digits
    (padded.take (padded.length - places), padded.drop (padded.length - places))

/-- Positional notation, with a decimal point only if digits follow. -/
def positional (value : Decimal) : String :=
  let (whole, fraction) := value.split
  String.ofList (if fraction.isEmpty then whole else whole ++ '.' :: fraction)

def fixed (places : Nat) (value : Decimal) : String :=
  positional ⟨(value.roundTo (-places)).unitsAt (-places), -places⟩

/-- One digit, a point, `places` digits and the exponent. -/
def scientific (places : Nat) (value : Decimal) : String :=
  if value.coefficient = 0 then
    String.ofList ('0' :: '.' :: zeros places ++ ['e', '0'])
  else
    let rounded := value.roundTo (value.leading - places)
    let digits := rounded.digits ++ zeros places
    String.ofList (digits.take 1 ++ '.' :: (digits.drop 1).take places) ++ s!"e{rounded.leading}"

end SchemaNet.Decimal

namespace SchemaNet.Binary32

/-- A sign, unless every digit is a zero. -/
def signed (negative : Bool) (text : String) : String :=
  if negative && text.any (fun c => '1' ≤ c && c ≤ '9') then "-" ++ text else text

/-- The shortest positional notation; a zero keeps its sign. -/
def display : Binary32 → String
  | .nan => "NaN"
  | .infinite negative => if negative then "-inf" else "inf"
  | .finite negative magnitude =>
    (if negative then "-" else "") ++ (magnitude.shortest .up).positional

/-- The notation of a finite magnitude under its sign. -/
def notated (notate : Decimal → String) : Binary32 → String
  | .nan => "nan"
  | .infinite negative => if negative then "-inf" else "inf"
  | .finite negative magnitude => signed negative (notate magnitude.toDecimal)

end SchemaNet.Binary32
