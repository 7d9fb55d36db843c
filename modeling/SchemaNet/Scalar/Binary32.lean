import SchemaNet.Decimal.Reading
import SchemaNet.Decimal.Text
import SchemaNet.Scalar.Basic

/-!
Binary floating-point numbers of 32 bits as scalars, and their texts.
-/

namespace SchemaNet.Binary32

def ofFloat (x : Float32) : Binary32 := ofBits x.toBits

def notANumber : Float32 := Float32.ofBits 0x7fc00000

def infinity (negative : Bool) : Float32 := Float32.ofBits (if negative then 0xff800000 else 0x7f800000)

/-- The lesser operand is dropped, and so is one that is no number. -/
def max (x y : Float32) : Float32 :=
  if x.isNaN then y
  else if y.isNaN then x
  else if x < y then y
  else x

/-- Near zero the first three terms of the series, computed with twice the bits. -/
def expm1 (x : Float32) : Float32 :=
  let x := x.toFloat
  (if x.abs < 1e-5 then x + x * x / 2 + x * x * x / 6 else x.exp - 1).toFloat32

/-- Near zero the first three terms of the series, computed with twice the bits. -/
def log1p (x : Float32) : Float32 :=
  let x := x.toFloat
  (if x.abs < 1e-5 then x - x * x / 2 + x * x * x / 3 else (1 + x).log).toFloat32

/-- The place of a number in the total order of all bit patterns: the sign decides
first, then the size. -/
def rank (x : Float32) : Int :=
  let bits := x.toBits.toNat
  if bits < Nat.pow 2 31 then bits else -((bits - Nat.pow 2 31 : Nat) : Int) - 1

/-- The nearest number; one of 32 bits is converted as such. -/
def ofNat (n : Nat) : Float32 := if n < Nat.pow 2 32 then n.toUInt32.toFloat32 else Float32.ofNat n

instance : Scalar Float32 where
  ofNat := ofNat
  negInf := infinity true
  max := max
  abs := Float32.abs
  sqrt := Float32.sqrt
  exp := Float32.exp
  expm1 := expm1
  log1p := log1p
  tanh := Float32.tanh
  lt x y := decide (x < y)
  le x y := decide (x ≤ y)
  eq x y := x == y
  isFinite := Float32.isFinite
  order x y := compare (rank x) (rank y)
  display x := (ofFloat x).display

def negate (negative : Bool) (x : Float32) : Float32 := if negative then -x else x

/-- No magnitude whose first digit stands at this power of ten is finite, and none
whose first digit stands at its negative differs from zero. -/
def beyond : Int := 60

/-- The nearest number; exponents far outside the range are settled first. -/
def ofMagnitude (value : Decimal) : Float32 :=
  if value.coefficient = 0 then Float32.ofNat 0
  else if beyond < value.leading then infinity false
  else if value.leading < -beyond then Float32.ofNat 0
  else Float32.ofScientific value.coefficient (value.exponent < 0) value.exponent.natAbs

def ofNumeral : Numeral → Float32
  | .nan => notANumber
  | .infinite negative => infinity negative
  | .finite negative magnitude => negate negative (ofMagnitude magnitude)

/-- The bits as eight hexadecimal digits; a zero has no sign. -/
def hexadecimal (x : Float32) : String :=
  let hex (bits : UInt32) : String :=
    let digits := Nat.toDigits 16 bits.toNat
    String.ofList (Decimal.zeros (8 - digits.length) ++ digits)
  match ofFloat x with
  | .finite _ ⟨0, _⟩ => hex 0
  | .finite _ _ => hex x.toBits
  | special => special.notated Decimal.positional

/-! ## JSON numbers -/

/-- As many digits as fit 64 bits, and the digits that are left. -/
def takeDigits (significand : Nat) : List Char → Nat × List Char
  | [] => (significand, [])
  | digit :: rest =>
    let next := significand * 10 + Json.Number.digitValue digit
    if next < Nat.pow 2 64 then takeDigits next rest else (significand, digit :: rest)

def powerOfTen (n : Nat) : Float := Float.ofScientific 1 false n

def greatestPower : Nat := 308

/-- Division by a power of ten, in steps of the greatest one. -/
def scaleDown (x : Float) (n : Nat) : Float :=
  if n ≤ greatestPower then x / powerOfTen n
  else if x == 0 then x
  else scaleDown (x / powerOfTen greatestPower) (n - greatestPower)
termination_by n
decreasing_by simp only [greatestPower] at *; omega

/-- Multiplication by a power of ten, refusing what is not finite. -/
def scaleUp (x : Float) (n : Nat) : Option Float :=
  if n ≤ greatestPower then
    let scaled := x * powerOfTen n
    if scaled.isInf then none else some scaled
  else if x == 0 then some x
  else none

/-- The greatest exponent that is told from a greater one. -/
def greatestExponent : Nat := Nat.pow 2 31 - 1

/-- The number in double precision: the digits that fit 64 bits, scaled by one power
of ten. Digits that do not fit only move the decimal point. -/
def doubleOf? (number : Json.Number) : Option Float :=
  let (significand, dropped) := takeDigits 0 number.whole
  let (significand, unread) := takeDigits significand number.fraction
  let point : Int := dropped.length - (number.fraction.length - unread.length : Nat)
  let (down, shift) := match number.exponent with
    | none => (false, 0)
    | some exponent => (exponent.negative, Json.Number.digitsValue exponent.digits)
  let x := Float.ofNat significand
  let magnitude :=
    if greatestExponent < shift then
      if significand ≠ 0 ∧ ¬ down then none else some (Float.ofNat 0)
    else
      let exponent := if down then point - shift else point + shift
      if 0 ≤ exponent then scaleUp x exponent.toNat else some (scaleDown x (-exponent).toNat)
  magnitude.map fun x => if number.negative then -x else x

/-- A whole number of at most 64 bits is rounded once, any other number goes through
double precision. -/
def ofNumber? (number : Json.Number) : Option Float32 :=
  let whole := Json.Number.digitsValue number.whole
  let isWhole := number.fraction.isEmpty && number.exponent.isNone
  if isWhole && !number.negative && whole < Nat.pow 2 64 then
    some (ofNat whole)
  else if isWhole && number.negative && whole ≤ Nat.pow 2 63 then
    some (-ofNat whole)
  else
    (doubleOf? number).map Float.toFloat32

/-- The powers of ten of the first digit that are written positionally. -/
def plainFrom : Int := -6

def plainTo : Int := 12

/-- The fewest digits that read back, with at least one digit after the point of
positional notation. -/
def toNumber (negative : Bool) (value : Decimal) : Json.Number :=
  let leading := if value.coefficient = 0 then 0 else value.leading
  if plainFrom ≤ leading ∧ leading ≤ plainTo then
    let (whole, fraction) := value.split
    ⟨negative, whole, if fraction.isEmpty then ['0'] else fraction, none⟩
  else
    ⟨negative, value.digits.take 1, value.digits.drop 1,
      some ⟨leading < 0, Nat.toDigits 10 leading.natAbs⟩⟩

def toJson (x : Float32) : Json :=
  match ofFloat x with
  | .finite negative magnitude => .num (toNumber negative (magnitude.shortest .toEven))
  | _ => .null

def ofJson : Json → Except Json.Error Float32
  | .num number =>
    match ofNumber? number with
    | some x => .ok x
    | none => .error (.expected "a number in the range of double precision")
  | _ => .error (.expected "a number")

instance : JsonScalar Float32 where
  toJson := toJson
  ofJson := ofJson

end SchemaNet.Binary32
