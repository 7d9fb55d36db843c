/-!
Exact decimals, a natural coefficient times a power of ten, and their rounding to a
coarser grid of decimals. A signless notation; signs are written by the callers.
-/

namespace SchemaNet

/-- The value `coefficient * 10 ^ exponent`. -/
structure Decimal where
  coefficient : Nat
  exponent : Int
  deriving DecidableEq, Repr

/-- Which way an exact half goes. -/
inductive Tie where
  | toEven
  | up
  deriving DecidableEq, Repr

/-- Whether a half above `floor` is rounded up. -/
def Tie.goesUp (tie : Tie) (floor : Nat) : Bool :=
  match tie with
  | .toEven => floor % 2 == 1
  | .up => true

/-- The quotient rounded to the nearest natural number. -/
def roundDiv (tie : Tie) (n d : Nat) : Nat :=
  let floor := n / d
  let twice := 2 * (n % d)
  if twice < d then floor
  else if d < twice then floor + 1
  else if tie.goesUp floor then floor + 1
  else floor

namespace Decimal

def digits (value : Decimal) : List Char := Nat.toDigits 10 value.coefficient

/-- The power of ten of the first digit. -/
def leading (value : Decimal) : Int := value.exponent + value.digits.length - 1

/-- The nearest multiple of `10 ^ exponent`, a half to the even one; a value that has
no finer digits stays as it is. -/
def roundTo (value : Decimal) (exponent : Int) : Decimal :=
  if exponent ≤ value.exponent then
    value
  else
    ⟨roundDiv .toEven value.coefficient (Nat.pow 10 (exponent - value.exponent).toNat), exponent⟩

/-- The whole number of units of `10 ^ exponent`, for a value that has no finer digits. -/
def unitsAt (value : Decimal) (exponent : Int) : Nat :=
  value.coefficient * Nat.pow 10 (value.exponent - exponent).toNat

end Decimal

end SchemaNet
