import SchemaNet.Decimal.Basic

/-!
What the 32 bits of a binary floating-point number stand for, exactly: a sign and a
dyadic magnitude, which is also a decimal, together with the decimals that read back
as the same number.
-/

namespace SchemaNet

/-- The value `mantissa * 2 ^ exponent` of a number with a 24-bit mantissa. -/
structure Dyadic where
  mantissa : Nat
  exponent : Int
  deriving DecidableEq, Repr

inductive Binary32 where
  | nan
  | infinite (negative : Bool)
  | finite (negative : Bool) (magnitude : Dyadic)
  deriving DecidableEq, Repr

def Dyadic.least : Int := -149

/-- The mantissa of a power of two that is not subnormal. -/
def Dyadic.hidden : Nat := Nat.pow 2 23

def Binary32.ofBits (bits : UInt32) : Binary32 :=
  let negative := bits.toNat / Nat.pow 2 31 == 1
  let field : Nat := bits.toNat / Nat.pow 2 23 % Nat.pow 2 8
  let fraction : Nat := bits.toNat % Nat.pow 2 23
  if field = 255 then
    if fraction = 0 then .infinite negative else .nan
  else if field = 0 then
    .finite negative ⟨fraction, Dyadic.least⟩
  else
    .finite negative ⟨Dyadic.hidden + fraction, Dyadic.least + (field - 1 : Nat)⟩

namespace Dyadic

/-- A multiple of `2 ^ exponent` as a decimal: a half has the digits of five tenths. -/
def scaled (units : Nat) (exponent : Int) : Decimal :=
  if 0 ≤ exponent then
    ⟨units * Nat.pow 2 exponent.toNat, 0⟩
  else
    ⟨units * Nat.pow 5 (-exponent).toNat, exponent⟩

def toDecimal (value : Dyadic) : Decimal := scaled value.mantissa value.exponent

/-- The reals that round to a number, on one decimal grid: the number itself and the
two ends, which belong to them when the mantissa is even. -/
structure Interval where
  low : Nat
  value : Nat
  high : Nat
  closed : Bool
  exponent : Int

/-- The ends lie half-way to the neighbours; below a power of two the neighbour is
only half as far. Counted in quarters of the last place. -/
def interval (value : Dyadic) : Interval :=
  let below := if value.mantissa = hidden ∧ least < value.exponent then 1 else 2
  let quarters (units : Nat) := scaled units (value.exponent - 2)
  { low := (quarters (4 * value.mantissa - below)).coefficient
    value := (quarters (4 * value.mantissa)).coefficient
    high := (quarters (4 * value.mantissa + 2)).coefficient
    closed := value.mantissa % 2 == 0
    exponent := (quarters 0).exponent }

def Interval.contains (interval : Interval) (units : Nat) : Bool :=
  if interval.closed then
    interval.low ≤ units && units ≤ interval.high
  else
    interval.low < units && units < interval.high

end Dyadic

end SchemaNet
