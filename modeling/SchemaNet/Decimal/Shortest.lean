import SchemaNet.Decimal.Binary32

/-!
The shortest decimal that reads back as a given binary number, and of those the
nearest to it.
-/

namespace SchemaNet.Dyadic

/-- The neighbour of the number on the grid of multiples of `10 ^ drop` that reads
back as the number, the nearer one of two. -/
def Interval.onGrid (interval : Interval) (tie : Tie) (drop : Nat) : Option Nat :=
  let step := Nat.pow 10 drop
  let floor := interval.value / step
  match interval.contains (floor * step), interval.contains ((floor + 1) * step) with
  | true, true => some (roundDiv tie interval.value step)
  | true, false => some floor
  | false, true => some (floor + 1)
  | false, false => none

/-- The coarsest grid of at most `drop` dropped digits with such a neighbour. -/
def Interval.shortest (interval : Interval) (tie : Tie) : (drop : Nat) → Decimal
  | 0 => ⟨interval.value, interval.exponent⟩
  | drop + 1 =>
    match interval.onGrid tie (drop + 1) with
    | some units => ⟨units, interval.exponent + (drop + 1 : Nat)⟩
    | none => interval.shortest tie drop

/-- The trailing zeros of a coefficient belong to the exponent. -/
def trim (fuel : Nat) (value : Decimal) : Decimal :=
  match fuel with
  | 0 => value
  | fuel + 1 =>
    if value.coefficient % 10 = 0 ∧ value.coefficient ≠ 0 then
      trim fuel ⟨value.coefficient / 10, value.exponent + 1⟩
    else
      value

/-- The fewest digits that read back as the number; zero is written as one zero. -/
def shortest (tie : Tie) (value : Dyadic) : Decimal :=
  if value.mantissa = 0 then
    ⟨0, 0⟩
  else
    let interval := value.interval
    let places := (Nat.toDigits 10 interval.value).length
    trim places (interval.shortest tie (places - 1))

end SchemaNet.Dyadic
