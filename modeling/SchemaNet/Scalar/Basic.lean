import SchemaNet.Json.Basic

/-!
The number type of a network. Tensors, modules and policies are written over these
operations and assume no law of them, so they mean the same for binary
floating-point numbers and for any exact model of them.
-/

namespace SchemaNet

/-- Floating-point arithmetic. Comparisons with a value that is no number are false;
`max` ignores such an operand; `order` is a total order that refines `lt`. -/
class Scalar (α : Type) extends Add α, Sub α, Mul α, Div α, Neg α where
  ofNat : Nat → α
  negInf : α
  max : α → α → α
  abs : α → α
  sqrt : α → α
  exp : α → α
  /-- `exp x - 1`, accurate near zero. -/
  expm1 : α → α
  /-- The logarithm of `1 + x`, accurate near zero. -/
  log1p : α → α
  tanh : α → α
  lt : α → α → Bool
  le : α → α → Bool
  eq : α → α → Bool
  isFinite : α → Bool
  order : α → α → Ordering
  display : α → String

namespace Scalar

variable {α : Type} [Scalar α]

def zero : α := ofNat 0

def one : α := ofNat 1

def indicator (flag : Bool) : α := if flag then one else zero

/-- Equality of lists, entry by entry; a value that is no number equals nothing. -/
def eqList : List α → List α → Bool
  | [], [] => true
  | x :: xs, y :: ys => eq x y && eqList xs ys
  | _, _ => false

end Scalar

class JsonScalar (α : Type) where
  toJson : α → Json
  ofJson : Json → Except Json.Error α

end SchemaNet
