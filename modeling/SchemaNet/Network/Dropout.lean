import SchemaNet.Network.Tensor
import SchemaNet.Random

/-!
Dropout: in training, each value is dropped with some probability, and the values that
are kept are scaled up to make up for it.
-/

namespace SchemaNet.Tensor

variable {α σ : Type} [Scalar α] [WordSource σ]

open Scalar

/-- A value is kept when its draw is below the probability to keep one. -/
def dropValue (keep draw x : α) : α := if lt draw keep then x / keep else zero

/-- Drops values by one draw each, in row-major order. -/
def dropBy (tensor : Tensor α) (keep : α) (draws : List α)
    (count : draws.length = tensor.flat.length) : Tensor α :=
  ⟨tensor.batch, tensor.entities, tensor.channels,
    List.zipWith (dropValue keep) draws tensor.flat, by
      rw [List.length_zipWith, count, Nat.min_self, tensor.size]⟩

/-- Without a positive probability nothing is drawn. -/
def dropout (p : α) (tensor : Tensor α) : StateM σ (Tensor α) := do
  if le p zero then
    return tensor
  else
    let draws ← Uniform.many Uniform.unit tensor.flat.length
    return tensor.dropBy (one - p) draws.1 draws.2

end SchemaNet.Tensor
