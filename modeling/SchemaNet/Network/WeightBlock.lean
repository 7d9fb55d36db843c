import SchemaNet.Network.Tensor
import SchemaNet.Random

/-!
The affine transform of a module, and its application to every entity of a batch.
-/

namespace SchemaNet

/-- A weight for each input and output, and the biases. -/
structure WeightBlock (α : Type) where
  w : Grid α
  b : List α
  deriving DecidableEq, Repr

namespace WeightBlock

variable {α σ : Type}

def inputs (block : WeightBlock α) : Nat := block.w.height

def outputs (block : WeightBlock α) : Nat := block.w.width

def dims (block : WeightBlock α) : List Nat := [block.inputs, block.outputs, block.b.length]

def numParams (block : WeightBlock α) : Nat := block.w.flat.length + block.b.length

def equal [Scalar α] (left right : WeightBlock α) : Bool :=
  left.w.equal Scalar.eqList right.w && Scalar.eqList left.b right.b

variable [Scalar α]

open Scalar

def zeros (inputs outputs : Nat) : WeightBlock α :=
  ⟨.replicate inputs outputs zero, List.replicate outputs zero⟩

/-- Half the width of the range of initial weights. -/
def glorotLimit (inputs outputs : Nat) : α := sqrt (ofNat 6 / ofNat (inputs + outputs))

/-- Weights drawn uniformly around zero, row by row, and no biases. -/
def glorot [WordSource σ] (inputs outputs : Nat) : StateM σ (WeightBlock α) := do
  let draws ← Uniform.many (Uniform.symmetric (glorotLimit inputs outputs)) (inputs * outputs)
  return ⟨⟨inputs, outputs, draws.1, draws.2⟩, List.replicate outputs zero⟩

/-- The sum of the rows of `w`, each multiplied by one input, from zero on. -/
def weigh (w : List (List α)) (outputs : Nat) (entity : List α) : List α :=
  (entity.zip w).foldl
    (fun sum (x, weights) => List.zipWith (fun s weight => s + x * weight) sum weights)
    (List.replicate outputs zero)

omit [Scalar α] in
theorem zipWith_fold_length {β : Type} {f : α → β → α → α} {n : Nat}
    (steps : List (β × List α)) (start : List α) (startSize : start.length = n)
    (sizes : ∀ step ∈ steps, step.2.length = n) :
    (steps.foldl (fun sum (x, weights) => List.zipWith (fun s weight => f s x weight) sum weights)
      start).length = n := by
  induction steps generalizing start with
  | nil => exact startSize
  | cons step rest ih =>
    refine ih _ ?_ fun other h => sizes other (List.mem_cons_of_mem _ h)
    rw [List.length_zipWith, startSize, sizes step List.mem_cons_self, Nat.min_self]

theorem weigh_length (w : Grid α) (entity : List α) :
    (weigh w.rows w.width entity).length = w.width :=
  zipWith_fold_length (f := fun s x weight => s + x * weight) _ _ List.length_replicate
    fun _ h => w.rows_shape.each _ (List.of_mem_zip h).2

/-- One bias for each output; a single bias stands for all of them. -/
def biases (block : WeightBlock α) : List α :=
  if block.b.length = block.outputs then block.b
  else List.replicate block.outputs (block.b.headD zero)

theorem biases_length (block : WeightBlock α) : block.biases.length = block.outputs := by
  unfold biases
  split
  · assumption
  · exact List.length_replicate

/-- The outputs of one entity before the nonlinearity, for the rows of `w` and one bias for
each output. -/
def affine (w : List (List α)) (outputs : Nat) (b entity : List α) : List α :=
  List.zipWith (· + ·) (weigh w outputs entity) b

/-- The block and the nonlinearity on every entity of a row. -/
def applyRow (block : WeightBlock α) (activation : Activation) : List (List α) → List (List α) :=
  let w := block.w.rows
  let b := block.biases
  List.map fun entity => (affine w block.outputs b entity).map activation.apply

theorem applyRow_shape (block : WeightBlock α) (activation : Activation) {row : List (List α)} :
    HasShape row.length block.outputs (block.applyRow activation row) := by
  refine ⟨List.length_map _, fun entity h => ?_⟩
  obtain ⟨source, _, rfl⟩ := List.mem_map.1 h
  rw [List.length_map, affine, List.length_zipWith, biases_length]
  exact (congrArg (min · _) (weigh_length block.w source)).trans (Nat.min_self _)

def apply (block : WeightBlock α) (name : String) (activation : Activation) (input : Tensor α) :
    Except (NetworkError α) (Tensor α) := do
  if input.channels ≠ block.inputs then
    throw (.widthMismatch name block.inputs input.channels)
  if block.b.length ≠ block.outputs ∧ block.b.length ≠ 1 then
    throw .outOfRange
  return .build input.batch input.entities block.outputs
    (fun _ => input.rows.map (block.applyRow activation))
    ⟨by rw [List.length_map, input.rows_dims.count], fun row h => by
      obtain ⟨source, hsource, rfl⟩ := List.mem_map.1 h
      rw [← (input.rows_dims.each source hsource).count]
      exact block.applyRow_shape activation⟩

end WeightBlock

end SchemaNet
