import SchemaNet.Network.Layout
import SchemaNet.Network.Size
import SchemaNet.Network.WeightBlock

/-!
The operations on tensors under the limits of a memory. They do the same as those without
limits, except that they refuse sizes that cannot be computed or results that cannot be held.
-/

namespace SchemaNet.Memory

variable {α σ : Type}

/-! ## Sizes -/

def checkGather (batch entities channels : Nat) : Except (NetworkError α) Unit :=
  Size.require (Size.isIndexable [batch, entities, channels])

/-- The channels of several tensors together; their number must be a word before it must fit. -/
def checkConcat (batch entities : Nat) (widths : List Nat) : Except (NetworkError α) Unit := do
  if widths.isEmpty then
    Size.require (Size.isIndexable [batch, entities])
  let channels ← Size.word (Size.total widths)
  if !Size.isIndexable [batch, entities, channels] then
    throw .tooLarge

def checkPools (batch pools channels : Nat) : Except (NetworkError α) Unit :=
  Size.require (Size.isStorable [batch, pools, channels])

/-- A matrix with the outputs of so many entities. -/
def checkProduct (entities outputs : Nat) : Except (NetworkError α) Unit :=
  Size.require (Size.isStorable [entities, outputs])

/-- The shape that such a matrix gets. -/
def checkShaped (dims : List Nat) : Except (NetworkError α) Unit :=
  if Size.isIndexable dims then .ok () else .error .incompatibleShapes

def checkBlock (inputs outputs : Nat) : Except (NetworkError α) Unit :=
  Size.require (Size.isStorable [inputs, outputs] && Size.isStorable [outputs])

/-! ## Operations -/

def gather (tensor : Tensor α) (indices : List Nat) : Except (NetworkError α) (Tensor α) := do
  checkGather tensor.batch indices.length tensor.channels
  tensor.gather indices

def concat (batch entities : Nat) (parts : List (Tensor α)) : Except (NetworkError α) (Tensor α) := do
  let joined ← Tensor.concat batch entities parts
  checkConcat joined.batch joined.entities (parts.map Tensor.channels)
  return joined

section Values

variable [Scalar α]

def maxPool (tensor : Tensor α) (pools : List (List Nat)) (pad : α) :
    Except (NetworkError α) (Tensor α) := do
  checkPools tensor.batch pools.length tensor.channels
  tensor.maxPool pools pad

/-- The outputs are computed as a matrix, which must be held, and then get the shape of a
tensor. -/
def applyBlock (block : WeightBlock α) (name : String) (activation : Activation)
    (input : Tensor α) : Except (NetworkError α) (Tensor α) := do
  if input.channels = block.inputs then
    checkProduct (input.batch * input.entities) block.outputs
  let result ← block.apply name activation input
  checkShaped result.dims
  return result

def zeros (inputs outputs : Nat) : Except (NetworkError α) (WeightBlock α) := do
  checkBlock inputs outputs
  return .zeros inputs outputs

/-- A drawn block; the sum of its widths must be a word. -/
def glorot [WordSource σ] (inputs outputs : Nat) :
    ExceptT (NetworkError α) (StateM σ) (WeightBlock α) := do
  let _ ← ExceptT.mk (pure (Size.word (inputs + outputs)))
  ExceptT.mk (pure (checkBlock inputs outputs))
  ExceptT.lift (WeightBlock.glorot inputs outputs)

end Values

section Layouts

def width (layout : InputLayout) : Except (NetworkError α) Nat := Size.word layout.width

/-- The features of an action and its mask are counted together. -/
def split (layout : InputLayout) (flat : Grid α) : Except (NetworkError α) (MaskedInput α) := do
  let parts ← layout.split flat
  let _ ← Size.word (1 + layout.extraDim)
  checkShaped parts.extra.dims
  return parts

def batch (layout : InputLayout) (rows : List (List α)) : Except (NetworkError α) (Grid α) := do
  Size.require (Size.isIndexable [layout.width])
  layout.batch rows

end Layouts

/-- A sequence succeeds exactly if its first part does and what follows it does. -/
theorem bind_eq_ok {ε β γ : Type} {first : Except ε β} {next : β → Except ε γ} {result : γ} :
    first >>= next = .ok result ↔ ∃ value, first = .ok value ∧ next value = .ok result := by
  cases first <;> simp [bind, Except.bind]

end SchemaNet.Memory
