import SchemaNet.Network.Snapshot

/-!
The weights that all networks of a domain share, with the number of changes that were
made to them. A change is made to all blocks or to none.
-/

namespace SchemaNet

structure WeightStore (α : Type) where
  weights : Weights α
  /-- The number of changes, which starts again at zero after the last 64-bit number. -/
  version : UInt64

namespace WeightStore

variable {α σ : Type}

def ofWeights (weights : Weights α) : WeightStore α := ⟨weights, 0⟩

def allocate [Scalar α] (domain : Domain) (arch : Architecture) (seed : UInt64) :
    Except (NetworkError α) (WeightStore α) := do
  return ofWeights (← Weights.allocate domain arch seed)

/-- Changes one block, which must keep its shape. -/
def updateBlock (weights : Weights α) (change : BlockKey → WeightBlock α → StateM σ (WeightBlock α))
    (key : BlockKey) : Stateful α σ (WeightBlock α) := do
  let block ← Stateful.ofExcept (weights.block key)
  let changed ← ExceptT.lift (change key block)
  if changed.dims ≠ block.dims then
    let name ← Stateful.ofExcept (weights.nameOf key)
    throw (.shapeMismatch name block.dims changed.dims)
  return changed

/-- Changes every block in the order of the keys. The first block that loses its shape
ends the update, and nothing is changed. -/
def update (store : WeightStore α)
    (change : BlockKey → WeightBlock α → StateM σ (WeightBlock α)) :
    Stateful α σ (WeightStore α) := do
  let blocks ← Weights.collect (updateBlock store.weights change) store.weights.keys
  return ⟨{ store.weights with blocks := blocks.1, aligned := blocks.2 }, store.version + 1⟩

def snapshot (store : WeightStore α) : Snapshot α := .ofWeights store.weights

/-- Replaces all weights by those of a snapshot of the same domain and architecture. -/
def restore (store : WeightStore α) (snapshot : Snapshot α) :
    Except (NetworkError α) (WeightStore α) := do
  return ⟨← snapshot.restore store.weights.domain store.weights.arch, store.version + 1⟩

end WeightStore

end SchemaNet
