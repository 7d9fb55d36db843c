import SchemaNet.Network.Tensor
import SchemaNet.Planning.Problem

/-!
How the modules of a problem are connected. An action module gathers, for each slot of
its schema, the propositions that its ground actions hold there; a proposition module
pools, for each slot that its predicate fills, over the ground actions that hold its
propositions there.
-/

namespace SchemaNet

/-- For each ground action of a schema, the position of the proposition in one slot. -/
structure SlotGather where
  pred : PredId
  positions : List Nat
  deriving DecidableEq, Repr

/-- For each proposition of a predicate, the positions of the ground actions that hold it
in one slot. -/
structure SlotPool where
  schema : SchemaId
  pools : List (List Nat)
  deriving DecidableEq, Repr

structure ActionWiring where
  schema : SchemaId
  actions : List ActId
  slots : List SlotGather
  deriving DecidableEq, Repr

structure PropWiring where
  pred : PredId
  /-- The propositions, each with its goal flag. -/
  props : List (PropId × Bool)
  slots : List SlotPool
  deriving DecidableEq, Repr

/-- One entry for each schema and for each predicate of the domain, in order. -/
structure Wiring where
  actions : List ActionWiring
  props : List PropWiring
  deriving DecidableEq, Repr

namespace Wiring

def ofSchema (problem : Problem) (schema : SchemaId) : ActionWiring :=
  { schema
    actions := problem.schemaActions schema
    slots := (problem.domain.relevantPredicates schema).zipIdx.map fun (pred, slot) =>
      ⟨pred, problem.gatherIndices schema slot⟩ }

def ofPredicate (problem : Problem) (pred : PredId) : PropWiring :=
  { pred
    props := (problem.predicateProps pred).map fun id => (id, problem.isGoal id)
    slots := (problem.domain.actionSlots pred).zipIdx.map fun (slot, j) =>
      ⟨slot.schema, problem.poolIndices pred j⟩ }

def ofProblem (problem : Problem) : Wiring :=
  ⟨(List.range problem.domain.numSchemas).map (ofSchema problem),
    (List.range problem.domain.numPredicates).map (ofPredicate problem)⟩

def numInstances (wiring : Wiring) (schema : SchemaId) : Nat :=
  ((wiring.actions[schema]?).map fun entry => entry.actions.length).getD 0

/-- What a slot adds to the counts of empty pools over schemas with and without ground
actions. -/
def countPools (wiring : Wiring) (counts : Nat × Nat) (slot : SlotPool) : Nat × Nat :=
  let empty := Tensor.emptyPools slot.pools
  if wiring.numInstances slot.schema = 0 then (counts.1, counts.2 + empty)
  else (counts.1 + empty, counts.2)

/-- The empty pools of a layer over schemas with and without ground actions, counted while one
predicate after the other pools its slots. -/
def layerPools (wiring : Wiring) : Nat × Nat :=
  wiring.props.foldl (fun counts entry => entry.slots.foldl wiring.countPools counts) (0, 0)

end Wiring

end SchemaNet
