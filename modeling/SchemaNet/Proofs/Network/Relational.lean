import SchemaNet.Network.PolicyNetwork
import SchemaNet.Proofs.Network.Tabulation
import SchemaNet.Proofs.Planning.SchemaOrder

/-!
The network of a problem as a recursion over its ground actions and propositions. An action
sees the propositions in its own slots, a proposition sees the actions that hold it; no
position of an entity is mentioned.
-/

namespace SchemaNet

variable {α : Type}

/-- One row of an input, by entity. -/
structure Reading (α : Type) where
  truth : GroundAtom → α
  features : GroundAction → List α

/-- What all entities have at one time of an evaluation. -/
structure Values (α : Type) where
  acts : GroundAction → List α
  props : GroundAtom → List α

/-- What row `b` of an input says of each entity. -/
def PolicyInput.reading [Scalar α] (input : PolicyInput α) (problem : Problem) (b : Nat) :
    Reading α :=
  { truth := fun prop =>
      (input.props.rows.getD b []).getD (problem.props.findIdx (·.ident == prop.ident)) Scalar.zero
    features := fun action =>
      (input.extra.rows.getD b []).getD (problem.actions.findIdx (·.ident == action.ident)) [] }

namespace Weights

/-- The number of outputs of a module; one without a block has none. -/
def outputsOf (weights : Weights α) (key : BlockKey) : Nat :=
  ((weights.get? key).map WeightBlock.outputs).getD 0

/-- What the module of a key makes of the channels of one entity. -/
def image [Scalar α] (weights : Weights α) (key : BlockKey) (activation : Activation)
    (entity : List α) : List α :=
  ((weights.get? key).map fun block => block.image activation entity).getD []

end Weights

/-- The slots of a schema that belong to a predicate. -/
def Schema.slotsFor (schema : Schema) (predicate : Symbol) : List Nat :=
  (schema.relevant.zipIdx.filter fun (atom, _) => atom.predicate == predicate).map fun (_, k) => k

namespace Relational

variable [Scalar α] (problem : Problem) (config : ModuleConfig α) (weights : Weights α)

def actionKey (layer : Nat) (schema : Symbol) : BlockKey :=
  .action layer (problem.domain.schemaPosition schema)

def propKey (layer : Nat) (predicate : Symbol) : BlockKey :=
  .predicate layer (problem.domain.predicatePosition predicate)

/-- The scores of the output layer have no nonlinearity. -/
def actionActivation (layer : Nat) : Activation :=
  if layer = weights.arch.final then .identity else config.activation

/-- The propositions in the slots of an action, its features at the first layer, and its own
values at a later one. -/
def actionView (reading : Reading α) (layer : Nat) (before : Values α) (action : GroundAction) :
    List α :=
  (problem.heldBy action).flatMap before.props
    ++ (if layer = 0 then reading.features action else [])
    ++ (if 0 < layer ∧ weights.arch.skip then before.acts action else [])

def actionValue (reading : Reading α) (layer : Nat) (before : Values α) (action : GroundAction) :
    List α :=
  weights.image (actionKey problem layer action.schema) (actionActivation config weights layer)
    (actionView problem weights reading layer before action)

/-- The greatest values of the actions of a schema that hold a proposition in slot `k`. -/
def pooled (layer : Nat) (acts : GroundAction → List α) (prop : GroundAtom) (schema : Schema)
    (k : Nat) : List α :=
  Tensor.poolValues (weights.outputsOf (actionKey problem layer schema.name)) config.pad
    ((problem.holders schema.name k prop).map acts)

/-- The pooled actions of each slot of each schema that belongs to the predicate, and the
proposition's own values at a later layer. -/
def propView (layer : Nat) (acts : GroundAction → List α) (before : Values α)
    (prop : GroundAtom) : List α :=
  (problem.domain.schemas.flatMap fun schema =>
      (schema.slotsFor prop.predicate).flatMap fun k =>
        pooled problem config weights layer acts prop schema k)
    ++ (if 0 < layer ∧ weights.arch.skip then before.props prop else [])

def propValue (layer : Nat) (acts : GroundAction → List α) (before : Values α)
    (prop : GroundAtom) : List α :=
  weights.image (propKey problem layer prop.predicate) config.activation
    (propView problem config weights layer acts before prop)

/-- The values before a layer. Before the first one a proposition has its truth and its goal
flag. -/
def values (reading : Reading α) : Nat → Values α
  | 0 =>
    { acts := fun _ => []
      props := fun prop => [reading.truth prop,
        Scalar.indicator (decide (prop.ident ∈ problem.goals.map GroundAtom.ident))] }
  | layer + 1 =>
    let before := values reading layer
    let acts := actionValue problem config weights reading layer before
    { acts, props := propValue problem config weights layer acts before }

/-- The single output of an action at the output layer. -/
def score (reading : Reading α) (action : GroundAction) : α :=
  (actionValue problem config weights reading weights.arch.final
    (values problem config weights reading weights.arch.final) action).headD Scalar.zero

end Relational

end SchemaNet
