import SchemaNet.Network.Dropout
import SchemaNet.Network.Layout
import SchemaNet.Network.Softmax
import SchemaNet.Network.Weights
import SchemaNet.Network.Wiring

/-!
The policy network of one problem. It holds no weights: they are given to each
evaluation, so that the networks of many problems can share them. An evaluation keeps
the output of every module.
-/

namespace SchemaNet

structure PolicyNetwork (α : Type) where
  problem : Problem
  arch : Architecture
  config : ModuleConfig α
  wiring : Wiring
  /-- The place of each action among the final outputs, listed schema by schema. -/
  merge : List Nat
  wiring_eq : wiring = Wiring.ofProblem problem
  merge_eq : problem.mergeIndices = .ok merge

/-- What one module computed. -/
structure ModuleOutput (α : Type) where
  key : BlockKey
  name : String
  inputWidth : Nat
  output : Tensor α

/-- The outputs of all modules in the order of evaluation, and the scores of the actions. -/
structure Evaluation (α : Type) where
  modules : List (ModuleOutput α)
  /-- For each hidden layer the empty pools over schemas with and without ground actions. -/
  emptyPools : List (Nat × Nat)
  scores : Grid α

namespace PolicyNetwork

variable {α : Type}

def domain (net : PolicyNetwork α) : Domain := net.problem.domain

def layout (net : PolicyNetwork α) : InputLayout :=
  ⟨net.problem.numActions, net.problem.numProps, net.arch.extraDim⟩

def schemaSizes (net : PolicyNetwork α) : List (SchemaId × Nat) :=
  net.wiring.actions.map fun entry => (entry.schema, entry.actions.length)

section Assembly

variable [Scalar α]

/-- Checks the configuration and the domain and connects the modules. -/
def assemble (problem : Problem) (arch : Architecture) (config : ModuleConfig α) :
    Except (NetworkError α) (PolicyNetwork α) := do
  arch.validate
  config.validate
  problem.domain.validate.mapError .planning
  match merge_eq : problem.mergeIndices with
  | .ok merge => return ⟨problem, arch, config, Wiring.ofProblem problem, merge, rfl, merge_eq⟩
  | .error fault => throw (.planning fault)

def checkWeights (net : PolicyNetwork α) (weights : Weights α) : Except (NetworkError α) Unit := do
  if weights.domain ≠ net.domain then
    throw (.domainMismatch weights.domain.name net.domain.name)
  if weights.arch ≠ net.arch then
    throw (.config (.otherArchitecture weights.arch net.arch))

/-- The network of a problem for the architecture of some weights of its domain. -/
def forWeights (problem : Problem) (weights : Weights α) (config : ModuleConfig α) :
    Except (NetworkError α) (PolicyNetwork α) := do
  let net ← assemble problem weights.arch config
  net.checkWeights weights
  return net

end Assembly

def notices (net : PolicyNetwork α) : List Event :=
  [.debug (s!"assembled network for {net.problem.name}: {net.problem.numActions} actions, "
    ++ s!"{net.problem.numProps} propositions, {net.arch.final + 1} layers")]

/-- The same network; its assembly is reported before the weights are checked. -/
def forWeightsLogged [Scalar α] (problem : Problem) (weights : Weights α)
    (config : ModuleConfig α) : Logged (NetworkError α) (PolicyNetwork α) := do
  let net ← Logged.ofExcept (assemble problem weights.arch config) notices
  Logged.ofExcept (net.checkWeights weights)
  return net

/-- The features and the truth values must have the sizes of the problem. -/
def checkInput (net : PolicyNetwork α) (input : PolicyInput α) : Except (NetworkError α) Unit := do
  let batch := input.props.height
  checkDims .propValues [batch, net.problem.numProps] input.props.dims
  checkDims .extraFeatures [batch, net.problem.numActions, net.arch.extraDim] input.extra.dims

def checkMasked (net : PolicyNetwork α) (input : MaskedInput α) : Except (NetworkError α) Unit := do
  net.checkInput input.toPolicyInput
  checkDims .actionMask [input.props.height, net.problem.numActions] input.mask.dims

variable [Scalar α]

/-- What the action modules of the first layer see of a predicate's propositions: their
truth and their goal flags. -/
def initialProps (props : Grid α) (entry : PropWiring) : Tensor α :=
  .build props.height entry.props.length 2
    (fun _ => props.rows.map fun row =>
      entry.props.map fun (id, goal) => [row.getD id Scalar.zero, Scalar.indicator goal])
    ⟨by rw [List.length_map, props.rows_shape.count], fun row h => by
      obtain ⟨source, _, rfl⟩ := List.mem_map.1 h
      refine ⟨List.length_map _, fun entity h => ?_⟩
      obtain ⟨prop, _, rfl⟩ := List.mem_map.1 h
      rfl⟩

def outputOf (outputs : List (Tensor α)) (id : Nat) : Except (NetworkError α) (Tensor α) :=
  BlockKey.orOutOfRange outputs[id]?

/-- The parts of an action module's input: the propositions of each slot, then the
features at the first layer, or its own output at the previous layer at a later one. -/
def actionInput (net : PolicyNetwork α) (input : PolicyInput α) (layer : Nat)
    (acts props : List (Tensor α)) (entry : ActionWiring) : Except (NetworkError α) (Tensor α) := do
  let gathered ← entry.slots.mapM fun slot => do
    (← outputOf props slot.pred).gather slot.positions
  let features ← if layer = 0 ∧ 0 < net.arch.extraDim then do
      pure [← input.extra.gather entry.actions]
    else
      pure []
  let own ← if 0 < layer ∧ net.arch.skip then do pure [← outputOf acts entry.schema] else pure []
  Tensor.concat input.props.height entry.actions.length
    (gathered ++ features ++ own)

/-- The parts of a proposition module's input: the pooled actions of each slot, then its
own output at the previous layer. -/
def propInput (net : PolicyNetwork α) (batch layer : Nat) (acts props : List (Tensor α))
    (entry : PropWiring) : Except (NetworkError α) (Tensor α) := do
  let pooled ← entry.slots.mapM fun slot => do
    (← outputOf acts slot.schema).maxPool slot.pools net.config.pad
  let own ← if 0 < layer ∧ net.arch.skip then do pure [← outputOf props entry.pred] else pure []
  Tensor.concat batch entry.props.length (pooled ++ own)

def runModule (net : PolicyNetwork α) (weights : Weights α) (key : BlockKey)
    (activation : Activation) (input : Tensor α) : Except (NetworkError α) (ModuleOutput α) := do
  let name ← key.name net.domain net.arch
  let block ← weights.block key
  return ⟨key, name, input.channels, ← block.apply name activation input⟩

/-- The final scores, put into the canonical order of the actions. -/
def mergeOutputs (net : PolicyNetwork α) (batch : Nat) (acts : List (Tensor α)) :
    Except (NetworkError α) (Grid α) := do
  let stacked ← Tensor.stack batch 1 acts
  checkDims .finalLayer [batch, net.problem.numActions, 1] stacked.dims
  if net.merge.all (· < net.problem.numActions) then
    return .build stacked.batch net.merge.length
      (fun _ => stacked.rows.map fun row => net.merge.map fun place =>
        row.flatten.getD place Scalar.zero)
      ⟨by rw [List.length_map, stacked.rows_dims.count], fun row h => by
        obtain ⟨source, _, rfl⟩ := List.mem_map.1 h
        exact List.length_map _⟩
  else
    throw .outOfRange

section Layers

variable {m : Type → Type} [Monad m]

def orFail {β : Type} (result : Except (NetworkError α) β) : ExceptT (NetworkError α) m β :=
  ExceptT.mk (pure result)

/-- The action modules of a layer. The outputs of hidden ones go through `drop`; those of
the output layer are scores and have no nonlinearity. -/
def actionLayer (net : PolicyNetwork α) (weights : Weights α) (drop : Tensor α → m (Tensor α))
    (input : PolicyInput α) (layer : Nat) (acts props : List (Tensor α)) :
    ExceptT (NetworkError α) m (List (ModuleOutput α)) :=
  net.wiring.actions.mapM fun entry => do
    let parts ← orFail (net.actionInput input layer acts props entry)
    let key := BlockKey.action layer entry.schema
    if layer = net.arch.final then
      orFail (net.runModule weights key .identity parts)
    else
      let result ← orFail (net.runModule weights key net.config.activation parts)
      return { result with output := ← ExceptT.lift (drop result.output) }

def propLayer (net : PolicyNetwork α) (weights : Weights α) (drop : Tensor α → m (Tensor α))
    (batch layer : Nat) (acts props : List (Tensor α)) :
    ExceptT (NetworkError α) m (List (ModuleOutput α)) :=
  net.wiring.props.mapM fun entry => do
    let parts ← orFail (net.propInput batch layer acts props entry)
    let key := BlockKey.predicate layer entry.pred
    let result ← orFail (net.runModule weights key net.config.activation parts)
    return { result with output := ← ExceptT.lift (drop result.output) }

/-- The layers from number `layer` on, `hidden` of them before the output layer. -/
def runLayers (net : PolicyNetwork α) (weights : Weights α) (drop : Tensor α → m (Tensor α))
    (input : PolicyInput α) : (hidden layer : Nat) → (acts props : List (Tensor α)) →
    ExceptT (NetworkError α) m (Evaluation α)
  | 0, layer, acts, props => do
    let final ← net.actionLayer weights drop input layer acts props
    return ⟨final, [], ← orFail (net.mergeOutputs input.props.height (final.map (·.output)))⟩
  | hidden + 1, layer, acts, props => do
    let actions ← net.actionLayer weights drop input layer acts props
    let acts := actions.map (·.output)
    let predicates ← net.propLayer weights drop input.props.height layer acts props
    let rest ← net.runLayers weights drop input hidden (layer + 1) acts (predicates.map (·.output))
    return ⟨actions ++ predicates ++ rest.modules,
      net.wiring.layerPools :: rest.emptyPools, rest.scores⟩

def run (net : PolicyNetwork α) (weights : Weights α) (drop : Tensor α → m (Tensor α))
    (input : PolicyInput α) : ExceptT (NetworkError α) m (Evaluation α) := do
  orFail (net.checkWeights weights)
  net.runLayers weights drop input net.arch.numHidden 0 []
    (net.wiring.props.map (initialProps input.props))

end Layers

/-- The outputs of all modules, without dropout. -/
def evaluate (net : PolicyNetwork α) (weights : Weights α) (input : PolicyInput α) :
    Except (NetworkError α) (Evaluation α) :=
  net.run (m := Id) weights pure input

def logits (net : PolicyNetwork α) (weights : Weights α) (input : PolicyInput α) :
    Except (NetworkError α) (Grid α) := do
  net.checkInput input
  return (← net.evaluate weights input).scores

def traced (net : PolicyNetwork α) (weights : Weights α) (input : MaskedInput α) :
    Except (NetworkError α) (Evaluation α × Grid α) := do
  net.checkMasked input
  let evaluation ← net.evaluate weights input.toPolicyInput
  return (evaluation, ← maskedSoftmax evaluation.scores input.mask)

def forward (net : PolicyNetwork α) (weights : Weights α) (input : MaskedInput α) :
    Except (NetworkError α) (Grid α) := do
  net.checkMasked input
  maskedSoftmax (← net.evaluate weights input.toPolicyInput).scores input.mask

/-- The probabilities for a batch of flat inputs. -/
def forwardFlat (net : PolicyNetwork α) (weights : Weights α) (flat : Grid α) :
    Except (NetworkError α) (Grid α) := do
  net.forward weights (← net.layout.split flat)

/-- The probabilities of the actions when hidden outputs are dropped at random. -/
def train {σ : Type} [WordSource σ] (net : PolicyNetwork α) (weights : Weights α)
    (input : MaskedInput α) : Stateful α σ (Grid α) := do
  Stateful.ofExcept (net.checkMasked input)
  let evaluation ← net.run weights (Tensor.dropout net.config.dropout) input.toPolicyInput
  Stateful.ofExcept (maskedSoftmax evaluation.scores input.mask)

end PolicyNetwork

namespace Evaluation

variable {α : Type}

def numEmptyPools (evaluation : Evaluation α) : Nat := Size.total (evaluation.emptyPools.map (·.1))

def numAbsentPools (evaluation : Evaluation α) : Nat := Size.total (evaluation.emptyPools.map (·.2))

def layerNotices (layer : Nat) (counts : Nat × Nat) : List Event :=
  (if 0 < counts.1 then
    [⟨.trace, "pooled over empty sets of actions",
      [("layer", toString layer), ("empty_pools", toString counts.1)]⟩]
  else []) ++
  (if 0 < counts.2 then
    [⟨.trace, "pooled over schemas without ground actions",
      [("layer", toString layer), ("absent_schema_pools", toString counts.2)]⟩]
  else [])

def layersNotices (emptyPools : List (Nat × Nat)) : List Event :=
  emptyPools.zipIdx.flatMap fun (counts, layer) => layerNotices layer counts

end Evaluation

/-- What the modules report while they run. The pools are those of the problem at every layer,
so the values that are computed do not matter. -/
def PolicyNetwork.runNotices {α : Type} (net : PolicyNetwork α) : List Event :=
  Evaluation.layersNotices (List.replicate net.arch.numHidden net.wiring.layerPools)

end SchemaNet
