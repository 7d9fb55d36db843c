import SchemaNet.Network.PolicyNetwork

/-!
The evaluation of a policy network under the limits of a memory. The shapes of all tensors
follow from the size of the batch and the architecture, so they are checked before anything
is computed, in the order in which the tensors are needed.
-/

namespace SchemaNet.PolicyNetwork

variable {α : Type}

/-- The tensors of an action module, which sees `props` channels of each proposition and
tensors of the widths `own` of its actions. -/
def checkActions (batch props outputs : Nat) (own : List Nat) (entry : ActionWiring) :
    Except (NetworkError α) Unit := do
  let entities := entry.actions.length
  entry.slots.forM fun slot => Memory.checkGather batch slot.positions.length props
  Memory.checkConcat batch entities (entry.slots.map (fun _ => props) ++ own)
  Memory.checkProduct (batch * entities) outputs
  Memory.checkShaped [batch, entities, outputs]

/-- The tensors of a proposition module, which sees `acts` channels of each pool. -/
def checkProps (batch acts outputs : Nat) (own : List Nat) (entry : PropWiring) :
    Except (NetworkError α) Unit := do
  let entities := entry.props.length
  entry.slots.forM fun slot => Memory.checkPools batch slot.pools.length acts
  Memory.checkConcat batch entities (entry.slots.map (fun _ => acts) ++ own)
  Memory.checkProduct (batch * entities) outputs
  Memory.checkShaped [batch, entities, outputs]

/-- What a module sees of its own entity after a layer in which that had so many channels. -/
def ownWidths (net : PolicyNetwork α) (width : Nat) : List Nat :=
  if net.arch.skip then [width] else []

/-- The tensors of the given hidden layers and of the output layer. -/
def checkLayers (net : PolicyNetwork α) (batch : Nat) :
    (props : Nat) → (ownActs ownProps : List Nat) → List LayerSizes → Except (NetworkError α) Unit
  | props, ownActs, _, [] => net.wiring.actions.forM (checkActions batch props 1 ownActs)
  | props, ownActs, ownProps, sizes :: rest => do
    net.wiring.actions.forM (checkActions batch props sizes.act ownActs)
    net.wiring.props.forM (checkProps batch sizes.act sizes.prop ownProps)
    net.checkLayers batch sizes.prop (net.ownWidths sizes.act) (net.ownWidths sizes.prop) rest

/-- The channels of a proposition before the first layer: its truth and its goal flag. -/
def initialWidth : Nat := 2

/-- All tensors of an evaluation: first the propositions and the features, then the layers. -/
def checkSizes (net : PolicyNetwork α) (batch : Nat) : Except (NetworkError α) Unit := do
  let extraDim := net.arch.extraDim
  net.wiring.props.forM fun entry => Memory.checkGather batch entry.props.length initialWidth
  net.wiring.actions.forM fun entry => Memory.checkGather batch entry.actions.length extraDim
  net.checkLayers batch initialWidth (if 0 < extraDim then [extraDim] else []) [] net.arch.hidden

/-- Whether the network can run on an input with these weights; the layers report it. -/
def start (net : PolicyNetwork α) (weights : Weights α) (batch : Nat)
    (input : Except (NetworkError α) Unit) : Logged (NetworkError α) Unit :=
  let ready : Except (NetworkError α) Unit := do
    input
    net.checkWeights weights
    net.checkSizes batch
  Logged.ofExcept ready fun _ => net.runNotices

end SchemaNet.PolicyNetwork

namespace SchemaNet.Memory

variable {α β ε σ : Type} [Scalar α]

def logits (net : PolicyNetwork α) (weights : Weights α) (input : PolicyInput α) :
    Logged (NetworkError α) (Grid α) := do
  net.start weights input.props.height (net.checkInput input)
  Logged.ofExcept (net.logits weights input)

def forward (net : PolicyNetwork α) (weights : Weights α) (input : MaskedInput α) :
    Logged (NetworkError α) (Grid α) := do
  net.start weights input.props.height (net.checkMasked input)
  Logged.ofExcept (net.forward weights input)

def forwardFlat (net : PolicyNetwork α) (weights : Weights α) (flat : Grid α) :
    Logged (NetworkError α) (Grid α) := do
  forward net weights (← Logged.ofExcept (split net.layout flat))

def traced (net : PolicyNetwork α) (weights : Weights α) (input : MaskedInput α) :
    Logged (NetworkError α) (Evaluation α × Grid α) := do
  net.start weights input.props.height (net.checkMasked input)
  Logged.ofExcept (net.traced weights input)

def train [WordSource σ] (net : PolicyNetwork α) (weights : Weights α) (input : MaskedInput α)
    (draws : σ) : Logged (NetworkError α) (Grid α) := do
  net.start weights input.props.height (net.checkMasked input)
  Logged.ofExcept ((net.train weights input).run draws).1

/-! ## What the limits leave as it is -/

theorem ok_of_start {first : Logged ε Unit} {result : Except ε β} {value : β}
    (h : (first >>= fun _ => Logged.ofExcept result).outcome.1 = .ok value) : result = .ok value := by
  rw [Logged.bind_outcome] at h
  split at h
  · exact (Logged.ofExcept_run _ _ _).symm.trans h
  · cases h

theorem forward_eq_ok {net : PolicyNetwork α} {weights : Weights α} {input : MaskedInput α}
    {result : Grid α} (h : (forward net weights input).outcome.1 = .ok result) :
    net.forward weights input = .ok result :=
  ok_of_start h

theorem logits_eq_ok {net : PolicyNetwork α} {weights : Weights α} {input : PolicyInput α}
    {result : Grid α} (h : (logits net weights input).outcome.1 = .ok result) :
    net.logits weights input = .ok result :=
  ok_of_start h

theorem traced_eq_ok {net : PolicyNetwork α} {weights : Weights α} {input : MaskedInput α}
    {result : Evaluation α × Grid α} (h : (traced net weights input).outcome.1 = .ok result) :
    net.traced weights input = .ok result :=
  ok_of_start h

end SchemaNet.Memory
