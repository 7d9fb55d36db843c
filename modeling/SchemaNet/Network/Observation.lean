import SchemaNet.Network.Layout

/-!
States of a problem, the features of its actions in a state, and the flat inputs that
a network reads. Features come from sources, each of which describes every action of
the problem by the same number of features.
-/

namespace SchemaNet

/-- The truth of every proposition and whether each action is enabled, in canonical order. -/
structure CanonicalState where
  propsTrue : List Bool
  enabled : List Bool
  deriving DecidableEq, Repr

namespace CanonicalState

variable {α : Type}

def ofFlags (problem : Problem) (propsTrue enabled : List Bool) :
    Except (NetworkError α) CanonicalState := do
  checkDims .propValues [problem.numProps] [propsTrue.length]
  checkDims .actionMask [problem.numActions] [enabled.length]
  return ⟨propsTrue, enabled⟩

/-- The flags of the positions that some identifiers stand for. -/
def flagsOf (size : Nat) (position : String → Except PlanningError Nat) (idents : List String) :
    Except (NetworkError α) (List Bool) := do
  let positions ← (idents.mapM position).mapError .planning
  return (List.range size).map fun id => decide (id ∈ positions)

/-- The state in which exactly the named propositions are true and exactly the named
actions are enabled. -/
def ofIdents (problem : Problem) (trueProps enabledActions : List String) :
    Except (NetworkError α) CanonicalState := do
  return ⟨← flagsOf problem.numProps problem.propIndex trueProps,
    ← flagsOf problem.numActions problem.actIndex enabledActions⟩

def isEnabled (state : CanonicalState) (id : ActId) : Bool := state.enabled.getD id false

def numEnabled (state : CanonicalState) : Nat := state.enabled.count true

variable [Scalar α]

def propsVector (state : CanonicalState) : List α := state.propsTrue.map Scalar.indicator

def maskVector (state : CanonicalState) : List α := state.enabled.map Scalar.indicator

end CanonicalState

/-- Features of the actions of a problem, by name. -/
structure FeatureSource (α : Type) where
  /-- The number of features of each action. -/
  dim : Nat
  /-- One name for each feature, made when they are asked for. -/
  names : Thunk (List String)
  /-- Whether the features depend on the actions taken before. -/
  memory : Bool
  /-- One row for each action, given the state and the actions taken before. -/
  data : Problem → CanonicalState → List ActId → Except (NetworkError α) (Grid α)

namespace FeatureSource

variable {α : Type} [Scalar α]

def enabled : FeatureSource α :=
  { dim := 1
    names := .mk fun _ => ["enabled"]
    memory := false
    data := fun problem state _ =>
      if state.enabled.length = problem.numActions then .ok (.column state.maskVector)
      else .error .incompatibleShapes }

/-- How often each action was taken, counted in floating point. -/
def count : FeatureSource α :=
  { dim := 1
    names := .mk fun _ => ["count"]
    memory := true
    data := fun problem _ history =>
      match history.find? fun id => problem.numActions ≤ id with
      | some id => .error (.config (.foreignAction id problem.name))
      | none => .ok (.column ((List.range problem.numActions).map fun id =>
        history.foldl (fun times taken => if taken = id then times + Scalar.one else times)
          Scalar.zero)) }

/-- The same features in every state, whatever their number is declared to be. They are
named by a common text and their position. -/
def constant (dim : Nat) (name : String) (memory : Bool) (data : Grid α) : FeatureSource α :=
  ⟨dim, .mk fun _ => (List.range dim).map fun i => s!"{name}{i}", memory, fun _ _ _ => .ok data⟩

/-- The features of a source, which must be as many as it declares. -/
def checkedData (source : FeatureSource α) (problem : Problem) (state : CanonicalState)
    (history : List ActId) : Except (NetworkError α) (Grid α) := do
  let data ← source.data problem state history
  checkDims .extraFeatures [problem.numActions, source.dim] data.dims
  return data

/-- The features of several sources, one source after the other. -/
def stack (sources : List (FeatureSource α)) : FeatureSource α :=
  { dim := Size.total (sources.map fun source => source.dim)
    names := .mk fun _ => sources.flatMap fun source => source.names.get
    memory := sources.any fun source => source.memory
    data := fun problem state history => do
      let parts ← sources.mapM fun source => source.checkedData problem state history
      return parts.foldl Grid.append ⟨problem.numActions, 0, [], rfl⟩ }

end FeatureSource

/-- Builds the inputs of the network of one problem. -/
structure ObservationEncoder (α : Type) where
  problem : Problem
  features : FeatureSource α

namespace ObservationEncoder

variable {α : Type}

def layout (encoder : ObservationEncoder α) : InputLayout :=
  ⟨encoder.problem.numActions, encoder.problem.numProps, encoder.features.dim⟩

/-- The architecture must expect as many features as there are. -/
def checkArch (encoder : ObservationEncoder α) (arch : Architecture) :
    Except (NetworkError α) Unit :=
  if arch.extraDim = encoder.layout.extraDim then
    .ok ()
  else
    .error (.config
      (.featureCount encoder.features.names.get encoder.layout.extraDim arch.extraDim))

def extraData (encoder : ObservationEncoder α) (state : CanonicalState) (history : List ActId) :
    Except (NetworkError α) (Grid α) :=
  encoder.features.data encoder.problem state history

def encode [Scalar α] (encoder : ObservationEncoder α) (state : CanonicalState)
    (history : List ActId) : Except (NetworkError α) (List α) := do
  let extra ← encoder.extraData state history
  encoder.layout.encode state.maskVector extra state.propsVector

def encodeBatch [Scalar α] (encoder : ObservationEncoder α)
    (states : List (CanonicalState × List ActId)) : Except (NetworkError α) (Grid α) := do
  encoder.layout.batch (← states.mapM fun (state, history) => encoder.encode state history)

def columnNames (encoder : ObservationEncoder α) : List String :=
  let actions := encoder.problem.actions.map GroundAction.ident
  let names := encoder.features.names.get
  actions.map (fun ident => s!"enabled({ident})")
    ++ actions.flatMap (fun ident => names.map fun name => s!"{name}({ident})")
    ++ encoder.problem.props.map fun prop => s!"({prop.ident})"

end ObservationEncoder

end SchemaNet
