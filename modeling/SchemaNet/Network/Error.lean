import SchemaNet.Files.Basic
import SchemaNet.Network.Activation
import SchemaNet.Network.Architecture
import SchemaNet.Planning.Problem
import SchemaNet.Setting.Error

/-!
What can go wrong with a network: its configuration, its weights, its inputs, its
scores and its files.
-/

namespace SchemaNet

/-- A configuration that no network can have, or that does not fit another one. -/
inductive ConfigFault (α : Type) where
  | zeroWidth (layer : Nat) (sizes : LayerSizes)
  | dropoutOutOfRange (dropout : α)
  | padNotFinite (pad : α)
  | unboundedActivation (activation : Activation)
  | padAboveBound (pad bound : α) (activation : Activation)
  | otherArchitecture (weights network : Architecture)
  | foreignAction (action : ActId) (problem : Symbol)
  | featureCount (names : List String) (produced expected : Nat)
  deriving DecidableEq, Repr

def ConfigFault.message {α : Type} [Scalar α] : ConfigFault α → String
  | .zeroWidth layer sizes => s!"hidden layer {layer} has a zero width: {sizes.text}"
  | .dropoutOutOfRange dropout => s!"dropout must be in [0, 1), got {Scalar.display dropout}"
  | .padNotFinite pad => s!"pool pad must be finite, got {Scalar.display pad}"
  | .unboundedActivation activation =>
    s!"activation {activation.label} is unbounded below, no pad value is safe for pooling"
  | .padAboveBound pad bound activation =>
    s!"pool pad {Scalar.display pad} exceeds the minimum {Scalar.display bound} "
      ++ s!"of activation {activation.label}"
  | .otherArchitecture weights network =>
    s!"weights were allocated for {weights.text}, network assembled for {network.text}"
  | .foreignAction action problem => s!"{ActId.label action} is not an action of {problem}"
  | .featureCount names produced expected =>
    s!"generators produce {produced} features per action (" ++ String.intercalate ", " names
      ++ s!") but the architecture expects {expected}"

inductive InputName where
  | propValues
  | extraFeatures
  | actionMask
  | flatInput
  | finalLayer
  deriving DecidableEq, Repr

def InputName.label : InputName → String
  | .propValues => "proposition values"
  | .extraFeatures => "exogenous features"
  | .actionMask => "action mask"
  | .flatInput => "flat input"
  | .finalLayer => "final action layer"

inductive NetworkError (α : Type) where
  | planning (fault : PlanningError)
  | config (fault : ConfigFault α)
  | setting (fault : SettingError)
  | shapeMismatch (block : String) (expected found : List Nat)
  | missingBlock (name : String)
  | unexpectedBlock (name : String)
  | inputWidth (input : InputName) (expected found : List Nat)
  | allActionsDisabled (row : Nat)
  | nonFiniteOutput (row : Nat)
  | widthMismatch (block : String) (expected found : Nat)
  | domainMismatch (expected found : Symbol)
  | incompatibleShapes
  /-- The shape of a result has more positions than can be numbered. -/
  | tooLarge
  | file (path : String) (fault : FileError)
  | malformed
  /-- An index names no entity, layer or channel, or a size is beyond all memory. -/
  | outOfRange
  deriving DecidableEq, Repr

def NetworkError.kind {α : Type} : NetworkError α → String
  | .planning cause => "Meta/" ++ cause.kind
  | .config _ => "Config"
  | .setting cause => "Env/" ++ cause.kind
  | .shapeMismatch .. => "ShapeMismatch"
  | .missingBlock _ => "MissingBlock"
  | .unexpectedBlock _ => "UnexpectedBlock"
  | .inputWidth .. => "InputWidth"
  | .allActionsDisabled _ => "AllActionsDisabled"
  | .nonFiniteOutput _ => "NonFiniteOutput"
  | .widthMismatch .. => "WidthMismatch"
  | .domainMismatch .. => "DomainMismatch"
  | .incompatibleShapes | .tooLarge => "Tensor"
  | .file .. => "Io"
  | .malformed => "Json"
  | .outOfRange => "OutOfRange"

def dimsText (dims : List Nat) : String :=
  "[" ++ String.intercalate ", " (dims.map toString) ++ "]"

def NetworkError.message {α : Type} [Scalar α] : NetworkError α → String
  | .planning fault => fault.message
  | .config fault => "invalid configuration: " ++ fault.message
  | .setting fault => fault.message
  | .shapeMismatch block expected found =>
    s!"weight block {block} has shape {dimsText found} (inputs, outputs, bias), "
      ++ s!"expected {dimsText expected}"
  | .missingBlock name => s!"no weight block named {name}"
  | .unexpectedBlock name => s!"unexpected weight block {name}"
  | .inputWidth input expected found =>
    s!"{input.label} has shape {dimsText found}, expected {dimsText expected}"
  | .allActionsDisabled row => s!"all actions are disabled in row {row} of the batch"
  | .nonFiniteOutput row => s!"non-finite action scores in row {row} of the batch"
  | .widthMismatch block expected found =>
    s!"input of block {block} has width {found} but its weights expect {expected}"
  | .domainMismatch expected found =>
    s!"weights belong to domain {expected} but the problem was grounded from {found}"
  | .incompatibleShapes => "ShapeError/IncompatibleShape: incompatible shapes"
  | .tooLarge => "ShapeError/Overflow: arithmetic overflow"
  | .file path fault => s!"could not access {path}: {fault.message}"
  | .malformed => "malformed weights"
  | .outOfRange => "index out of range"

end SchemaNet
