import SchemaNet.Network.Tensor

/-!
The flat form of a network's input: the mask of the actions, then the features of each
action, then the truth of the propositions.
-/

namespace SchemaNet

structure InputLayout where
  numActions : Nat
  numProps : Nat
  extraDim : Nat
  deriving DecidableEq, Repr

/-- The truth of the propositions and the features of the actions, for each row of a batch. -/
structure PolicyInput (α : Type) where
  props : Grid α
  extra : Tensor α

/-- An input together with the mask of the enabled actions. -/
structure MaskedInput (α : Type) extends PolicyInput α where
  mask : Grid α

def checkDims {α : Type} (input : InputName) (expected found : List Nat) :
    Except (NetworkError α) Unit :=
  if expected = found then .ok () else .error (.inputWidth input expected found)

namespace InputLayout

variable {α : Type}

def width (layout : InputLayout) : Nat :=
  layout.numActions + layout.numActions * layout.extraDim + layout.numProps

/-- The features of a row, cut out of its flat form. -/
def extraOf (layout : InputLayout) (row : List α) : List (List α) :=
  chunks layout.extraDim layout.numActions
    ((row.drop layout.numActions).take (layout.numActions * layout.extraDim))

theorem extraOf_shape (layout : InputLayout) {row : List α} (size : row.length = layout.width) :
    HasShape layout.numActions layout.extraDim (layout.extraOf row) := by
  refine ⟨chunks_length _ _ _, fun entity h => length_of_mem_chunks ?_ h⟩
  rw [List.length_take, List.length_drop, size, width]
  omega

/-- Cuts every row into its three parts. -/
def split (layout : InputLayout) (flat : Grid α) : Except (NetworkError α) (MaskedInput α) :=
  if same : flat.width = layout.width then
    .ok
      { mask := flat.columns 0 layout.numActions
        extra := .build flat.height layout.numActions layout.extraDim
          (fun _ => flat.rows.map layout.extraOf)
          ⟨by rw [List.length_map, flat.rows_shape.count], fun row h => by
            obtain ⟨source, hsource, rfl⟩ := List.mem_map.1 h
            exact layout.extraOf_shape (by rw [flat.rows_shape.each source hsource, same])⟩
        props := flat.columns (layout.numActions * (1 + layout.extraDim)) layout.numProps }
  else
    .error (.inputWidth .flatInput [flat.height, layout.width] [flat.height, flat.width])

/-- The flat form of one row; the features are given action by action. -/
def encode (layout : InputLayout) (mask : List α) (extra : Grid α) (props : List α) :
    Except (NetworkError α) (List α) := do
  checkDims .actionMask [layout.numActions] [mask.length]
  checkDims .extraFeatures [layout.numActions, layout.extraDim] extra.dims
  checkDims .propValues [layout.numProps] [props.length]
  return mask ++ extra.flat ++ props

/-- The first row of another width is reported. -/
def batch (layout : InputLayout) (rows : List (List α)) : Except (NetworkError α) (Grid α) :=
  if fits : ∀ row ∈ rows, row.length = layout.width then
    .ok (.build rows.length layout.width (fun _ => rows) ⟨rfl, fits⟩)
  else
    match rows.find? fun row => row.length ≠ layout.width with
    | some row => .error (.inputWidth .flatInput [layout.width] [row.length])
    | none => .error .outOfRange

end InputLayout

end SchemaNet
