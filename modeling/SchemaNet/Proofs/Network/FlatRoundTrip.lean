import SchemaNet.Proofs.Network.FlatInputs

/-!
Flat inputs and their parts are the same data. Rows of the sizes of a layout are encoded, stacked
and cut apart into what they were made of, and a matrix of the width of the layout is made of the
parts that it is cut into. Another size is reported, and nothing else but the size of an array
stands in the way.
-/

namespace SchemaNet
open Memory (bind_eq_ok)

variable {α : Type}

/-! ## What the operations report -/

section Reports

variable {β : Type} {fits more possible : Prop}

/-- A given array, with the sizes that it should have and those that it has. -/
structure SizeCheck where
  input : InputName
  expected : List Nat
  found : List Nat

def SizeCheck.differs (check : SizeCheck) : Bool := check.expected ≠ check.found

/-- There is a result if the given sizes fit. Otherwise the first of the checks that finds other
sizes is reported. -/
structure SizesChecked (fits : Prop) (checks : List SizeCheck)
    (result : Except (NetworkError α) β) : Prop where
  ok : fits → ∃ value, result = .ok value
  reported : ¬fits → ∃ check, checks.find? SizeCheck.differs = some check ∧
    result = .error (.inputWidth check.input check.expected check.found)

namespace SizesChecked

variable {checks : List SizeCheck}

theorem pure (value : β) :
    SizesChecked True [] (Pure.pure value : Except (NetworkError α) β) :=
  ⟨fun _ => ⟨value, rfl⟩, fun never => absurd trivial never⟩

theorem congr {result : Except (NetworkError α) β} (h : SizesChecked more checks result)
    (same : fits ↔ more) : SizesChecked fits checks result := by
  rwa [propext same]

end SizesChecked

end Reports

/-- One row of an input: its mask, its features action by action and its truths. -/
structure InputRow (α : Type) where
  mask : List α
  extra : Grid α
  props : List α

namespace InputLayout

variable {layout : InputLayout} {given : List (InputRow α)} {rows : List (List α)} {row : List α}
  {flat : Grid α} {parts : MaskedInput α}

/-- The masks, the features and the truths of several rows, each of them stacked. -/
structure Stacks (layout : InputLayout) (given : List (InputRow α)) (parts : MaskedInput α) :
    Prop where
  mask_dims : parts.mask.dims = [given.length, layout.numActions]
  mask_rows : parts.mask.rows = given.map (·.mask)
  extra_dims : parts.extra.dims = [given.length, layout.numActions, layout.extraDim]
  extra_rows : parts.extra.rows = given.map (·.extra.rows)
  props_dims : parts.props.dims = [given.length, layout.numProps]
  props_rows : parts.props.rows = given.map (·.props)

/-! ## Sizes -/

end InputLayout

namespace TwoRows

/-! Two rows for two actions with two features each, and for three propositions. -/

def layout : InputLayout := ⟨2, 3, 2⟩

def given : List (InputRow Nat) :=
  [⟨[1, 0], ⟨2, 2, [10, 20, 30, 40], rfl⟩, [1, 1, 0]⟩,
    ⟨[0, 1], ⟨2, 2, [50, 60, 70, 80], rfl⟩, [0, 0, 1]⟩]

end TwoRows

namespace EndlessBatch

/-! Rows without entries, for no action with four features. -/

def layout : InputLayout := ⟨0, 0, 4⟩

def flat : Grid Nat := ⟨Nat.pow 2 62, 0, [], rfl⟩

end EndlessBatch

end SchemaNet
