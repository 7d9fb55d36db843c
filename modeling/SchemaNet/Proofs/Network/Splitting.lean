import SchemaNet.Proofs.Network.SoftmaxRows

/-!
The parts of a flat input. Matrices and tensors are known by their shapes and rows, and the
parts that a flat input is cut into are those whose rows are cut out of its rows.
-/

namespace SchemaNet

variable {α : Type}

theorem Grid.ext_rows {left right : Grid α} (dims : left.dims = right.dims)
    (rows : left.rows = right.rows) : left = right := by
  have flat : left.flat = right.flat := by rw [← left.flatten_rows, rows, right.flatten_rows]
  obtain ⟨height, width⟩ := Grid.size_eq dims
  cases left
  cases right
  dsimp only at flat height width
  subst flat height width
  rfl

@[simp] theorem Grid.rows_columns (grid : Grid α) (start count : Nat) :
    (grid.columns start count).rows = grid.rows.map fun row => (row.drop start).take count :=
  Grid.rows_build _

theorem Tensor.flatRows_rows (tensor : Tensor α) :
    (flatRows tensor.rows).flatten = tensor.flat := by
  have pieces : flatRows tensor.rows =
      chunks (tensor.entities * tensor.channels) tensor.batch tensor.flat := by
    rw [flatRows, rows, List.map_map]
    refine (List.map_congr_left fun piece h => ?_).trans (List.map_id _)
    exact flatten_chunks (length_of_mem_chunks tensor.size h)
  rw [pieces, flatten_chunks tensor.size]

theorem Tensor.ext_rows {left right : Tensor α} (dims : left.dims = right.dims)
    (rows : left.rows = right.rows) : left = right := by
  have flat : left.flat = right.flat := by rw [← left.flatRows_rows, rows, right.flatRows_rows]
  simp only [Tensor.dims, List.cons.injEq] at dims
  obtain ⟨batch, entities, channels, -⟩ := dims
  cases left
  cases right
  dsimp only at flat batch entities channels
  subst flat batch entities channels
  rfl

namespace InputLayout

variable {layout : InputLayout} {flat : Grid α} {parts : MaskedInput α}

/-- The parts of a flat input, cut out of each of its rows. -/
structure Parts (layout : InputLayout) (flat : Grid α) (parts : MaskedInput α) : Prop where
  mask_dims : parts.mask.dims = [flat.height, layout.numActions]
  mask_rows : parts.mask.rows = flat.rows.map (·.take layout.numActions)
  extra_dims : parts.extra.dims = [flat.height, layout.numActions, layout.extraDim]
  extra_rows : parts.extra.rows = flat.rows.map layout.extraOf
  props_dims : parts.props.dims = [flat.height, layout.numProps]
  props_rows : parts.props.rows = flat.rows.map fun row =>
    (row.drop (layout.numActions * (1 + layout.extraDim))).take layout.numProps

theorem Parts.unique {other : MaskedInput α} (h : layout.Parts flat parts)
    (h' : layout.Parts flat other) : parts = other := by
  obtain ⟨⟨props, extra⟩, mask⟩ := parts
  obtain ⟨⟨props', extra'⟩, mask'⟩ := other
  obtain rfl : mask = mask' := Grid.ext_rows (h.mask_dims.trans h'.mask_dims.symm)
    (h.mask_rows.trans h'.mask_rows.symm)
  obtain rfl : extra = extra' := Tensor.ext_rows (h.extra_dims.trans h'.extra_dims.symm)
    (h.extra_rows.trans h'.extra_rows.symm)
  obtain rfl : props = props' := Grid.ext_rows (h.props_dims.trans h'.props_dims.symm)
    (h.props_rows.trans h'.props_rows.symm)
  rfl

theorem exists_parts (same : flat.width = layout.width) :
    ∃ parts, layout.split flat = .ok parts ∧ layout.Parts flat parts := by
  have prefixWidth : min layout.numActions (layout.width - 0) = layout.numActions := by
    rw [width]
    omega
  have suffixWidth : min layout.numProps
      (layout.width - layout.numActions * (1 + layout.extraDim)) = layout.numProps := by
    rw [width, Nat.mul_add, Nat.mul_one]
    omega
  unfold split
  rw [dif_pos same]
  refine ⟨_, rfl, ?_, ?_, rfl, Tensor.rows_build _, ?_, Grid.rows_columns _ _ _⟩
  · show [flat.height, min layout.numActions (flat.width - 0)] = _
    rw [same, prefixWidth]
  · rw [Grid.rows_columns]
    rfl
  · show [flat.height, min layout.numProps _] = _
    rw [same, suffixWidth]

theorem split_eq_ok_iff :
    layout.split flat = .ok parts ↔ flat.width = layout.width ∧ layout.Parts flat parts := by
  constructor
  · intro h
    by_cases same : flat.width = layout.width
    · obtain ⟨other, ran, cut⟩ := exists_parts same
      obtain rfl := Except.ok.inj (h.symm.trans ran)
      exact ⟨same, cut⟩
    · unfold split at h
      rw [dif_neg same] at h
      cases h
  · rintro ⟨same, cut⟩
    obtain ⟨other, ran, own⟩ := exists_parts same
    rw [cut.unique own]
    exact ran

end InputLayout

end SchemaNet
