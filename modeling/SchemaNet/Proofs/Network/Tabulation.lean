import SchemaNet.Network.WeightBlock
import SchemaNet.Proofs.KeyedList

/-!
Tensors as tables of functions. A tensor tabulates a function if the channels of each entity
in each row are the value of the function there. Each operation on tensors is then an
operation on functions, and it fails exactly on widths that do not fit.
-/

namespace SchemaNet

theorem map_eq_map_of_forall₂ {β γ δ : Type} {R : β → γ → Prop} {f : β → δ} {g : γ → δ}
    {xs : List β} {ys : List γ} (h : List.Forall₂ R xs ys) (same : ∀ x y, R x y → f x = g y) :
    xs.map f = ys.map g := by
  rw [← List.forall₂_eq_eq_eq, List.forall₂_map_left_iff, List.forall₂_map_right_iff]
  exact h.imp same

namespace Tensor

variable {α β γ : Type}

structure Tabulates (tensor : Tensor α) (batch : Nat) (entities : List β) (channels : Nat)
    (value : Nat → β → List α) : Prop where
  batch_eq : tensor.batch = batch
  entities_eq : tensor.entities = entities.length
  channels_eq : tensor.channels = channels
  rows_eq : tensor.rows = (List.range batch).map fun b => entities.map (value b)

variable {tensor : Tensor α} {batch channels : Nat} {xs : List β} {ys : List γ}
  {value : Nat → β → List α}

theorem Tabulates.dims_eq (h : tensor.Tabulates batch xs channels value) :
    tensor.dims = [batch, xs.length, channels] := by
  rw [dims, h.batch_eq, h.entities_eq, h.channels_eq]

theorem Tabulates.value_length (h : tensor.Tabulates batch xs channels value) {b : Nat}
    (hb : b < batch) {x : β} (hx : x ∈ xs) : (value b x).length = channels := by
  have row : xs.map (value b) ∈ tensor.rows := by
    rw [h.rows_eq]
    exact List.mem_map.2 ⟨b, List.mem_range.2 hb, rfl⟩
  rw [(tensor.rows_dims.each _ row).each _ (List.mem_map_of_mem hx), h.channels_eq]

theorem Tabulates.congr (h : tensor.Tabulates batch xs channels value)
    {other : Nat → β → List α} (same : ∀ b < batch, ∀ x ∈ xs, value b x = other b x) :
    tensor.Tabulates batch xs channels other := by
  refine ⟨h.batch_eq, h.entities_eq, h.channels_eq, h.rows_eq.trans ?_⟩
  refine List.map_congr_left fun b hb => List.map_congr_left fun x hx => ?_
  exact same b (List.mem_range.1 hb) x hx

theorem entityAt_map {f : β → List α} {i : Nat} {x : β} (h : xs[i]? = some x) :
    entityAt (xs.map f) i = f x := by
  simp [entityAt, h]

/-! ## Choosing entities -/

theorem Tabulates.gather (h : tensor.Tabulates batch xs channels value) {indices : List Nat}
    {value' : Nat → γ → List α}
    (beside : List.Forall₂ (fun i y => ∃ x, xs[i]? = some x ∧ ∀ b, value b x = value' b y)
      indices ys) :
    ∃ result, tensor.gather indices = .ok result ∧ result.Tabulates batch ys channels value' := by
  have inRange : ∀ i ∈ indices, i < tensor.entities := by
    intro i hi
    obtain ⟨y, -, x, hx, -⟩ := forall₂_mem_left beside hi
    rw [h.entities_eq]
    exact (List.getElem?_eq_some_iff.1 hx).1
  rw [Tensor.gather, dif_pos inRange]
  refine ⟨_, rfl, h.batch_eq, beside.length_eq, h.channels_eq, ?_⟩
  rw [rows_mapRows, h.rows_eq, List.map_map]
  refine List.map_congr_left fun b _ => map_eq_map_of_forall₂ beside ?_
  rintro i y ⟨x, hx, same⟩
  rw [entityAt_map hx, same]

/-- The greatest value of each channel over a pool; an empty pool has the value `pad`. -/
def poolValues [Scalar α] (channels : Nat) (pad : α) : List (List α) → List α
  | [] => List.replicate channels pad
  | first :: rest => rest.foldl (List.zipWith Scalar.max) first

theorem poolEntity_eq [Scalar α] {pad : α} {f : β → List α} {pool : List Nat} {members : List β}
    (h : Picks xs pool members) :
    poolEntity channels pad (xs.map f) pool = poolValues channels pad (members.map f) := by
  cases h with
  | nil => rfl
  | cons first rest =>
    have others := map_eq_map_of_forall₂ rest fun i x => entityAt_map (f := f) (i := i) (x := x)
    rw [poolEntity, List.map_cons, poolValues, entityAt_map first, ← others, List.foldl_map]

theorem Tabulates.maxPool [Scalar α] (h : tensor.Tabulates batch xs channels value) {pad : α}
    {pools : List (List Nat)} {members : γ → List β}
    (beside : List.Forall₂ (fun pool y => Picks xs pool (members y)) pools ys) :
    ∃ result, tensor.maxPool pools pad = .ok result ∧ result.Tabulates batch ys channels
      fun b y => poolValues channels pad ((members y).map (value b)) := by
  have inRange : ∀ pool ∈ pools, ∀ i ∈ pool, i < tensor.entities := by
    intro pool hpool
    obtain ⟨y, -, picks⟩ := forall₂_mem_left beside hpool
    rw [h.entities_eq]
    exact fun i hi => picks.lt hi
  rw [Tensor.maxPool, dif_pos inRange]
  refine ⟨_, rfl, h.batch_eq, beside.length_eq, h.channels_eq, ?_⟩
  rw [rows_mapRows, h.rows_eq, List.map_map]
  refine List.map_congr_left fun b _ => map_eq_map_of_forall₂ beside fun pool y hpool => ?_
  rw [poolEntity_eq hpool, h.channels_eq]

/-! ## Putting tensors together -/

/-- Tensors of the same entities, each with its width and the function that it tabulates. -/
def Parts (batch : Nat) (xs : List β) (parts : List (Tensor α))
    (specs : List (Nat × (Nat → β → List α))) : Prop :=
  List.Forall₂ (fun part spec => part.Tabulates batch xs spec.1 spec.2) parts specs

theorem Parts.append {parts others : List (Tensor α)}
    {specs otherSpecs : List (Nat × (Nat → β → List α))}
    (h : Parts batch xs parts specs) (h' : Parts batch xs others otherSpecs) :
    Parts batch xs (parts ++ others) (specs ++ otherSpecs) :=
  List.rel_append h h'

theorem empty_rows (batch entities : Nat) :
    (empty batch entities : Tensor α).rows = List.replicate batch (List.replicate entities []) := by
  have dims := (empty batch entities : Tensor α).rows_dims
  rw [List.eq_replicate_iff]
  refine ⟨dims.count, fun row hrow => ?_⟩
  have shape := dims.each row hrow
  exact List.eq_replicate_iff.2
    ⟨shape.count, fun x hx => List.length_eq_zero_iff.1 (shape.each x hx)⟩

theorem joinChannels_rows {parts : List (Tensor α)} {specs : List (Nat × (Nat → β → List α))}
    (h : Parts batch xs parts specs) :
    joinChannels batch xs.length parts =
      (List.range batch).map fun b => xs.map fun x => specs.flatMap fun spec => spec.2 b x := by
  induction h with
  | nil => simp [joinChannels, List.map_const']
  | cons first _ ih =>
    rw [joinChannels, ih, first.rows_eq, List.zipWith_map, List.zipWith_self]
    refine List.map_congr_left fun b _ => ?_
    rw [List.zipWith_map, List.zipWith_self]
    rfl

/-- The channels of several tensors of the same entities stand behind each other. -/
theorem concat_tabulates {parts : List (Tensor α)} {specs : List (Nat × (Nat → β → List α))}
    (h : Parts batch xs parts specs) :
    ∃ result, concat batch xs.length parts = .ok result ∧
      result.Tabulates batch xs (Size.total (specs.map Prod.fst))
        fun b x => specs.flatMap fun spec => spec.2 b x := by
  have widths : totalChannels parts = Size.total (specs.map Prod.fst) :=
    congrArg Size.total (map_eq_map_of_forall₂ h fun _ _ part => part.channels_eq)
  have joined := joinChannels_rows h
  cases parts with
  | nil =>
    obtain rfl := List.forall₂_nil_left_iff.1 h
    exact ⟨_, rfl, rfl, rfl, rfl, (empty_rows _ _).trans joined⟩
  | cons part parts =>
    have own : ∀ other ∈ part :: parts, other.batch = batch ∧ other.entities = xs.length := by
      intro other hother
      obtain ⟨spec, -, tabulated⟩ := forall₂_mem_left h hother
      exact ⟨tabulated.batch_eq, tabulated.entities_eq⟩
    obtain ⟨firstBatch, firstEntities⟩ := own part List.mem_cons_self
    rw [← firstBatch, ← firstEntities] at own
    rw [concat, dif_pos own]
    refine ⟨_, rfl, firstBatch, firstEntities, widths, ?_⟩
    rw [rows_build, firstBatch, firstEntities]
    exact joined

theorem rows_of_no_entities (none : tensor.entities = 0) :
    tensor.rows = List.replicate tensor.batch [] := by
  have dims := tensor.rows_dims
  rw [List.eq_replicate_iff]
  refine ⟨dims.count, fun row hrow => ?_⟩
  exact List.length_eq_zero_iff.1 ((dims.each row hrow).count.trans none)

theorem joinEntities_rows {parts : List (Tensor α)} {families : List (List β)}
    (h : List.Forall₂ (fun part xs => part.Tabulates batch xs channels value) parts families) :
    joinEntities batch parts = (List.range batch).map fun b => families.flatten.map (value b) := by
  induction h with
  | nil => simp [joinEntities, List.map_const']
  | cons first _ ih =>
    rw [joinEntities, ih, first.rows_eq, List.zipWith_map, List.zipWith_self]
    refine List.map_congr_left fun b _ => ?_
    rw [List.flatten_cons, List.map_append]

/-- The entities of several tensors of the same channels stand behind each other. -/
theorem stack_tabulates {parts : List (Tensor α)} {families : List (List β)}
    (h : List.Forall₂ (fun part xs => part.Tabulates batch xs channels value) parts families) :
    ∃ result, stack batch channels parts = .ok result ∧
      result.Tabulates batch families.flatten channels value := by
  have sizes : totalEntities parts = families.flatten.length := by
    rw [List.length_flatten]
    exact congrArg List.sum (map_eq_map_of_forall₂ h fun _ _ part => part.entities_eq)
  have joined := joinEntities_rows h
  cases parts with
  | nil =>
    obtain rfl := List.forall₂_nil_left_iff.1 h
    exact ⟨_, rfl, rfl, rfl, rfl, (rows_of_no_entities rfl).trans joined⟩
  | cons part parts =>
    have own : ∀ other ∈ part :: parts, other.batch = batch ∧ other.channels = channels := by
      intro other hother
      obtain ⟨family, -, tabulated⟩ := forall₂_mem_left h hother
      exact ⟨tabulated.batch_eq, tabulated.channels_eq⟩
    obtain ⟨firstBatch, firstChannels⟩ := own part List.mem_cons_self
    rw [← firstBatch, ← firstChannels] at own
    rw [stack, dif_pos own]
    refine ⟨_, rfl, firstBatch, sizes, firstChannels, ?_⟩
    rw [rows_build, firstBatch]
    exact joined

/-- Only tensors of the same channels can be stacked. -/
theorem channels_of_stack {parts : List (Tensor α)} {result : Tensor α}
    (h : stack batch channels parts = .ok result) {part : Tensor α} (hpart : part ∈ parts) :
    part.channels = result.channels := by
  cases parts with
  | nil => cases hpart
  | cons first rest =>
    rw [stack] at h
    split at h
    · next same =>
      obtain rfl := Except.ok.inj h
      exact (same part hpart).2
    · cases h

end Tensor

/-- A matrix with one row for each row of the batch and one entry for each entity. -/
structure Grid.Tabulates {α β : Type} (grid : Grid α) (batch : Nat) (entities : List β)
    (value : Nat → β → α) : Prop where
  height_eq : grid.height = batch
  width_eq : grid.width = entities.length
  rows_eq : grid.rows = (List.range batch).map fun b => entities.map (value b)

theorem Grid.Tabulates.getElem? {α β : Type} {grid : Grid α} {batch : Nat} {entities : List β}
    {value : Nat → β → α} (h : grid.Tabulates batch entities value) {b i : Nat} {x : β}
    (hb : b < batch) (hi : entities[i]? = some x) :
    (grid.rows[b]?).bind (·[i]?) = some (value b x) := by
  rw [h.rows_eq, List.getElem?_map, List.getElem?_range hb, Option.map_some, Option.bind_some,
    List.getElem?_map, hi, Option.map_some]

namespace WeightBlock

variable {α β : Type} [Scalar α]

/-- What a block makes of the channels of one entity. -/
def image (block : WeightBlock α) (activation : Activation) (entity : List α) : List α :=
  (affine block.w.rows block.outputs block.biases entity).map activation.apply

/-- A block can be applied if it has one bias for each output or one for all of them. -/
def Biased (block : WeightBlock α) : Prop :=
  block.b.length = block.outputs ∨ block.b.length = 1

theorem apply_tabulates {block : WeightBlock α} (name : String) (activation : Activation)
    {input : Tensor α} {batch channels : Nat} {xs : List β} {value : Nat → β → List α}
    (h : input.Tabulates batch xs channels value) (fits : block.inputs = channels)
    (biased : block.Biased) :
    ∃ result, block.apply name activation input = .ok result ∧
      result.Tabulates batch xs block.outputs fun b x => block.image activation (value b x) := by
  have sees : ¬ input.channels ≠ block.inputs := not_not.2 (h.channels_eq.trans fits.symm)
  have added : ¬ (block.b.length ≠ block.outputs ∧ block.b.length ≠ 1) := by
    rcases biased with each | one <;> omega
  unfold apply
  rw [if_neg sees, if_neg added]
  refine ⟨_, rfl, h.batch_eq, h.entities_eq, rfl, ?_⟩
  rw [Tensor.rows_build, h.rows_eq, List.map_map]
  refine List.map_congr_left fun b _ => ?_
  rw [Function.comp_apply, applyRow, List.map_map]
  rfl

theorem fits_of_apply {block : WeightBlock α} {name : String} {activation : Activation}
    {input result : Tensor α} (h : block.apply name activation input = .ok result) :
    block.inputs = input.channels ∧ block.Biased := by
  unfold apply at h
  by_cases sees : input.channels = block.inputs
  · by_cases added : block.b.length ≠ block.outputs ∧ block.b.length ≠ 1
    · rw [if_neg (not_not.2 sees), if_pos added] at h
      cases h
    · refine ⟨sees.symm, ?_⟩
      unfold Biased
      omega
  · rw [if_pos sees] at h
    cases h

end WeightBlock

end SchemaNet
