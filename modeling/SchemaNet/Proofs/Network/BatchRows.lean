import SchemaNet.Proofs.Network.RowByRow
import SchemaNet.Proofs.Network.Splitting
import SchemaNet.Proofs.Network.Totality

/-!
The rows of a batch are evaluated apart from each other. A batch has a result exactly if each of
its rows has one when it is taken alone, and the result stacks these; otherwise it is the first
failing row that is reported. Under the limits of a memory this holds as long as the arrays of
the batch can be held.
-/

namespace SchemaNet
open Memory (bind_eq_ok)

variable {α : Type}

/-! ## The sizes of fewer rows -/

namespace Size

variable {batch entities channels fewer : Nat}

theorem isIndexable_rows (le : fewer ≤ batch) (h : isIndexable [batch, entities, channels]) :
    isIndexable [fewer, entities, channels] := by
  rw [isIndexable_iff] at h ⊢
  have bound : max fewer 1 ≤ max batch 1 := by omega
  exact Nat.le_trans (Nat.mul_le_mul_right _ (Nat.mul_le_mul_right _ bound)) h

theorem isStorable_rows (le : fewer ≤ batch) (h : isStorable [batch, entities, channels]) :
    isStorable [fewer, entities, channels] := by
  rw [isStorable_iff] at h ⊢
  refine ⟨isIndexable_rows le h.1, Nat.le_trans (Nat.mul_le_mul_left _ ?_) h.2⟩
  exact Nat.mul_le_mul_right _ (Nat.mul_le_mul_right _ le)

/-- There is room for one more channel. -/
theorem succ_lt_wordLimit (h : isIndexable [batch, entities, channels]) :
    1 + channels < wordLimit := by
  have below := isIndexable_iff.1 h
  have one : 0 < max batch 1 * max entities 1 :=
    Nat.mul_pos (Nat.le_max_right _ _) (Nat.le_max_right _ _)
  have le := Nat.le_mul_of_pos_left (max channels 1) one
  have limit : greatest + 1 < wordLimit := by decide
  omega

end Size

theorem Problem.Fits.rows {problem : Problem} {weights : Weights α} {batch fewer : Nat}
    (h : problem.Fits weights batch) (le : fewer ≤ batch) : problem.Fits weights fewer where
  initial pred hpred := Size.isIndexable_rows le (h.initial pred hpred)
  modules key hkey :=
    have held := h.modules key hkey
    ⟨Size.isIndexable_rows le held.view, Size.isStorable_rows le held.output,
      fun width hwidth => Size.isStorable_rows le (held.pools width hwidth)⟩

/-! ## Evaluations -/

section Inputs

variable {problem : Problem} {arch : Architecture}

/-- A masked input whose mask has an entry for each action in each row. -/
structure MaskedInput.Sized (input : MaskedInput α) (problem : Problem) (arch : Architecture) :
    Prop where
  unmasked : input.toPolicyInput.Sized problem arch
  mask_dims : input.mask.dims = [input.props.height, problem.numActions]

theorem PolicyInput.Sized.row {input : PolicyInput α} (sized : input.Sized problem arch) (b : Nat) :
    (input.row b).Sized problem arch := by
  obtain ⟨props, extra⟩ := sized
  simp only [Tensor.dims, List.cons.injEq] at extra
  obtain ⟨batch, entities, channels, -⟩ := extra
  refine ⟨props, ?_⟩
  show [min 1 (input.extra.batch - b), input.extra.entities, input.extra.channels] =
    [min 1 (input.props.height - b), problem.numActions, arch.extraDim]
  rw [batch, entities, channels]

theorem MaskedInput.Sized.row {input : MaskedInput α} (sized : input.Sized problem arch) (b : Nat) :
    (input.row b).Sized problem arch := by
  obtain ⟨height, rest⟩ := List.cons.inj sized.mask_dims
  refine ⟨sized.unmasked.row b, ?_⟩
  show [min 1 (input.mask.height - b), input.mask.width] =
    [min 1 (input.props.height - b), problem.numActions]
  rw [height, (List.cons.inj rest).1]

/-- A row says the same of every entity when it is taken alone. -/
theorem PolicyInput.reading_row [Scalar α] (input : PolicyInput α) (problem : Problem) (b : Nat) :
    (input.row b).reading problem 0 = input.reading problem b := by
  unfold PolicyInput.reading PolicyInput.row
  simp only [Grid.rows_row, Tensor.rows_row, getD_take_drop]

end Inputs

namespace PolicyNetwork

variable [Scalar α] {net : PolicyNetwork α} {weights : Weights α}

theorem logits_row {input : PolicyInput α} {scores : Grid α}
    (h : net.logits weights input = .ok scores) {b : Nat} (inside : b < input.props.height) :
    net.logits weights (input.row b) = .ok (scores.row b) := by
  obtain ⟨sized, fits, coherent⟩ := exists_logits_iff.1 ⟨scores, h⟩
  obtain ⟨single, alone⟩ := exists_logits_iff.2 ⟨sized.row b, fits, coherent⟩
  have whole := logits_tabulate h
  have part := logits_tabulate alone
  have height : scores.height = input.props.height := whole.height_eq
  have one : (input.row b).props.height = 1 := Grid.height_row inside
  rw [alone]
  refine congrArg _ (Grid.ext_rows ?_ ?_)
  · rw [Grid.dims, Grid.dims, Grid.height_row (height ▸ inside), part.height_eq, one, part.width_eq]
    exact congrArg (fun width => [1, width]) whole.width_eq.symm
  · have own : scores.rows[b]? = some (net.problem.actions.map fun action =>
        Relational.score net.problem net.config weights (input.reading net.problem b) action) := by
      rw [whole.rows_eq, List.getElem?_map, List.getElem?_range inside, Option.map_some]
    rw [Grid.rows_row, take_drop_eq_singleton own, part.rows_eq, one, List.range_one,
      List.map_singleton, PolicyInput.reading_row]

omit [Scalar α] in
theorem checkMasked_eq_ok {input : MaskedInput α} :
    net.checkMasked input = .ok () ↔ input.Sized net.problem net.arch := by
  rw [checkMasked, check_bind_eq_ok, checkInput_eq_ok, checkDims_eq_ok]
  exact ⟨fun h => ⟨h.1, h.2.symm⟩, fun h => ⟨h.1, h.2.symm⟩⟩

/-- The probabilities are those of the scores. -/
theorem forward_eq_softmax {input : MaskedInput α} (sized : input.Sized net.problem net.arch)
    {scores : Grid α} (h : net.logits weights input.toPolicyInput = .ok scores) :
    net.forward weights input = maskedSoftmax scores input.mask := by
  obtain ⟨_, -, h⟩ := bind_eq_ok.1 h
  obtain ⟨evaluation, ran, same⟩ := bind_eq_ok.1 h
  obtain rfl := Except.ok.inj same
  rw [forward, checkMasked_eq_ok.2 sized, ok_bind, ran, ok_bind]

theorem forward_rowByRow {input : MaskedInput α} (sized : input.Sized net.problem net.arch)
    {scores : Grid α} (h : net.logits weights input.toPolicyInput = .ok scores) :
    RowByRow input.props.height (net.forward weights input) fun b =>
      net.forward weights (input.row b) := by
  have tabulated := logits_tabulate h
  have dims : scores.dims = input.mask.dims := by
    rw [sized.mask_dims, Grid.dims, tabulated.height_eq, tabulated.width_eq]
    rfl
  have rows := maskedSoftmax_rowByRow dims
  rw [tabulated.height_eq] at rows
  exact rows.congr (forward_eq_softmax sized h) fun b hb =>
    forward_eq_softmax (sized.row b) (logits_row h hb)

theorem memory_forward {input : MaskedInput α} (sized : input.Sized net.problem net.arch)
    (fits : net.Matches weights) :
    (Memory.forward net weights input).outcome.1 =
      net.checkSizes input.props.height >>= fun _ => net.forward weights input := by
  have ran : (Memory.forward net weights input).outcome.1 = _ := Logged.ofExcept_bind
  rw [ran, checkMasked_eq_ok.2 sized, checkWeights_eq_ok.2 fits]
  rfl

end PolicyNetwork

/-! ## Flat inputs -/

namespace InputLayout

variable {layout : InputLayout} {flat : Grid α} {parts : MaskedInput α}

end InputLayout

namespace PolicyNetwork

variable {net : PolicyNetwork α}

theorem split_sized {flat : Grid α} {parts : MaskedInput α}
    (h : net.layout.split flat = .ok parts) : parts.Sized net.problem net.arch ∧
      parts.props.height = flat.height := by
  obtain ⟨-, cut⟩ := InputLayout.split_eq_ok_iff.1 h
  obtain ⟨height, rest⟩ := List.cons.inj cut.props_dims
  exact ⟨⟨⟨(List.cons.inj rest).1, height ▸ cut.extra_dims⟩, height ▸ cut.mask_dims⟩, height⟩

/-- The checks before a flat input is evaluated. -/
def checkFlat (net : PolicyNetwork α) (flat : Grid α) : Except (NetworkError α) Unit := do
  let _ ← Size.word (1 + net.arch.extraDim)
  Memory.checkShaped [flat.height, net.problem.numActions, net.arch.extraDim]
  net.checkSizes flat.height

variable {weights : Weights α} {problem : Problem} {arch : Architecture}

/-- The tensors of an evaluation and the features that a flat input is cut into can be held. -/
structure FlatFits (problem : Problem) (weights : Weights α) (batch : Nat) : Prop where
  tensors : problem.Fits weights batch
  features : Size.isIndexable [batch, problem.numActions, weights.arch.extraDim]

theorem checkFlat_eq_ok (fits : net.Matches weights) (shaped : weights.WellShaped)
    {flat : Grid α} : net.checkFlat flat = .ok () ↔ FlatFits net.problem weights flat.height := by
  have features : (Memory.checkShaped [flat.height, net.problem.numActions, net.arch.extraDim] :
      Except (NetworkError α) Unit) = .ok () ↔
        Size.isIndexable [flat.height, net.problem.numActions, weights.arch.extraDim] := by
    rw [fits.arch_eq, Memory.checkShaped_eq_ok]
  rw [checkFlat, bind_eq_ok]
  simp only [check_bind_eq_ok, features, checkSizes_eq_ok fits shaped, Size.word_eq_ok]
  constructor
  · rintro ⟨_, -, h, h'⟩
    exact ⟨h', h⟩
  · rintro ⟨h', h⟩
    exact ⟨_, ⟨fits.arch_eq ▸ Size.succ_lt_wordLimit h, rfl⟩, h, h'⟩

variable [Scalar α]

theorem forwardFlat_eq {flat : Grid α} {parts : MaskedInput α}
    (h : net.layout.split flat = .ok parts) :
    net.forwardFlat weights flat = net.forward weights parts := by
  rw [forwardFlat, h, ok_bind]

theorem memory_forwardFlat (fits : net.Matches weights) {flat : Grid α} {parts : MaskedInput α}
    (h : net.layout.split flat = .ok parts) :
    (Memory.forwardFlat net weights flat).outcome.1 =
      net.checkFlat flat >>= fun _ => net.forwardFlat weights flat := by
  obtain ⟨sized, height⟩ := split_sized h
  have features : parts.extra.dims = [flat.height, net.problem.numActions, net.arch.extraDim] :=
    (InputLayout.split_eq_ok_iff.1 h).2.extra_dims
  have split : (Memory.split net.layout flat : Except (NetworkError α) _) =
      (do
        let _ ← Size.word (1 + net.arch.extraDim)
        Memory.checkShaped [flat.height, net.problem.numActions, net.arch.extraDim]
        return parts) := by
    rw [Memory.split, h, ok_bind, features]
    rfl
  have evaluated := memory_forward sized fits
  rw [height, ← forwardFlat_eq h] at evaluated
  rw [Memory.forwardFlat, Logged.bind_outcome, split, checkFlat]
  cases Size.word (α := α) (1 + net.arch.extraDim) with
  | error fault => rfl
  | ok _ =>
    cases Memory.checkShaped (α := α)
        [flat.height, net.problem.numActions, net.arch.extraDim] with
    | error fault => rfl
    | ok _ => exact evaluated

end PolicyNetwork

namespace WalkDomain

end WalkDomain

namespace HugeBatch

theorem problem_fits : problem.Fits weights 1 where
  initial := by decide
  modules key hkey := by
    have view : ∀ key ∈ weights.keys,
        Size.isIndexable [1, problem.numEntities key, weights.viewWidth key] := by decide
    have output : ∀ key ∈ weights.keys,
        Size.isStorable [1, problem.numEntities key, weights.outputsOf key] := by decide
    have pools : ∀ key ∈ weights.keys, ∀ width ∈ weights.poolWidths key,
        Size.isStorable [1, problem.numEntities key, width] := by decide
    exact ⟨view key hkey, output key hkey, pools key hkey⟩

end HugeBatch

end SchemaNet
