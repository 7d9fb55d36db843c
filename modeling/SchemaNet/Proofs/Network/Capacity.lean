import SchemaNet.Network.Footprint
import SchemaNet.Proofs.Network.Evaluation

/-!
What the limits of a memory mean for an evaluation. The checks before it look at one tensor
after the other, in the order in which they are needed; together they say that the view and
the output of every module can be held, and all that they ever report is a size.
-/

namespace SchemaNet
open Memory (bind_eq_ok)

namespace Size

variable {batch entities channels fewer : Nat}

/-- Leaving out an empty dimension is to count it as one. -/
theorem extent_eq (dims : List Nat) : extent dims = product (dims.map (max · 1)) := by
  have step : ∀ start : Nat, (dims.filter (· ≠ 0)).foldl (· * ·) start =
      (dims.map (max · 1)).foldl (· * ·) start := by
    induction dims with
    | nil => exact fun _ => rfl
    | cons n rest ih =>
      intro start
      cases n with
      | zero => simpa using ih start
      | succ n => simpa using ih (start * (n + 1))
  exact step 1

theorem isIndexable_iff : isIndexable [batch, entities, channels] ↔
    max batch 1 * max entities 1 * max channels 1 ≤ greatest := by
  simp [isIndexable, extent_eq, product]

theorem isStorable_iff : isStorable [batch, entities, channels] ↔
    isIndexable [batch, entities, channels] ∧
      entryBytes * (batch * entities * channels) ≤ greatest := by
  simp [isStorable, product]

theorem isIndexable_mono (le : fewer ≤ channels) (h : isIndexable [batch, entities, channels]) :
    isIndexable [batch, entities, fewer] := by
  rw [isIndexable_iff] at h ⊢
  have bound : max fewer 1 ≤ max channels 1 := by omega
  exact Nat.le_trans (Nat.mul_le_mul_left _ bound) h

theorem isIndexable_pair : isIndexable [batch, entities] ↔ isIndexable [batch, entities, 0] := by
  simp [isIndexable, extent_eq, product]

/-- What can be numbered has a number of channels that is a word. -/
theorem lt_wordLimit (h : isIndexable [batch, entities, channels]) : channels < wordLimit := by
  rw [isIndexable_iff] at h
  have one : 0 < max batch 1 * max entities 1 :=
    Nat.mul_pos (Nat.le_max_right _ _) (Nat.le_max_right _ _)
  have le : max channels 1 ≤ max batch 1 * max entities 1 * max channels 1 :=
    Nat.le_mul_of_pos_left _ one
  have below : greatest < wordLimit := by decide
  omega

/-- A matrix with a row for each entity is held if a tensor with these entities is. -/
theorem isStorable_matrix (h : isStorable [batch, entities, channels]) :
    isStorable [batch * entities, channels] := by
  obtain ⟨indexable, bytes⟩ := isStorable_iff.1 h
  rw [isIndexable_iff] at indexable
  have rows : max (batch * entities) 1 ≤ max batch 1 * max entities 1 :=
    Nat.max_le.2 ⟨Nat.mul_le_mul (Nat.le_max_left _ _) (Nat.le_max_left _ _),
      Nat.mul_pos (Nat.le_max_right _ _) (Nat.le_max_right _ _)⟩
  have fits : max (batch * entities) 1 * max channels 1 ≤ greatest :=
    Nat.le_trans (Nat.mul_le_mul_right _ rows) indexable
  simp [isStorable, isIndexable, extent_eq, product, fits, bytes]

/-- The sizes of a matrix that is held have a sum that is a word. -/
theorem add_lt_wordLimit {inputs outputs : Nat} (held : isStorable [inputs, outputs]) :
    inputs + outputs < wordLimit := by
  have bound : max inputs 1 * max outputs 1 ≤ greatest := by
    simpa [isIndexable, extent_eq, product] using (Bool.and_eq_true_iff.1 held).1
  have first : inputs ≤ max inputs 1 * max outputs 1 :=
    Nat.le_trans (Nat.le_max_left _ _) (Nat.le_mul_of_pos_right _ (Nat.le_max_right _ _))
  have second : outputs ≤ max inputs 1 * max outputs 1 :=
    Nat.le_trans (Nat.le_max_left _ _) (Nat.le_mul_of_pos_left _ (Nat.le_max_right _ _))
  have half : greatest + greatest < wordLimit := by decide
  omega

end Size

/-! ## The checks -/

theorem Logged.ofExcept_bind {ε β γ : Type} {first : Except ε β} {events : β → List Event}
    {next : β → Except ε γ} :
    (Logged.ofExcept first events >>= fun value => Logged.ofExcept (next value)).outcome.1 =
      first >>= next := by
  rw [Logged.bind_outcome]
  cases first with
  | error fault => rfl
  | ok value => exact Logged.ofExcept_run _ _ _

namespace Memory

variable {α : Type} {batch entities channels outputs : Nat} {widths : List Nat}

theorem checkGather_eq_ok :
    (checkGather batch entities channels : Except (NetworkError α) Unit) = .ok () ↔
      Size.isIndexable [batch, entities, channels] :=
  Size.require_eq_ok

theorem checkPools_eq_ok :
    (checkPools batch entities channels : Except (NetworkError α) Unit) = .ok () ↔
      Size.isStorable [batch, entities, channels] :=
  Size.require_eq_ok

theorem checkConcat_eq_ok :
    (checkConcat batch entities widths : Except (NetworkError α) Unit) = .ok () ↔
      Size.isIndexable [batch, entities, Size.total widths] := by
  have counted : (Size.word (Size.total widths) >>= fun channels =>
        if !Size.isIndexable [batch, entities, channels] then .error .tooLarge else .ok () :
        Except (NetworkError α) Unit) = .ok () ↔
      Size.isIndexable [batch, entities, Size.total widths] := by
    rw [bind_eq_ok]
    constructor
    · rintro ⟨channels, word, h⟩
      obtain ⟨-, rfl⟩ := Size.word_eq_ok.1 word
      by_contra beyond
      rw [if_pos (by simpa using beyond)] at h
      cases h
    · intro fits
      refine ⟨_, Size.word_eq_ok.2 ⟨Size.lt_wordLimit fits, rfl⟩, ?_⟩
      rw [if_neg (by simp [fits])]
  cases widths with
  | nil =>
    have first : (Size.require (Size.isIndexable [batch, entities]) :
        Except (NetworkError α) Unit) = .ok () ↔
          Size.isIndexable [batch, entities, Size.total []] :=
      Size.require_eq_ok.trans Size.isIndexable_pair
    refine bind_eq_ok.trans ⟨fun ⟨_, h, _⟩ => first.1 h, fun h => ⟨(), first.2 h, counted.2 h⟩⟩
  | cons width rest => exact counted

theorem checkShaped_eq_ok {dims : List Nat} :
    (checkShaped dims : Except (NetworkError α) Unit) = .ok () ↔ Size.isIndexable dims := by
  unfold checkShaped
  split
  · next fits => simp [fits]
  · next beyond => simp [beyond]

/-- The outputs of a module fit as a matrix and as a tensor. -/
theorem checkOutputs_eq_ok :
    ((checkProduct (batch * entities) outputs : Except (NetworkError α) Unit) = .ok () ∧
      (checkShaped [batch, entities, outputs] : Except (NetworkError α) Unit) = .ok ()) ↔
      Size.isStorable [batch, entities, outputs] := by
  rw [checkProduct, Size.require_eq_ok, checkShaped_eq_ok]
  constructor
  · rintro ⟨matrix, indexable⟩
    refine Size.isStorable_iff.2 ⟨indexable, ?_⟩
    rw [Size.isStorable, Bool.and_eq_true, decide_eq_true_eq] at matrix
    simpa [Size.product] using matrix.2
  · exact fun h => ⟨Size.isStorable_matrix h, (Size.isStorable_iff.1 h).1⟩

theorem checkBlock_eq_ok {inputs outputs : Nat} :
    (checkBlock inputs outputs : Except (NetworkError α) Unit) = .ok () ↔
      Size.isStorable [inputs, outputs] ∧ Size.isStorable [outputs] := by
  rw [checkBlock, Size.require_eq_ok, Bool.and_eq_true]

end Memory

variable {α : Type}

/-- The channels of the pools that the module of a key sees. -/
def Weights.poolWidths (weights : Weights α) (key : BlockKey) : List Nat :=
  match key.kind with
  | .action _ => []
  | .predicate id =>
    (weights.domain.actionSlots id).map fun slot =>
      weights.outputsOf (.action key.layer slot.schema)

namespace Problem

/-- The tensors of one module: the positions of its view can be numbered, its output and its
pools can be stored. -/
structure Holds (problem : Problem) (weights : Weights α) (batch : Nat) (key : BlockKey) :
    Prop where
  view : Size.isIndexable [batch, problem.numEntities key, weights.viewWidth key]
  output : Size.isStorable [batch, problem.numEntities key, weights.outputsOf key]
  pools : ∀ width ∈ weights.poolWidths key, Size.isStorable [batch, problem.numEntities key, width]

/-- The tensors of an evaluation: the truth and the goal flags of the propositions, and those of
every module. -/
structure Fits (problem : Problem) (weights : Weights α) (batch : Nat) : Prop where
  initial : ∀ pred < problem.domain.numPredicates,
    Size.isIndexable [batch, (problem.propsOf pred).length, 2]
  modules : ∀ key ∈ weights.keys, problem.Holds weights batch key

end Problem

namespace PolicyNetwork

variable {net : PolicyNetwork α} {weights : Weights α} {problem : Problem}
  {batch layer props acts outputs s pred : Nat} {own ownActs ownProps : List Nat}

theorem ofSchema_length (problem : Problem) (s : SchemaId) :
    (Wiring.ofSchema problem s).actions.length = (problem.instances s).length :=
  (problem.picks_schemaActions s).length_eq

theorem ofPredicate_length (problem : Problem) (pred : PredId) :
    (Wiring.ofPredicate problem pred).props.length = (problem.propsOf pred).length := by
  rw [Wiring.ofPredicate, List.length_map, (problem.picks_predicateProps pred).length_eq]

theorem checkActions_eq_ok :
    (checkActions batch props outputs own (Wiring.ofSchema problem s) :
      Except (NetworkError α) Unit) = .ok () ↔
      Size.isIndexable [batch, (problem.instances s).length,
        Size.total ((problem.domain.relevantPredicates s).map fun _ => props) + Size.total own] ∧
      Size.isStorable [batch, (problem.instances s).length, outputs] := by
  have widths : (Wiring.ofSchema problem s).slots.map (fun _ => props) =
      (problem.domain.relevantPredicates s).map fun _ => props := by
    rw [List.map_const', List.map_const', Wiring.ofSchema, List.length_map, List.length_zipIdx]
  simp only [checkActions, check_bind_eq_ok, forM_eq_ok, Memory.checkGather_eq_ok,
    Memory.checkConcat_eq_ok, Memory.checkOutputs_eq_ok, ofSchema_length, widths, Size.total_append]
  refine ⟨And.right, fun h => ⟨fun slot hslot => ?_, h⟩⟩
  -- what is gathered for one slot is a part of the view
  have part : props ≤ Size.total ((problem.domain.relevantPredicates s).map fun _ => props) := by
    rw [← widths, total_map_of_eq fun _ _ => rfl]
    exact Nat.le_mul_of_pos_left _ (List.length_pos_of_mem hslot)
  obtain ⟨⟨pred, k⟩, -, rfl⟩ := List.mem_map.1 hslot
  have entities : (problem.gatherIndices s k).length = (problem.instances s).length := by
    rw [Problem.gatherIndices, List.length_map, (problem.picks_schemaActions s).length_eq]
  rw [entities]
  exact Size.isIndexable_mono (Nat.le_add_right_of_le part) h.1

theorem checkProps_eq_ok :
    (checkProps batch acts outputs own (Wiring.ofPredicate problem pred) :
      Except (NetworkError α) Unit) = .ok () ↔
      (∀ slot ∈ problem.domain.actionSlots pred,
        Size.isStorable [batch, (problem.propsOf pred).length, acts]) ∧
      Size.isIndexable [batch, (problem.propsOf pred).length,
        Size.total ((problem.domain.actionSlots pred).map fun _ => acts) + Size.total own] ∧
      Size.isStorable [batch, (problem.propsOf pred).length, outputs] := by
  have widths : (Wiring.ofPredicate problem pred).slots.map (fun _ => acts) =
      (problem.domain.actionSlots pred).map fun _ => acts := by
    rw [List.map_const', List.map_const', Wiring.ofPredicate, List.length_map, List.length_zipIdx]
  have pools : (∀ slot ∈ (Wiring.ofPredicate problem pred).slots,
        Size.isStorable [batch, slot.pools.length, acts]) ↔
      ∀ slot ∈ problem.domain.actionSlots pred,
        Size.isStorable [batch, (problem.propsOf pred).length, acts] := by
    have each : ∀ j, (problem.poolIndices pred j).length = (problem.propsOf pred).length := by
      intro j
      rw [← (problem.picks_predicateProps pred).length_eq, Problem.poolIndices]
      split <;> exact List.length_map _
    conv_rhs => rw [← List.zipIdx_map_fst 0 (problem.domain.actionSlots pred)]
    simp only [Wiring.ofPredicate, List.forall_mem_map, each]
  simp only [checkProps, check_bind_eq_ok, forM_eq_ok, Memory.checkPools_eq_ok,
    Memory.checkConcat_eq_ok, Memory.checkOutputs_eq_ok, ofPredicate_length, widths,
    Size.total_append, pools]

theorem forM_actions {check : ActionWiring → Except (NetworkError α) Unit} :
    net.wiring.actions.forM check = .ok () ↔
      ∀ s < net.problem.domain.numSchemas, check (Wiring.ofSchema net.problem s) = .ok () := by
  rw [forM_eq_ok, net.wiring_eq]
  simp only [Wiring.ofProblem, List.forall_mem_map, List.mem_range]

theorem forM_props {check : PropWiring → Except (NetworkError α) Unit} :
    net.wiring.props.forM check = .ok () ↔
      ∀ pred < net.problem.domain.numPredicates,
        check (Wiring.ofPredicate net.problem pred) = .ok () := by
  rw [forM_eq_ok, net.wiring_eq]
  simp only [Wiring.ofProblem, List.forall_mem_map, List.mem_range]

/-- The widths with which the checks of a layer are made are those that its modules see. -/
structure Seen (weights : Weights α) (layer props : Nat) (ownActs ownProps : List Nat) : Prop where
  props : ∀ pred < weights.domain.numPredicates, weights.propsBefore layer pred = props
  acts : ∀ s < weights.domain.numSchemas, Size.total ownActs =
    (if layer = 0 then weights.arch.extraDim else 0)
      + if 0 < layer ∧ weights.arch.skip then weights.actsBefore layer s else 0
  own : ∀ pred < weights.domain.numPredicates, Size.total ownProps =
    if 0 < layer ∧ weights.arch.skip then weights.propsBefore layer pred else 0

theorem holds_action (fits : net.Matches weights) (seen : Seen weights layer props ownActs ownProps)
    (inside : s < net.problem.domain.numSchemas)
    (own : weights.outputsOf (.action layer s) = outputs) :
    net.problem.Holds weights batch (.action layer s) ↔
      (checkActions batch props outputs ownActs (Wiring.ofSchema net.problem s) :
        Except (NetworkError α) Unit) = .ok () := by
  rw [← fits.domain_eq] at inside
  have width : weights.viewWidth (.action layer s) =
      Size.total ((net.problem.domain.relevantPredicates s).map fun _ => props)
        + Size.total ownActs := by
    have parts : (weights.domain.relevantPredicates s).map (weights.propsBefore layer) =
        (weights.domain.relevantPredicates s).map fun _ => props :=
      List.map_congr_left fun pred hpred =>
        seen.props pred (Weights.relevantPredicates_lt inside hpred)
    rw [seen.acts s inside, ← fits.domain_eq, ← parts, ← Nat.add_assoc]
    rfl
  rw [checkActions_eq_ok, ← width, ← own]
  exact ⟨fun h => ⟨h.view, h.output⟩, fun h => ⟨h.1, h.2, fun _ h => nomatch h⟩⟩

theorem holds_predicate (fits : net.Matches weights)
    (seen : Seen weights layer props ownActs ownProps)
    (inside : pred < net.problem.domain.numPredicates)
    (before : ∀ s < weights.domain.numSchemas, weights.outputsOf (.action layer s) = acts)
    (own : weights.outputsOf (.predicate layer pred) = outputs) :
    net.problem.Holds weights batch (.predicate layer pred) ↔
      (checkProps batch acts outputs ownProps (Wiring.ofPredicate net.problem pred) :
        Except (NetworkError α) Unit) = .ok () := by
  rw [← fits.domain_eq] at inside
  have pools : weights.poolWidths (.predicate layer pred) =
      (net.problem.domain.actionSlots pred).map fun _ => acts := by
    rw [← fits.domain_eq]
    exact List.map_congr_left fun slot hslot => before _ (Weights.actionSlots_lt hslot)
  have width : weights.viewWidth (.predicate layer pred) =
      Size.total ((net.problem.domain.actionSlots pred).map fun _ => acts)
        + Size.total ownProps := by
    rw [seen.own pred inside, ← pools]
    rfl
  rw [checkProps_eq_ok, ← width, ← own]
  constructor
  · refine fun h => ⟨fun slot hslot => h.pools acts ?_, h.view, h.output⟩
    rw [pools]
    exact List.mem_map_of_mem hslot
  · refine fun h => ⟨h.2.1, h.2.2, fun width hwidth => ?_⟩
    rw [pools] at hwidth
    obtain ⟨slot, hslot, rfl⟩ := List.mem_map.1 hwidth
    exact h.1 slot hslot

theorem seen_zero (weights : Weights α) : Seen weights 0 initialWidth
    (if 0 < weights.arch.extraDim then [weights.arch.extraDim] else []) [] := by
  refine ⟨fun _ _ => rfl, fun _ _ => ?_, fun _ _ => rfl⟩
  split
  · rfl
  · next none => simpa using (Nat.eq_zero_of_not_pos none).symm

theorem seen_succ (fits : net.Matches weights) {sizes : LayerSizes}
    (acts : ∀ s < weights.domain.numSchemas, weights.outputsOf (.action layer s) = sizes.act)
    (props : ∀ pred < weights.domain.numPredicates,
      weights.outputsOf (.predicate layer pred) = sizes.prop) :
    Seen weights (layer + 1) sizes.prop (net.ownWidths sizes.act) (net.ownWidths sizes.prop) := by
  have total : ∀ width,
      Size.total (net.ownWidths width) = if weights.arch.skip then width else 0 := by
    intro width
    rw [ownWidths, fits.arch_eq]
    split <;> rfl
  refine ⟨props, fun s hs => ?_, fun pred hpred => ?_⟩
  · simp [total, Weights.actsBefore, acts s hs]
  · simp [total, Weights.propsBefore, props pred hpred]

/-- The checks of the layers from one number on pass if the modules with these keys can be held. -/
theorem checkLayers_eq_ok (fits : net.Matches weights) (shaped : weights.WellShaped)
    {hidden : List LayerSizes} (rest : weights.arch.hidden.drop layer = hidden)
    (final : layer + hidden.length = weights.arch.final)
    (seen : Seen weights layer props ownActs ownProps) :
    net.checkLayers batch props ownActs ownProps hidden = .ok () ↔
      ∀ key ∈ keysFrom weights layer (hidden.length + 1), net.problem.Holds weights batch key := by
  induction hidden generalizing layer props ownActs ownProps with
  | nil =>
    obtain rfl : layer = weights.arch.final := by simpa using final
    rw [checkLayers, forM_actions, List.length_nil, forall_finalLayer fits]
    refine forall₂_congr fun s hs => (holds_action fits seen hs ?_).symm
    exact shaped.outputsOf_final (fits.domain_eq ▸ hs)
  | cons sizes rest' ih =>
    have inside : layer < weights.arch.final := by
      rw [← final, List.length_cons]
      omega
    have hsizes : weights.arch.hidden[layer]? = some sizes := by
      rw [← Nat.add_zero layer, ← List.getElem?_drop, rest]
      rfl
    have acts : ∀ s < weights.domain.numSchemas, weights.outputsOf (.action layer s) = sizes.act :=
      fun _ hs => shaped.outputsOf_action hsizes hs
    have props' : ∀ pred < weights.domain.numPredicates,
        weights.outputsOf (.predicate layer pred) = sizes.prop :=
      fun _ hpred => shaped.outputsOf_predicate hsizes hpred
    have next : weights.arch.hidden.drop (layer + 1) = rest' := by
      rw [← List.tail_drop, rest]
      rfl
    rw [checkLayers, check_bind_eq_ok, check_bind_eq_ok, forM_actions, forM_props,
      ih next (by rw [← final, List.length_cons]; omega) (seen_succ fits acts props'),
      List.length_cons, keysFrom_succ weights layer, List.forall_mem_append,
      forall_hiddenLayer fits inside, and_assoc]
    refine and_congr (forall₂_congr fun s hs => (holds_action fits seen hs ?_).symm)
      (and_congr_left' (forall₂_congr fun pred hpred =>
        (holds_predicate fits seen hpred acts ?_).symm))
    · exact acts s (fits.domain_eq ▸ hs)
    · exact props' pred (fits.domain_eq ▸ hpred)

/-- The checks before an evaluation pass exactly if all its tensors can be held. -/
theorem checkSizes_eq_ok (fits : net.Matches weights) (shaped : weights.WellShaped) :
    net.checkSizes batch = .ok () ↔ net.problem.Fits weights batch := by
  have layers : net.checkLayers batch initialWidth
        (if 0 < net.arch.extraDim then [net.arch.extraDim] else []) [] net.arch.hidden = .ok () ↔
      ∀ key ∈ weights.keys, net.problem.Holds weights batch key := by
    rw [← fits.arch_eq, ← keysFrom_zero]
    exact checkLayers_eq_ok fits shaped rfl (Nat.zero_add _) (seen_zero weights)
  have described : (∀ key ∈ weights.keys, net.problem.Holds weights batch key) →
      ∀ s < net.problem.domain.numSchemas,
        Size.isIndexable [batch, (net.problem.instances s).length, net.arch.extraDim] := by
    intro holds s hs
    have view := (holds _ (BlockKey.action_mem_all.2 ⟨Nat.zero_le _, fits.domain_eq ▸ hs⟩)).view
    refine Size.isIndexable_mono ?_ view
    simp only [Weights.viewWidth, BlockKey.action, fits.arch_eq, if_true]
    omega
  simp only [checkSizes, check_bind_eq_ok, forM_props, forM_actions, Memory.checkGather_eq_ok,
    layers, ofSchema_length, ofPredicate_length]
  exact ⟨fun h => ⟨h.1, h.2.2⟩, fun h => ⟨h.initial, described h.modules, h.modules⟩⟩

/-- The checks look at the numbers of the entities only. -/
theorem checkSizes_congr {other : PolicyNetwork α}
    (domain : other.problem.domain = net.problem.domain) (arch : other.arch = net.arch)
    (instances : ∀ s, (other.problem.instances s).length = (net.problem.instances s).length)
    (listed : ∀ pred, (other.problem.propsOf pred).length = (net.problem.propsOf pred).length) :
    other.checkSizes batch = .ok () ↔ net.checkSizes batch = .ok () := by
  have layers : ∀ (hidden : List LayerSizes) props ownActs ownProps,
      other.checkLayers batch props ownActs ownProps hidden = .ok () ↔
        net.checkLayers batch props ownActs ownProps hidden = .ok () := by
    intro hidden
    induction hidden with
    | nil =>
      intro props ownActs ownProps
      simp only [checkLayers, forM_actions, checkActions_eq_ok, domain, instances]
    | cons sizes rest ih =>
      intro props ownActs ownProps
      simp only [checkLayers, check_bind_eq_ok, forM_actions, forM_props, checkActions_eq_ok,
        checkProps_eq_ok, domain, instances, listed, ih, ownWidths, arch]
  simp only [checkSizes, check_bind_eq_ok, forM_props, forM_actions, Memory.checkGather_eq_ok,
    layers, domain, arch, ofSchema_length, ofPredicate_length, instances, listed]

/-- For the right sizes and weights the checks of the tensors are all that is left to fail. -/
theorem memory_logits [Scalar α] {input : PolicyInput α} (sized : input.Sized net.problem net.arch)
    (fits : net.Matches weights) :
    (Memory.logits net weights input).outcome.1 =
      net.checkSizes input.props.height >>= fun _ => net.logits weights input := by
  have ran : (Memory.logits net weights input).outcome.1 = _ := Logged.ofExcept_bind
  rw [ran, checkInput_eq_ok.2 sized, checkWeights_eq_ok.2 fits]
  rfl

end PolicyNetwork

/-! ## What the checks report -/

/-- A fault of a size: a result that cannot be shaped or numbered, or that no memory can hold. -/
def NetworkError.ofSize : NetworkError α → Bool
  | .tooLarge | .incompatibleShapes | .outOfRange => true
  | _ => false

/-- A check that reports nothing but sizes. -/
def OnlySizes {β : Type} (check : Except (NetworkError α) β) : Prop :=
  ∀ fault, check = .error fault → fault.ofSize

namespace OnlySizes

variable {β γ : Type}

theorem ok (value : β) : OnlySizes (.ok value : Except (NetworkError α) β) :=
  fun _ h => nomatch h

theorem error {fault : NetworkError α} (h : fault.ofSize) :
    OnlySizes (.error fault : Except (NetworkError α) β) := by
  intro other same
  obtain rfl := Except.error.inj same
  exact h

theorem bind {check : Except (NetworkError α) β} {next : β → Except (NetworkError α) γ}
    (h : OnlySizes check) (later : ∀ value, OnlySizes (next value)) :
    OnlySizes (check >>= next) := by
  cases check with
  | ok value => exact later value
  | error fault =>
    intro other same
    obtain rfl := Except.error.inj same
    exact h _ rfl

theorem forM {check : β → Except (NetworkError α) Unit} {xs : List β}
    (h : ∀ x, OnlySizes (check x)) : OnlySizes (xs.forM check) := by
  induction xs with
  | nil => exact .ok ()
  | cons x rest ih => exact .bind (h x) fun _ => ih

theorem require (possible : Bool) :
    OnlySizes (Size.require possible : Except (NetworkError α) Unit) := by
  cases possible
  · exact .error rfl
  · exact .ok ()

theorem word (size : Nat) : OnlySizes (Size.word size : Except (NetworkError α) Nat) := by
  unfold Size.word
  split
  · exact .ok _
  · exact .error rfl

theorem checkShaped (dims : List Nat) :
    OnlySizes (Memory.checkShaped dims : Except (NetworkError α) Unit) := by
  unfold Memory.checkShaped
  split
  · exact .ok ()
  · exact .error rfl

theorem checkConcat (batch entities : Nat) (widths : List Nat) :
    OnlySizes (Memory.checkConcat batch entities widths : Except (NetworkError α) Unit) := by
  have counted : OnlySizes (Size.word (Size.total widths) >>= fun channels =>
      if !Size.isIndexable [batch, entities, channels] then .error .tooLarge else .ok () :
      Except (NetworkError α) Unit) := by
    refine .bind (.word _) fun channels => ?_
    split
    · exact .error rfl
    · exact .ok ()
  cases widths with
  | nil => exact .bind (.require _) fun _ => counted
  | cons width rest => exact counted

theorem checkSizes (net : PolicyNetwork α) (batch : Nat) : OnlySizes (net.checkSizes batch) := by
  have actions : ∀ props outputs own entry, OnlySizes
      (PolicyNetwork.checkActions batch props outputs own entry : Except (NetworkError α) Unit) :=
    fun _ _ _ _ => .bind (.forM fun _ => .require _) fun _ => .bind (.checkConcat _ _ _) fun _ =>
      .bind (.require _) fun _ => .checkShaped _
  have props : ∀ acts outputs own entry, OnlySizes
      (PolicyNetwork.checkProps batch acts outputs own entry : Except (NetworkError α) Unit) :=
    fun _ _ _ _ => .bind (.forM fun _ => .require _) fun _ => .bind (.checkConcat _ _ _) fun _ =>
      .bind (.require _) fun _ => .checkShaped _
  have layers : ∀ hidden width ownActs ownProps,
      OnlySizes (net.checkLayers batch width ownActs ownProps hidden) := by
    intro hidden
    induction hidden with
    | nil => exact fun width ownActs _ => .forM fun entry => actions width 1 ownActs entry
    | cons sizes rest ih =>
      intro width ownActs ownProps
      exact .bind (.forM fun entry => actions width sizes.act ownActs entry) fun _ =>
        .bind (.forM fun entry => props sizes.act sizes.prop ownProps entry) fun _ => ih _ _ _
  exact .bind (.forM fun _ => .require _) fun _ => .bind (.forM fun _ => .require _) fun _ =>
    layers _ _ _ _

end OnlySizes

end SchemaNet
