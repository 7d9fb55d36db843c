import SchemaNet.Proofs.Network.Modules

/-!
A whole evaluation. From layer to layer the tensors tabulate the values of the entities, so
the scores are those of the recursion; and whether there is a result depends on the weights
alone, not on the input or the problem.
-/

namespace SchemaNet
open Memory (bind_eq_ok)

namespace PolicyNetwork

variable {α : Type} {net : PolicyNetwork α} {weights : Weights α} {input : PolicyInput α}
  {layer : Nat} {acts props : List (Tensor α)}

theorem family_of_computes {β : Type} {batch count : Nat} {key : Nat → BlockKey}
    {entities : Nat → List β} {value : Nat → β → List α} {outs : List (ModuleOutput α)}
    (h : List.Forall₂ (fun i out => out.Computes weights (key i) batch (entities i) value)
      (List.range count) outs) :
    Tensor.Family batch count entities (fun i => weights.outputsOf (key i)) value
      (outs.map ModuleOutput.output) :=
  List.forall₂_map_right_iff.2 (h.imp fun _ _ out => out.tabulates)

theorem records_of_computes {β : Type} {batch count : Nat} {key : Nat → BlockKey}
    {entities : Nat → List β} {value : Nat → β → List α} {outs : List (ModuleOutput α)}
    {problem : Problem} (sizes : ∀ i, (entities i).length = problem.numEntities (key i))
    (h : List.Forall₂ (fun i out => out.Computes weights (key i) batch (entities i) value)
      (List.range count) outs) :
    List.Forall₂ (fun key out => out.Records weights batch (problem.numEntities key) key)
      ((List.range count).map key) outs := by
  refine List.forall₂_map_left_iff.2 (h.imp fun i out computed => ?_)
  refine ⟨computed.key_eq, computed.inputWidth_eq, ?_⟩
  rw [computed.tabulates.dims_eq, sizes]

/-- The scores are read off at the places of the actions in the list by schemas. -/
theorem merge_eq_places (net : PolicyNetwork α) :
    net.merge = (List.range net.problem.numActions).map net.problem.place :=
  Except.ok.inj (net.merge_eq.symm.trans net.problem.mergeIndices_eq)

theorem merge_inRange (net : PolicyNetwork α) :
    net.merge.all (· < net.problem.numActions) = true := by
  rw [merge_eq_places, List.all_eq_true]
  intro place hplace
  obtain ⟨id, hid, rfl⟩ := List.mem_map.1 hplace
  exact decide_eq_true (Problem.place_lt (List.mem_range.1 hid))

variable [Scalar α]

/-! ## One layer -/

theorem exists_actionOutputs_iff (fits : net.Matches weights)
    (sized : input.Sized net.problem net.arch)
    (before : net.Before weights input layer acts props) (final : layer ≤ weights.arch.final) :
    (∃ outs, net.actionOutputs weights input layer acts props = .ok outs) ↔
      ∀ s < net.problem.domain.numSchemas, weights.Accepts (.action layer s) := by
  rw [actionOutputs, exists_mapM_iff]
  simp only [List.mem_range]
  exact forall₂_congr fun s hs => exists_actionModule_iff fits sized before final hs

theorem actionOutputs_computes (fits : net.Matches weights)
    (sized : input.Sized net.problem net.arch)
    (before : net.Before weights input layer acts props) {outs : List (ModuleOutput α)}
    (h : net.actionOutputs weights input layer acts props = .ok outs) :
    List.Forall₂ (fun s out => out.Computes weights (.action layer s) input.props.height
        (net.problem.instances s) fun b => (net.stage weights input (layer + 1) b).acts)
      (List.range net.problem.domain.numSchemas) outs := by
  exact forall₂_imp_mem (mapM_eq_ok.1 h) fun s hs out hout =>
    actionModule_computes fits sized before (List.mem_range.1 hs) hout

theorem exists_propOutputs_iff (fits : net.Matches weights)
    (before : net.Before weights input layer acts props) {after : List (Tensor α)}
    (acted : net.Acted weights input layer after) (hidden : layer < weights.arch.final) :
    (∃ outs, net.propOutputs weights input.props.height layer after props = .ok outs) ↔
      ∀ pred < net.problem.domain.numPredicates, weights.Accepts (.predicate layer pred) := by
  rw [propOutputs, exists_mapM_iff]
  simp only [List.mem_range]
  exact forall₂_congr fun pred hpred => exists_propModule_iff fits before acted hidden hpred

theorem propOutputs_computes (fits : net.Matches weights)
    (before : net.Before weights input layer acts props) {after : List (Tensor α)}
    (acted : net.Acted weights input layer after) {outs : List (ModuleOutput α)}
    (h : net.propOutputs weights input.props.height layer after props = .ok outs) :
    List.Forall₂ (fun pred out => out.Computes weights (.predicate layer pred) input.props.height
        (net.problem.propsOf pred) fun b => (net.stage weights input (layer + 1) b).props)
      (List.range net.problem.domain.numPredicates) outs := by
  exact forall₂_imp_mem (mapM_eq_ok.1 h) fun pred hpred out hout =>
    propModule_computes fits before acted (List.mem_range.1 hpred) hout

/-! ## The scores -/

theorem flatten_singles {values : GroundAction → List α} {actions : List GroundAction}
    (single : ∀ action ∈ actions, (values action).length = 1) :
    (actions.map values).flatten = actions.map fun action => (values action).headD Scalar.zero := by
  induction actions with
  | nil => rfl
  | cons action rest ih =>
    obtain ⟨value, hvalue⟩ := List.length_eq_one_iff.1 (single action List.mem_cons_self)
    rw [List.map_cons, List.flatten_cons, ih fun other h => single other (List.mem_cons_of_mem _ h),
      List.map_cons, hvalue]
    rfl

theorem single_of_mergeOutputs (acted : net.Acted weights input layer acts) {scores : Grid α}
    (h : net.mergeOutputs input.props.height acts = .ok scores) :
    ∀ s < net.problem.domain.numSchemas, weights.outputsOf (.action layer s) = 1 := by
  obtain ⟨stacked, hstacked, h⟩ := bind_eq_ok.1 h
  obtain ⟨_, dims, -⟩ := bind_eq_ok.1 h
  have one : stacked.channels = 1 := by
    have same := checkDims_eq_ok.1 dims
    simp only [Tensor.dims, List.cons.injEq] at same
    exact same.2.2.1.symm
  intro s hs
  obtain ⟨tensor, htensor, tabulated⟩ := acted.exists_tensor hs
  rw [← one, ← tabulated.channels_eq]
  have mem := List.mem_of_getElem? (BlockKey.orOutOfRange_eq_ok.1 htensor)
  exact Tensor.channels_of_stack hstacked mem

/-- Final outputs that tabulate a value of the actions, schema by schema, are merged into the
values in canonical order. -/
theorem mergeOutputs_tabulates {batch : Nat} {outs : List (Tensor α)}
    {value : Nat → GroundAction → List α}
    (parts : List.Forall₂ (fun part xs => part.Tabulates batch xs 1 value) outs
      ((List.range net.problem.domain.numSchemas).map net.problem.instances)) :
    ∃ scores, net.mergeOutputs batch outs = .ok scores ∧
      scores.Tabulates batch net.problem.actions fun b action =>
        (value b action).headD Scalar.zero := by
  obtain ⟨stacked, hstacked, tabulated⟩ := Tensor.stack_tabulates parts
  have all : ((List.range net.problem.domain.numSchemas).map net.problem.instances).flatten =
      net.problem.bySchema := rfl
  have size : net.problem.bySchema.length = net.problem.numActions := by
    rw [Problem.bySchema_length, Problem.schemaOffset_numSchemas]
  rw [all] at tabulated
  rw [mergeOutputs, hstacked, ok_bind, tabulated.dims_eq, size, checkDims_eq_ok.2 rfl, ok_bind,
    if_pos net.merge_inRange]
  refine ⟨_, rfl, tabulated.batch_eq, ?_, ?_⟩
  · show net.merge.length = _
    rw [merge_eq_places, List.length_map, List.length_range]
    rfl
  · rw [Grid.rows_build, tabulated.rows_eq, List.map_map]
    refine List.map_congr_left fun b hb => ?_
    have values := flatten_singles fun action haction =>
      tabulated.value_length (List.mem_range.1 hb) haction
    rw [Function.comp_apply, values, merge_eq_places]
    refine map_eq_map_of_forall₂ net.problem.picks_place fun place action haction => ?_
    rw [List.getD_eq_getElem?_getD, List.getElem?_map, haction, Option.map_some, Option.getD_some]

theorem exists_mergeOutputs (acted : net.Acted weights input layer acts)
    (single : ∀ s < net.problem.domain.numSchemas, weights.outputsOf (.action layer s) = 1) :
    ∃ scores, net.mergeOutputs input.props.height acts = .ok scores ∧
      scores.Tabulates input.props.height net.problem.actions fun b action =>
        ((net.stage weights input (layer + 1) b).acts action).headD Scalar.zero := by
  have parts : List.Forall₂ (fun part xs => part.Tabulates input.props.height xs 1
      fun b => (net.stage weights input (layer + 1) b).acts) acts
      ((List.range net.problem.domain.numSchemas).map net.problem.instances) := by
    refine List.forall₂_map_right_iff.2 (forall₂_imp_mem acted fun s hs tensor h => ?_).flip
    have one : tensor.channels = 1 := h.channels_eq.trans (single s (List.mem_range.1 hs))
    exact ⟨h.batch_eq, h.entities_eq, one, h.rows_eq⟩
  exact mergeOutputs_tabulates parts

/-! ## All layers -/

/-- The layers from number `layer` on, without dropout. -/
def layersFrom (net : PolicyNetwork α) (weights : Weights α) (input : PolicyInput α) :
    (hidden layer : Nat) → (acts props : List (Tensor α)) →
    Except (NetworkError α) (Evaluation α)
  | 0, layer, acts, props => do
    let final ← net.actionOutputs weights input layer acts props
    let scores ← net.mergeOutputs input.props.height (final.map ModuleOutput.output)
    return ⟨final, [], scores⟩
  | hidden + 1, layer, acts, props => do
    let actions ← net.actionOutputs weights input layer acts props
    let acts := actions.map ModuleOutput.output
    let predicates ← net.propOutputs weights input.props.height layer acts props
    let rest ← net.layersFrom weights input hidden (layer + 1) acts
      (predicates.map ModuleOutput.output)
    return ⟨actions ++ predicates ++ rest.modules,
      net.wiring.layerPools :: rest.emptyPools, rest.scores⟩

theorem runLayers_run (net : PolicyNetwork α) (weights : Weights α) (input : PolicyInput α)
    (hidden layer : Nat) (acts props : List (Tensor α)) :
    (net.runLayers (m := Id) weights pure input hidden layer acts props).run =
      net.layersFrom weights input hidden layer acts props := by
  induction hidden generalizing layer acts props with
  | zero =>
    rw [runLayers, run_bind, actionLayer_run, layersFrom]
    refine congrArg _ (funext fun final => ?_)
    rw [run_bind]
    rfl
  | succ hidden ih =>
    rw [runLayers, run_bind, actionLayer_run, layersFrom]
    refine congrArg _ (funext fun actions => ?_)
    rw [run_bind, propLayer_run]
    refine congrArg _ (funext fun predicates => ?_)
    rw [run_bind, ih]
    rfl

/-- The tensors of a hidden layer are those with which the next layer begins. -/
theorem before_succ (fits : net.Matches weights) (sized : input.Sized net.problem net.arch)
    (before : net.Before weights input layer acts props)
    {actions predicates : List (ModuleOutput α)}
    (hactions : net.actionOutputs weights input layer acts props = .ok actions)
    (hpredicates : net.propOutputs weights input.props.height layer
      (actions.map ModuleOutput.output) props = .ok predicates) :
    net.Before weights input (layer + 1) (actions.map ModuleOutput.output)
      (predicates.map ModuleOutput.output) := by
  have acted := family_of_computes (actionOutputs_computes fits sized before hactions)
  exact ⟨fun _ => acted, family_of_computes (propOutputs_computes fits before acted hpredicates)⟩

def keysFrom (weights : Weights α) (layer count : Nat) : List BlockKey :=
  (List.range' layer count).flatMap (BlockKey.ofLayer weights.domain weights.arch)

omit [Scalar α] in
theorem keysFrom_succ (weights : Weights α) (layer count : Nat) :
    keysFrom weights layer (count + 1) =
      BlockKey.ofLayer weights.domain weights.arch layer ++ keysFrom weights (layer + 1) count := by
  rw [keysFrom, List.range'_succ, List.flatMap_cons, keysFrom]

omit [Scalar α] in
theorem keysFrom_zero (weights : Weights α) :
    keysFrom weights 0 (weights.arch.final + 1) = weights.keys := by
  rw [keysFrom, ← List.range_eq_range']
  rfl

omit [Scalar α] in
theorem forall_finalLayer (fits : net.Matches weights) {good : BlockKey → Prop} :
    (∀ key ∈ keysFrom weights weights.arch.final 1, good key) ↔
      ∀ s < net.problem.domain.numSchemas, good (.action weights.arch.final s) := by
  simp [keysFrom, BlockKey.ofLayer, fits.domain_eq]

omit [Scalar α] in
theorem forall_hiddenLayer (fits : net.Matches weights) (hidden : layer < weights.arch.final)
    {good : BlockKey → Prop} :
    (∀ key ∈ BlockKey.ofLayer weights.domain weights.arch layer, good key) ↔
      (∀ s < net.problem.domain.numSchemas, good (.action layer s)) ∧
        ∀ pred < net.problem.domain.numPredicates, good (.predicate layer pred) := by
  simp only [BlockKey.ofLayer, fits.domain_eq, if_pos hidden, List.forall_mem_append,
    List.forall_mem_map, List.mem_range]

/-- There is a result exactly if every block fits its module and every score is one number. -/
theorem exists_layersFrom_iff (fits : net.Matches weights)
    (sized : input.Sized net.problem net.arch)
    {hidden : Nat} (before : net.Before weights input layer acts props)
    (final : layer + hidden = weights.arch.final) :
    (∃ evaluation, net.layersFrom weights input hidden layer acts props = .ok evaluation) ↔
      (∀ key ∈ keysFrom weights layer (hidden + 1), weights.Accepts key) ∧
        ∀ s < net.problem.domain.numSchemas,
          weights.outputsOf (.action weights.arch.final s) = 1 := by
  induction hidden generalizing layer acts props with
  | zero =>
    have outputs := exists_actionOutputs_iff fits sized before (by omega)
    obtain rfl : layer = weights.arch.final := by omega
    rw [Nat.zero_add, forall_finalLayer fits, ← outputs]
    constructor
    · rintro ⟨evaluation, h⟩
      obtain ⟨actions, hactions, h⟩ := bind_eq_ok.1 h
      obtain ⟨scores, hscores, -⟩ := bind_eq_ok.1 h
      have acted := family_of_computes (actionOutputs_computes fits sized before hactions)
      exact ⟨⟨actions, hactions⟩, single_of_mergeOutputs acted hscores⟩
    · rintro ⟨⟨actions, hactions⟩, single⟩
      have acted := family_of_computes (actionOutputs_computes fits sized before hactions)
      obtain ⟨scores, hscores, -⟩ := exists_mergeOutputs acted single
      exact exists_bind_iff.2 ⟨actions, hactions, exists_bind_iff.2 ⟨scores, hscores, _, rfl⟩⟩
  | succ hidden ih =>
    have inside : layer < weights.arch.final := by omega
    have outputs := exists_actionOutputs_iff fits sized before (Nat.le_of_lt inside)
    rw [keysFrom_succ, List.forall_mem_append, forall_hiddenLayer fits inside, ← outputs]
    constructor
    · rintro ⟨evaluation, h⟩
      obtain ⟨actions, hactions, h⟩ := bind_eq_ok.1 h
      obtain ⟨predicates, hpredicates, h⟩ := bind_eq_ok.1 h
      obtain ⟨rest, hrest, -⟩ := bind_eq_ok.1 h
      have acted := family_of_computes (actionOutputs_computes fits sized before hactions)
      have next := before_succ fits sized before hactions hpredicates
      have later := (ih next (by omega)).1 ⟨rest, hrest⟩
      have accepted := (exists_propOutputs_iff fits before acted inside).1 ⟨predicates, hpredicates⟩
      exact ⟨⟨⟨⟨actions, hactions⟩, accepted⟩, later.1⟩, later.2⟩
    · rintro ⟨⟨⟨⟨actions, hactions⟩, accepted⟩, later⟩, single⟩
      have acted := family_of_computes (actionOutputs_computes fits sized before hactions)
      obtain ⟨predicates, hpredicates⟩ :=
        (exists_propOutputs_iff fits before acted inside).2 accepted
      have next := before_succ fits sized before hactions hpredicates
      obtain ⟨rest, hrest⟩ := (ih next (by omega)).2 ⟨later, single⟩
      exact exists_bind_iff.2 ⟨actions, hactions, exists_bind_iff.2 ⟨predicates, hpredicates,
        exists_bind_iff.2 ⟨rest, hrest, _, rfl⟩⟩⟩

/-- A result records every module under its key and holds the scores of the recursion. -/
theorem layersFrom_records (fits : net.Matches weights) (sized : input.Sized net.problem net.arch)
    {hidden : Nat} (before : net.Before weights input layer acts props)
    (final : layer + hidden = weights.arch.final) {evaluation : Evaluation α}
    (h : net.layersFrom weights input hidden layer acts props = .ok evaluation) :
    List.Forall₂ (fun key (out : ModuleOutput α) =>
        out.Records weights input.props.height (net.problem.numEntities key) key)
      (keysFrom weights layer (hidden + 1)) evaluation.modules ∧
    evaluation.scores.Tabulates input.props.height net.problem.actions fun b action =>
      Relational.score net.problem net.config weights (input.reading net.problem b) action := by
  induction hidden generalizing layer acts props evaluation with
  | zero =>
    obtain rfl : layer = weights.arch.final := by omega
    obtain ⟨actions, hactions, h⟩ := bind_eq_ok.1 h
    obtain ⟨scores, hscores, h⟩ := bind_eq_ok.1 h
    obtain rfl := Except.ok.inj h
    have computed := actionOutputs_computes fits sized before hactions
    have acted := family_of_computes computed
    constructor
    · have keys : keysFrom weights weights.arch.final (0 + 1) =
          (List.range net.problem.domain.numSchemas).map (.action weights.arch.final) := by
        simp [keysFrom, BlockKey.ofLayer, fits.domain_eq]
      rw [keys]
      exact records_of_computes (fun _ => rfl) computed
    · obtain ⟨other, hother, tabulated⟩ := exists_mergeOutputs acted
        (single_of_mergeOutputs acted hscores)
      obtain rfl := Except.ok.inj (hscores.symm.trans hother)
      exact tabulated
  | succ hidden ih =>
    have inside : layer < weights.arch.final := by omega
    obtain ⟨actions, hactions, h⟩ := bind_eq_ok.1 h
    obtain ⟨predicates, hpredicates, h⟩ := bind_eq_ok.1 h
    obtain ⟨rest, hrest, h⟩ := bind_eq_ok.1 h
    obtain rfl := Except.ok.inj h
    have computed := actionOutputs_computes fits sized before hactions
    have next := before_succ fits sized before hactions hpredicates
    obtain ⟨later, scores⟩ := ih next (by omega) hrest
    refine ⟨?_, scores⟩
    rw [keysFrom_succ, BlockKey.ofLayer, if_pos inside, fits.domain_eq]
    exact List.rel_append (List.rel_append (records_of_computes (fun _ => rfl) computed)
      (records_of_computes (fun _ => rfl)
        (propOutputs_computes fits before (family_of_computes computed) hpredicates))) later

/-! ## Whole evaluations -/

theorem before_zero (net : PolicyNetwork α) (weights : Weights α) (input : PolicyInput α) :
    net.Before weights input 0 [] (net.wiring.props.map (initialProps input.props)) := by
  refine ⟨fun later => absurd later.1 (Nat.lt_irrefl 0), ?_⟩
  rw [net.wiring_eq]
  exact initialProps_family net.config weights

theorem evaluate_eq (net : PolicyNetwork α) (weights : Weights α) (input : PolicyInput α) :
    net.evaluate weights input = net.checkWeights weights >>= fun _ =>
      net.layersFrom weights input net.arch.numHidden 0 []
        (net.wiring.props.map (initialProps input.props)) := by
  show (net.run (m := Id) weights pure input).run = _
  rw [run, run_bind]
  refine congrArg _ (funext fun _ => ?_)
  rw [runLayers_run]

theorem exists_evaluate_iff (sized : input.Sized net.problem net.arch) :
    (∃ evaluation, net.evaluate weights input = .ok evaluation) ↔
      net.Matches weights ∧ weights.Coherent := by
  have coherent : weights.Coherent ↔ (∀ key ∈ weights.keys, weights.Accepts key) ∧
      ∀ s < weights.domain.numSchemas, weights.outputsOf (.action weights.arch.final s) = 1 :=
    ⟨fun h => ⟨h.accepts, h.scores⟩, fun h => ⟨h.1, h.2⟩⟩
  rw [evaluate_eq, exists_check_iff, checkWeights_eq_ok]
  refine and_congr_right fun fits => ?_
  have layers : 0 + net.arch.numHidden = weights.arch.final := by
    rw [fits.arch_eq, Nat.zero_add]
    rfl
  rw [exists_layersFrom_iff fits sized (net.before_zero weights input) layers, coherent,
    fits.domain_eq, ← keysFrom_zero, ← layers, Nat.zero_add]

theorem evaluate_records (sized : input.Sized net.problem net.arch) {evaluation : Evaluation α}
    (h : net.evaluate weights input = .ok evaluation) :
    List.Forall₂ (fun key (out : ModuleOutput α) =>
        out.Records weights input.props.height (net.problem.numEntities key) key)
      weights.keys evaluation.modules ∧
    evaluation.scores.Tabulates input.props.height net.problem.actions fun b action =>
      Relational.score net.problem net.config weights (input.reading net.problem b) action := by
  rw [evaluate_eq] at h
  obtain ⟨_, hfits, h⟩ := bind_eq_ok.1 h
  have fits := checkWeights_eq_ok.1 hfits
  have layers : 0 + net.arch.numHidden = weights.arch.final := by
    rw [fits.arch_eq, Nat.zero_add]
    rfl
  rw [← keysFrom_zero, ← layers, Nat.zero_add]
  exact layersFrom_records fits sized (net.before_zero weights input) layers h

theorem exists_logits_iff : (∃ scores, net.logits weights input = .ok scores) ↔
    input.Sized net.problem net.arch ∧ net.Matches weights ∧ weights.Coherent := by
  rw [logits, exists_check_iff, checkInput_eq_ok]
  refine and_congr_right fun sized => ?_
  rw [exists_bind_iff, ← exists_evaluate_iff sized]
  exact exists_congr fun evaluation => ⟨fun h => h.1, fun h => ⟨h, _, rfl⟩⟩

/-- The scores are those of the recursion over the entities. -/
theorem logits_tabulate {scores : Grid α} (h : net.logits weights input = .ok scores) :
    scores.Tabulates input.props.height net.problem.actions fun b action =>
      Relational.score net.problem net.config weights (input.reading net.problem b) action := by
  obtain ⟨_, hsized, h⟩ := bind_eq_ok.1 h
  obtain ⟨evaluation, hevaluation, h⟩ := bind_eq_ok.1 h
  obtain rfl := Except.ok.inj h
  exact (evaluate_records (checkInput_eq_ok.1 hsized) hevaluation).2

/-! ## Assembly -/

theorem assemble_fields {problem : Problem} {arch : Architecture} {config : ModuleConfig α}
    (h : assemble problem arch config = .ok net) :
    net.problem = problem ∧ net.arch = arch ∧ net.config = config := by
  unfold assemble at h
  obtain ⟨-, h⟩ := check_bind_eq_ok.1 h
  obtain ⟨-, h⟩ := check_bind_eq_ok.1 h
  obtain ⟨-, h⟩ := check_bind_eq_ok.1 h
  split at h
  · obtain rfl := Except.ok.inj h
    exact ⟨rfl, rfl, rfl⟩
  · cases h

theorem exists_assemble_iff {problem : Problem} {arch : Architecture} {config : ModuleConfig α} :
    (∃ net, assemble problem arch config = .ok net) ↔
      (arch.validate : Except (NetworkError α) Unit) = .ok () ∧ config.validate = .ok () ∧
        problem.domain.validate = .ok () := by
  unfold assemble
  rw [exists_check_iff, exists_check_iff, exists_check_iff, mapError_eq_ok]
  refine and_congr_right fun _ => and_congr_right fun _ => and_iff_left ?_
  split
  · exact ⟨_, rfl⟩
  · next fault failed => exact absurd (failed.symm.trans problem.mergeIndices_eq) (by simp)

theorem forWeights_fields {problem : Problem} {config : ModuleConfig α}
    (h : forWeights problem weights config = .ok net) :
    net.problem = problem ∧ net.arch = weights.arch ∧ net.config = config := by
  obtain ⟨built, hbuilt, h⟩ := bind_eq_ok.1 h
  obtain ⟨-, h⟩ := check_bind_eq_ok.1 h
  obtain rfl := Except.ok.inj h
  exact assemble_fields hbuilt

/-- Whether a network can be assembled depends on the domain, not on the problem. -/
theorem exists_forWeights_iff {problem : Problem} {config : ModuleConfig α} :
    (∃ net, forWeights problem weights config = .ok net) ↔
      ((weights.arch.validate : Except (NetworkError α) Unit) = .ok () ∧ config.validate = .ok () ∧
        problem.domain.validate = .ok ()) ∧ weights.domain = problem.domain := by
  rw [← exists_assemble_iff, forWeights, exists_bind_iff]
  constructor
  · rintro ⟨net, hnet, h⟩
    obtain ⟨rfl, -⟩ := assemble_fields hnet
    exact ⟨⟨net, hnet⟩, (checkWeights_eq_ok.1 (exists_check_iff.1 h).1).domain_eq⟩
  · rintro ⟨⟨net, hnet⟩, same⟩
    obtain ⟨rfl, harch, -⟩ := assemble_fields hnet
    exact ⟨net, hnet, exists_check_iff.2 ⟨checkWeights_eq_ok.2 ⟨same, harch.symm⟩, _, rfl⟩⟩

theorem exists_forWeights {problem : Problem} {config : ModuleConfig α}
    (shaped : weights.WellShaped)
    (same : weights.domain = problem.domain) (valid : config.validate = .ok ()) :
    ∃ net, forWeights problem weights config = .ok net ∧ net.problem = problem ∧
      net.arch = weights.arch ∧ net.config = config := by
  obtain ⟨net, hnet⟩ := exists_forWeights_iff.2
    ⟨⟨shaped.arch_valid, valid, same ▸ shaped.domain_valid⟩, same⟩
  exact ⟨net, hnet, forWeights_fields hnet⟩

end PolicyNetwork

end SchemaNet
