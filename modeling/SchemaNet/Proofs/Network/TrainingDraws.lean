import Mathlib.Algebra.BigOperators.Ring.List
import SchemaNet.Proofs.Draws
import SchemaNet.Proofs.Network.BatchRows
import SchemaNet.Proofs.Network.Merge
import SchemaNet.Proofs.Network.PoolPad

/-!
What training draws. One word is drawn for every output of a hidden module, module by module in
the order of the keys, and it decides whether that output is dropped or scaled up; the modules of
a layer are computed from what was kept of the layers before.
-/

namespace SchemaNet
open Memory (bind_eq_ok)
open WordSource (words after)
open Scalar

variable {α β σ : Type}

/-! ## Outputs and what is kept of them -/

/-- The values of all outputs, module by module and in row-major order. -/
def ModuleOutput.values (outs : List (ModuleOutput α)) : List α :=
  outs.flatMap fun out => out.output.flat

open ModuleOutput (values)

theorem ModuleOutput.values_append (outs others : List (ModuleOutput α)) :
    values (outs ++ others) = values outs ++ values others :=
  List.flatMap_append

/-- The same module with an output of the same shape. -/
structure ModuleOutput.Alike (out left : ModuleOutput α) : Prop where
  key_eq : left.key = out.key
  name_eq : left.name = out.name
  inputWidth_eq : left.inputWidth = out.inputWidth
  dims_eq : left.output.dims = out.output.dims

/-- What dropout keeps of the outputs of some modules when it draws the words from a state on,
one for each value. -/
structure Dropped [Scalar α] [WordSource σ] (p : α) (before : σ) (outs kept : List (ModuleOutput α)) :
    Prop where
  alike : List.Forall₂ ModuleOutput.Alike outs kept
  values_eq : values kept = List.zipWith (Tensor.dropValue (one - p))
    ((words (values outs).length before).map (Uniform.fraction 24)) (values outs)

section Dropping

variable [Scalar α] [WordSource σ] {p : α} {before : σ}

theorem Tensor.dropout_draws (positive : le p zero = false) (tensor : Tensor α) (before : σ) :
    ∃ kept, (Tensor.dropout p tensor).run before = (kept, after tensor.flat.length before) ∧
      kept.dims = tensor.dims ∧ kept.flat = List.zipWith (dropValue (one - p))
        ((words tensor.flat.length before).map (Uniform.fraction 24)) tensor.flat := by
  obtain ⟨drawn, last⟩ := Uniform.unit_takes.many (α := α) tensor.flat.length before
  have dropped : Tensor.dropout p tensor = (do
      let draws ← Uniform.many Uniform.unit tensor.flat.length
      return tensor.dropBy (one - p) draws.1 draws.2 : StateM σ (Tensor α)) := by
    rw [Tensor.dropout, if_neg (by simp [positive])]
  rw [dropped, ← last, ← drawn]
  exact ⟨_, rfl, rfl, rfl⟩

theorem Dropped.append {outs kept others otherKept : List (ModuleOutput α)}
    (h : Dropped p before outs kept)
    (h' : Dropped p (after (values outs).length before) others otherKept) :
    Dropped p before (outs ++ others) (kept ++ otherKept) := by
  refine ⟨List.rel_append h.alike h'.alike, ?_⟩
  have lengths : ((words (values outs).length before).map (Uniform.fraction 24 : UInt32 → α)).length =
      (values outs).length := by rw [List.length_map, WordSource.length_words]
  rw [ModuleOutput.values_append, ModuleOutput.values_append, h.values_eq, h'.values_eq,
    List.length_append, WordSource.words_add, List.map_append, List.zipWith_append lengths]

/-- Modules that are run one after another, with dropout after each of them. -/
theorem mapM_dropped (positive : le p zero = false) {f : β → Stateful α σ (ModuleOutput α)}
    {g : β → Except (NetworkError α) (ModuleOutput α)}
    (each : ∀ x, f x = do
      let out ← Stateful.ofExcept (g x)
      return { out with output := ← ExceptT.lift (Tensor.dropout p out.output) })
    {xs : List β} {outs : List (ModuleOutput α)} (h : xs.mapM g = .ok outs) (before : σ) :
    ∃ kept, (xs.mapM f).run.run before = (.ok kept, after (values outs).length before) ∧
      Dropped p before outs kept := by
  induction xs generalizing outs before with
  | nil =>
    obtain rfl := Except.ok.inj h
    exact ⟨[], rfl, .nil, rfl⟩
  | cons x rest ih =>
    rw [List.mapM_cons] at h
    obtain ⟨out, hout, h⟩ := bind_eq_ok.1 h
    obtain ⟨others, hothers, h⟩ := bind_eq_ok.1 h
    obtain rfl := Except.ok.inj h
    obtain ⟨output, dropped, dims, flat⟩ := Tensor.dropout_draws positive out.output before
    have single : values [out] = out.output.flat := List.flatMap_singleton ..
    have first : Dropped p before [out] [{ out with output }] := by
      refine ⟨.cons ⟨rfl, rfl, rfl, dims⟩ .nil, ?_⟩
      rw [single, ← flat]
      exact List.flatMap_singleton ..
    have ran : (f x).run.run before =
        (.ok { out with output }, after out.output.flat.length before) := by
      rw [each, hout]
      refine (Stateful.run_bind_ok Stateful.run_ofExcept _).trans ?_
      exact (Stateful.run_bind_ok (Stateful.run_lift_eq_ok.2 dropped) _).trans rfl
    obtain ⟨kept, later, others_dropped⟩ := ih hothers (after out.output.flat.length before)
    rw [← single] at others_dropped
    refine ⟨{ out with output } :: kept, ?_, first.append others_dropped⟩
    rw [List.mapM_cons, Stateful.run_bind_ok ran, Stateful.run_bind_ok later]
    rw [← WordSource.after_add, ← List.length_append]
    rfl

end Dropping

theorem ModuleOutput.Records.of_alike {out left : ModuleOutput α} {weights : Weights α}
    {batch count : Nat} {key : BlockKey} (h : out.Records weights batch count key)
    (alike : out.Alike left) : left.Records weights batch count key :=
  ⟨alike.key_eq.trans h.key_eq, alike.inputWidth_eq.trans h.inputWidth_eq,
    alike.dims_eq.trans h.dims_eq⟩

/-! ## How many values there are -/

/-- What belongs to the first classes, class by class. -/
theorem total_filter (classOf : β → Nat) (xs : List β) (n : Nat) :
    Size.total ((List.range n).map fun i => (xs.filter fun x => classOf x == i).length) =
      xs.countP fun x => decide (classOf x < n) := by
  induction n with
  | zero => simp
  | succ n ih =>
    rw [List.range_succ, List.map_append, Size.total_append, ih, countP_lt_succ,
      List.countP_eq_length_filter (p := fun x => classOf x == n)]
    rfl

theorem Problem.total_instances (problem : Problem) :
    Size.total ((List.range problem.domain.numSchemas).map fun s =>
      (problem.instances s).length) = problem.numActions := by
  refine (total_filter _ _ _).trans (List.countP_eq_length.2 fun action mem => ?_)
  exact decide_eq_true (schemaPosition_action mem)

theorem Problem.total_propsOf (problem : Problem) :
    Size.total ((List.range problem.domain.numPredicates).map fun pred =>
      (problem.propsOf pred).length) = problem.numProps := by
  refine (total_filter _ _ _).trans (List.countP_eq_length.2 fun prop mem => ?_)
  exact decide_eq_true (Domain.predicatePosition_lt (predicate_known mem))

namespace PolicyNetwork

variable {net : PolicyNetwork α} {weights : Weights α} {input : PolicyInput α} {batch layer : Nat}
  {acts props : List (Tensor α)}

/-- Records of the modules of one kind at a layer. -/
def Recorded (net : PolicyNetwork α) (weights : Weights α) (batch count : Nat)
    (key : Nat → BlockKey) (outs : List (ModuleOutput α)) : Prop :=
  List.Forall₂ (fun i out => out.Records weights batch (net.problem.numEntities (key i)) (key i))
    (List.range count) outs

theorem Recorded.of_alike {count : Nat} {key : Nat → BlockKey} {outs kept : List (ModuleOutput α)}
    (h : net.Recorded weights batch count key outs)
    (alike : List.Forall₂ ModuleOutput.Alike outs kept) :
    net.Recorded weights batch count key kept :=
  forall₂_trans h alike fun _ _ _ => ModuleOutput.Records.of_alike

theorem Recorded.keys {count : Nat} {key : Nat → BlockKey} {outs : List (ModuleOutput α)}
    (h : net.Recorded weights batch count key outs) :
    List.Forall₂ (fun key (out : ModuleOutput α) =>
        out.Records weights batch (net.problem.numEntities key) key)
      ((List.range count).map key) outs :=
  List.forall₂_map_left_iff.2 h

theorem Recorded.actionFamily {outs : List (ModuleOutput α)}
    (h : net.Recorded weights batch net.problem.domain.numSchemas (.action layer) outs) :
    ∃ value, Tensor.Family batch net.problem.domain.numSchemas net.problem.instances
      (fun s => weights.outputsOf (.action layer s)) value (outs.map ModuleOutput.output) :=
  ⟨_, Tensor.family_channelsIn net.problem.instances_nodup
    (fun _ _ => Problem.schemaPosition_of_mem_instances)
    (List.forall₂_map_right_iff.2 (h.imp fun _ _ records => records.dims_eq))⟩

theorem Recorded.propFamily {outs : List (ModuleOutput α)}
    (h : net.Recorded weights batch net.problem.domain.numPredicates (.predicate layer) outs) :
    ∃ value, Tensor.Family batch net.problem.domain.numPredicates net.problem.propsOf
      (fun pred => weights.outputsOf (.predicate layer pred)) value
        (outs.map ModuleOutput.output) :=
  ⟨_, Tensor.family_channelsIn net.problem.propsOf_nodup
    (fun _ _ => Problem.predicatePosition_of_mem_propsOf)
    (List.forall₂_map_right_iff.2 (h.imp fun _ _ records => records.dims_eq))⟩

theorem Recorded.length_values {count width : Nat} {key : Nat → BlockKey}
    {outs : List (ModuleOutput α)} (h : net.Recorded weights batch count key outs)
    (widths : ∀ i < count, weights.outputsOf (key i) = width) :
    (values outs).length = batch *
      (Size.total ((List.range count).map fun i => net.problem.numEntities (key i)) * width) := by
  have sizes : (List.range count).map (fun i => batch * (net.problem.numEntities (key i) * width)) =
      outs.map fun out => out.output.flat.length := by
    refine map_eq_map_of_forall₂ (forall₂_imp_mem h fun i hi out records => ?_) fun _ _ same => same
    have dims := records.dims_eq
    simp only [Tensor.dims, List.cons.injEq, and_true] at dims
    rw [out.output.size, dims.1, dims.2.1, dims.2.2, widths i (List.mem_range.1 hi)]
  rw [values, List.length_flatMap, ← sizes, List.sum_map_mul_left, List.sum_map_mul_right]
  rfl

/-- Tensors of the shapes with which a layer begins. -/
def Ready (net : PolicyNetwork α) (weights : Weights α) (batch layer : Nat)
    (acts props : List (Tensor α)) : Prop :=
  ∃ value : Nat → Values α,
    (0 < layer ∧ net.arch.skip → Tensor.Family batch net.problem.domain.numSchemas
      net.problem.instances (weights.actsBefore layer) (fun b => (value b).acts) acts) ∧
    Tensor.Family batch net.problem.domain.numPredicates net.problem.propsOf
      (weights.propsBefore layer) (fun b => (value b).props) props

theorem Recorded.ready {actions predicates : List (ModuleOutput α)}
    (acted : net.Recorded weights batch net.problem.domain.numSchemas (.action layer) actions)
    (stated : net.Recorded weights batch net.problem.domain.numPredicates (.predicate layer)
      predicates) :
    net.Ready weights batch (layer + 1) (actions.map ModuleOutput.output)
      (predicates.map ModuleOutput.output) := by
  obtain ⟨actValue, hacts⟩ := acted.actionFamily
  obtain ⟨propValue, hprops⟩ := stated.propFamily
  exact ⟨fun b => ⟨actValue b, propValue b⟩, fun _ => hacts, hprops⟩

variable [Scalar α]

theorem ready_zero (net : PolicyNetwork α) (weights : Weights α) (input : PolicyInput α) :
    net.Ready weights input.props.height 0 []
      (net.wiring.props.map (initialProps input.props)) :=
  have before := net.before_zero weights input
  ⟨net.stage weights input 0, before.acts, before.props⟩

/-- Blocks of the right shapes can be applied to any tensors of the right shapes. -/
theorem Ready.actionOutputs (ready : net.Ready weights input.props.height layer acts props)
    (shaped : weights.WellShaped) (fits : net.Matches weights)
    (sized : input.Sized net.problem net.arch) (inside : layer ≤ weights.arch.final) :
    ∃ outs, net.actionOutputs weights input layer acts props = .ok outs ∧
      net.Recorded weights input.props.height net.problem.domain.numSchemas (.action layer) outs := by
  refine exists_mapM fun s hs => ?_
  have listed := List.mem_range.1 hs
  obtain ⟨value, hacts, hprops⟩ := ready
  obtain ⟨view, hview, tabulated⟩ := exists_actionInput fits sized listed hacts hprops
  have hkey : BlockKey.action layer s ∈ weights.keys :=
    BlockKey.action_mem_all.2 ⟨inside, by rw [fits.domain_eq]; exact listed⟩
  obtain ⟨out, hout⟩ := (exists_runModule_iff fits hkey tabulated).2 (shaped.coherent.accepts _ hkey)
  have computed := runModule_computes hout tabulated
  refine ⟨out, ?_, computed.key_eq, computed.inputWidth_eq, computed.tabulates.dims_eq⟩
  rw [actionModule, hview, ok_bind]
  exact hout

theorem Ready.propOutputs (ready : net.Ready weights batch layer acts props)
    (shaped : weights.WellShaped) (fits : net.Matches weights) (hidden : layer < weights.arch.final)
    {kept : List (ModuleOutput α)}
    (own : net.Recorded weights batch net.problem.domain.numSchemas (.action layer) kept) :
    ∃ outs, net.propOutputs weights batch layer (kept.map ModuleOutput.output) props = .ok outs ∧
      net.Recorded weights batch net.problem.domain.numPredicates (.predicate layer) outs := by
  refine exists_mapM fun pred hpred => ?_
  have listed := List.mem_range.1 hpred
  obtain ⟨value, -, hprops⟩ := ready
  obtain ⟨acted, hacts⟩ := own.actionFamily
  obtain ⟨view, hview, tabulated⟩ := exists_propInput fits listed hacts fun _ => hprops
  have hkey : BlockKey.predicate layer pred ∈ weights.keys :=
    BlockKey.predicate_mem_all.2 ⟨hidden, by rw [fits.domain_eq]; exact listed⟩
  obtain ⟨out, hout⟩ := (exists_runModule_iff fits hkey tabulated).2 (shaped.coherent.accepts _ hkey)
  have computed := runModule_computes hout tabulated
  refine ⟨out, ?_, computed.key_eq, computed.inputWidth_eq, computed.tabulates.dims_eq⟩
  rw [propModule, hview, ok_bind]
  exact hout

/-! ## Layers with dropout -/

section Layers

variable [WordSource σ] {p : α} {drop : Tensor α → StateM σ (Tensor α)}

theorem actionLayer_dropped (positive : le p zero = false) (hidden : layer ≠ net.arch.final)
    {outs : List (ModuleOutput α)} (h : net.actionOutputs weights input layer acts props = .ok outs)
    (before : σ) :
    ∃ kept, (net.actionLayer weights (Tensor.dropout p) input layer acts props).run.run before =
        (.ok kept, after (values outs).length before) ∧ Dropped p before outs kept := by
  rw [actionLayer, net.wiring_eq, Wiring.ofProblem, List.mapM_map]
  refine mapM_dropped positive (fun s => ?_) h before
  rw [Function.comp_apply, actionModule, Stateful.ofExcept_bind, bind_assoc]
  refine congrArg _ (funext fun view => ?_)
  rw [if_neg hidden, if_neg hidden]
  rfl

theorem propLayer_dropped (positive : le p zero = false) {outs : List (ModuleOutput α)}
    (h : net.propOutputs weights batch layer acts props = .ok outs) (before : σ) :
    ∃ kept, (net.propLayer weights (Tensor.dropout p) batch layer acts props).run.run before =
        (.ok kept, after (values outs).length before) ∧ Dropped p before outs kept := by
  rw [propLayer, net.wiring_eq, Wiring.ofProblem, List.mapM_map]
  refine mapM_dropped positive (fun pred => ?_) h before
  rw [Function.comp_apply, propModule, Stateful.ofExcept_bind, bind_assoc]
  rfl

omit [WordSource σ] in
/-- The outputs of the last layer are left as they are. -/
theorem runLayers_final (net : PolicyNetwork α) (weights : Weights α)
    (drop : Tensor α → StateM σ (Tensor α)) (input : PolicyInput α) (acts props : List (Tensor α)) :
    net.runLayers weights drop input 0 net.arch.final acts props =
      Stateful.ofExcept (net.layersFrom weights input 0 net.arch.final acts props) := by
  have scored : net.actionLayer weights drop input net.arch.final acts props =
      Stateful.ofExcept (net.actionOutputs weights input net.arch.final acts props) := by
    rw [actionLayer, net.wiring_eq, Wiring.ofProblem, List.mapM_map]
    refine Stateful.mapM_ofExcept (fun s => ?_) _
    rw [Function.comp_apply, actionModule, Stateful.ofExcept_bind]
    refine congrArg _ (funext fun view => ?_)
    rw [if_pos rfl, if_pos rfl]
    rfl
  rw [runLayers, scored, layersFrom, Stateful.ofExcept_bind]
  refine congrArg _ (funext fun final => ?_)
  rw [Stateful.ofExcept_bind]
  rfl

omit [WordSource σ] in
theorem run_of_no_hidden (net : PolicyNetwork α) (weights : Weights α)
    (drop : Tensor α → StateM σ (Tensor α)) (input : PolicyInput α) (none : net.arch.hidden = []) :
    net.run weights drop input = Stateful.ofExcept (net.evaluate weights input) := by
  have only : net.arch.numHidden = 0 := List.length_eq_zero_iff.2 none
  have last : net.arch.final = 0 := only
  have scored := runLayers_final net weights drop input []
  rw [last] at scored
  rw [run, evaluate_eq, Stateful.ofExcept_bind, only]
  exact congrArg _ (funext fun _ => scored _)

end Layers

/-- A pass over the layers that keeps outputs of the same shapes: every layer is computed from
what was kept before it, and the last one is not changed. -/
inductive Passes (net : PolicyNetwork α) (weights : Weights α) (input : PolicyInput α) :
    (hidden layer : Nat) → (acts props : List (Tensor α)) →
    (computed kept final : List (ModuleOutput α)) → (scores : Grid α) → Prop
  | final {layer : Nat} {acts props : List (Tensor α)} {final : List (ModuleOutput α)}
      {scores : Grid α} (acting : net.actionOutputs weights input layer acts props = .ok final)
      (merging : net.mergeOutputs input.props.height (final.map ModuleOutput.output) = .ok scores) :
      Passes net weights input 0 layer acts props [] [] final scores
  | hidden {hidden layer : Nat} {acts props : List (Tensor α)}
      {actions keptActions predicates keptPredicates computed kept final : List (ModuleOutput α)}
      {scores : Grid α} (acting : net.actionOutputs weights input layer acts props = .ok actions)
      (alikeActions : List.Forall₂ ModuleOutput.Alike actions keptActions)
      (stating : net.propOutputs weights input.props.height layer
        (keptActions.map ModuleOutput.output) props = .ok predicates)
      (alikePredicates : List.Forall₂ ModuleOutput.Alike predicates keptPredicates)
      (later : Passes net weights input hidden (layer + 1) (keptActions.map ModuleOutput.output)
        (keptPredicates.map ModuleOutput.output) computed kept final scores) :
      Passes net weights input (hidden + 1) layer acts props (actions ++ predicates ++ computed)
        (keptActions ++ keptPredicates ++ kept) final scores

/-- The number of values at a hidden layer for each row of a batch. -/
def layerValues (problem : Problem) (sizes : LayerSizes) : Nat :=
  problem.numActions * sizes.act + problem.numProps * sizes.prop

omit [Scalar α] in
theorem Recorded.length_layer (shaped : weights.WellShaped) (fits : net.Matches weights)
    {sizes : LayerSizes} (hsizes : weights.arch.hidden[layer]? = some sizes)
    {actions predicates : List (ModuleOutput α)}
    (acting : net.Recorded weights batch net.problem.domain.numSchemas (.action layer) actions)
    (stating : net.Recorded weights batch net.problem.domain.numPredicates (.predicate layer)
      predicates) :
    (values (actions ++ predicates)).length = batch * layerValues net.problem sizes := by
  have acts : ∀ s < net.problem.domain.numSchemas, weights.outputsOf (.action layer s) = sizes.act :=
    fun s inside => shaped.outputsOf_action hsizes (by rw [fits.domain_eq]; exact inside)
  have props : ∀ pred < net.problem.domain.numPredicates,
      weights.outputsOf (.predicate layer pred) = sizes.prop :=
    fun pred inside => shaped.outputsOf_predicate hsizes (by rw [fits.domain_eq]; exact inside)
  rw [ModuleOutput.values_append, List.length_append, acting.length_values acts,
    stating.length_values props, ← Nat.mul_add]
  exact congrArg (batch * ·) (congrArg₂ (· + ·) (congrArg (· * sizes.act)
    net.problem.total_instances) (congrArg (· * sizes.prop) net.problem.total_propsOf))

/-- A hidden layer with dropout: what its modules compute and what is kept of it. -/
structure LayerDropped [WordSource σ] (net : PolicyNetwork α) (weights : Weights α)
    (input : PolicyInput α) (p : α) (layer : Nat) (acts props : List (Tensor α)) (before : σ)
    (actions keptActions predicates keptPredicates : List (ModuleOutput α)) : Prop where
  acting : net.actionOutputs weights input layer acts props = .ok actions
  stating : net.propOutputs weights input.props.height layer
    (keptActions.map ModuleOutput.output) props = .ok predicates
  acts_dropped : Dropped p before actions keptActions
  props_dropped : Dropped p (after (values actions).length before) predicates keptPredicates
  acted : net.Recorded weights input.props.height net.problem.domain.numSchemas (.action layer)
    keptActions
  stated : net.Recorded weights input.props.height net.problem.domain.numPredicates
    (.predicate layer) keptPredicates
  count : ∀ sizes, weights.arch.hidden[layer]? = some sizes →
    (values (actions ++ predicates)).length = input.props.height * layerValues net.problem sizes
  acts_ran : (net.actionLayer weights (Tensor.dropout p) input layer acts props).run.run before =
    (.ok keptActions, after (values actions).length before)
  props_ran : (net.propLayer weights (Tensor.dropout p) input.props.height layer
      (keptActions.map ModuleOutput.output) props).run.run (after (values actions).length before) =
    (.ok keptPredicates, after (values (actions ++ predicates)).length before)

theorem exists_layerDropped [WordSource σ] {p : α} (positive : le p zero = false)
    (shaped : weights.WellShaped) (fits : net.Matches weights)
    (sized : input.Sized net.problem net.arch)
    (ready : net.Ready weights input.props.height layer acts props)
    (below : layer < weights.arch.final) (before : σ) :
    ∃ actions keptActions predicates keptPredicates, net.LayerDropped weights input p layer acts
      props before actions keptActions predicates keptPredicates := by
  have inner : layer ≠ net.arch.final := fits.arch_eq ▸ Nat.ne_of_lt below
  obtain ⟨actions, hactions, acting⟩ :=
    ready.actionOutputs shaped fits sized (Nat.le_of_lt below)
  obtain ⟨keptActions, ranActions, droppedActions⟩ :=
    actionLayer_dropped positive inner hactions before
  have acted := acting.of_alike droppedActions.alike
  obtain ⟨predicates, hpredicates, stating⟩ := ready.propOutputs shaped fits below acted
  obtain ⟨keptPredicates, ranPredicates, droppedPredicates⟩ :=
    propLayer_dropped positive hpredicates (after (values actions).length before)
  refine ⟨actions, keptActions, predicates, keptPredicates, hactions, hpredicates, droppedActions,
    droppedPredicates, acted, stating.of_alike droppedPredicates.alike,
    fun sizes hsizes => acting.length_layer shaped fits hsizes stating, ranActions, ?_⟩
  rw [ranPredicates, ModuleOutput.values_append, List.length_append, WordSource.after_add]

/-- A run of `hidden` layers and the last one with dropout: what the hidden modules compute, what
is kept of it and the outputs of the last layer. -/
structure RunsDropped [WordSource σ] (net : PolicyNetwork α) (weights : Weights α)
    (input : PolicyInput α) (p : α) (hidden layer : Nat) (acts props : List (Tensor α)) (before : σ)
    (computed kept final : List (ModuleOutput α)) (evaluation : Evaluation α) : Prop where
  passes : net.Passes weights input hidden layer acts props computed kept final evaluation.scores
  dropped : Dropped p before computed kept
  records : List.Forall₂ (fun key (out : ModuleOutput α) =>
      out.Records weights input.props.height (net.problem.numEntities key) key)
    (keysFrom weights layer (hidden + 1)) (kept ++ final)
  count : (values computed).length = input.props.height *
    Size.total ((weights.arch.hidden.drop layer).map (layerValues net.problem))
  modules_eq : evaluation.modules = kept ++ final
  ran : (net.runLayers weights (Tensor.dropout p) input hidden layer acts props).run.run before =
    (.ok evaluation, after (values computed).length before)

section Runs

variable [WordSource σ] {p : α}

theorem exists_runsDropped_final (shaped : weights.WellShaped) (fits : net.Matches weights)
    (sized : input.Sized net.problem net.arch)
    (ready : net.Ready weights input.props.height weights.arch.final acts props) (before : σ) :
    ∃ final evaluation, net.RunsDropped weights input p 0 weights.arch.final acts props before
      [] [] final evaluation := by
  obtain ⟨final, hfinal, recorded⟩ := ready.actionOutputs shaped fits sized (Nat.le_refl _)
  have shapes : List.Forall₂ (fun s out => out.dims =
        [input.props.height, (net.problem.schemaActions s).length, 1])
      (List.range net.problem.domain.numSchemas) (final.map ModuleOutput.output) := by
    refine List.forall₂_map_right_iff.2 (forall₂_imp_mem recorded fun s hs out records => ?_)
    have listed : s < weights.domain.numSchemas := by
      rw [fits.domain_eq]
      exact List.mem_range.1 hs
    rw [records.dims_eq, shaped.outputsOf_final listed, (net.problem.picks_schemaActions s).length_eq]
    rfl
  obtain ⟨scores, hscores, -⟩ := merged_entries shapes
  have keys : keysFrom weights weights.arch.final (0 + 1) =
      (List.range net.problem.domain.numSchemas).map (.action weights.arch.final) := by
    simp [keysFrom, BlockKey.ofLayer, fits.domain_eq]
  have none : weights.arch.hidden.drop weights.arch.final = [] := List.drop_length
  refine ⟨final, ⟨final, [], scores⟩, .final hfinal hscores, ⟨.nil, rfl⟩, ?_, ?_, rfl, ?_⟩
  · rw [keys, List.nil_append]
    exact recorded.keys
  · rw [none]
    rfl
  · have scored := runLayers_final net weights (Tensor.dropout p : Tensor α → StateM σ _) input
      acts props
    rw [← fits.arch_eq, layersFrom, hfinal, ok_bind, hscores] at scored
    rw [scored]
    rfl

/-- From layer to layer, dropout draws one word for each value that a hidden module computes. -/
theorem exists_runsDropped (positive : le p zero = false) (shaped : weights.WellShaped)
    (fits : net.Matches weights) (sized : input.Sized net.problem net.arch) {hidden : Nat}
    (ready : net.Ready weights input.props.height layer acts props)
    (inside : layer + hidden = weights.arch.final) (before : σ) :
    ∃ computed kept final evaluation, net.RunsDropped weights input p hidden layer acts props before
      computed kept final evaluation := by
  induction hidden generalizing layer acts props before with
  | zero =>
    obtain rfl : layer = weights.arch.final := inside
    exact ⟨[], [], exists_runsDropped_final shaped fits sized ready before⟩
  | succ hidden ih =>
    have below : layer < weights.arch.final := by omega
    have bound : layer < weights.arch.hidden.length := below
    obtain ⟨actions, keptActions, predicates, keptPredicates, first⟩ :=
      exists_layerDropped positive shaped fits sized ready below before
    obtain ⟨computed, kept, final, rest, run⟩ := ih (first.acted.ready first.stated) (by omega)
      (after (values (actions ++ predicates)).length before)
    have all : (values (actions ++ predicates ++ computed)).length =
        (values (actions ++ predicates)).length + (values computed).length := by
      rw [ModuleOutput.values_append, List.length_append]
    refine ⟨actions ++ predicates ++ computed, keptActions ++ keptPredicates ++ kept, final,
      ⟨keptActions ++ keptPredicates ++ rest.modules,
        net.wiring.layerPools :: rest.emptyPools, rest.scores⟩,
      .hidden first.acting first.acts_dropped.alike first.stating first.props_dropped.alike
        run.passes,
      (first.acts_dropped.append first.props_dropped).append run.dropped, ?_, ?_, ?_, ?_⟩
    · rw [keysFrom_succ, BlockKey.ofLayer, if_pos below, fits.domain_eq, List.append_assoc _ kept]
      exact List.rel_append (List.rel_append first.acted.keys first.stated.keys) run.records
    · rw [all, first.count _ (List.getElem?_eq_getElem bound), run.count,
        List.drop_eq_getElem_cons bound, List.map_cons, Size.total_cons, ← Nat.mul_add]
    · rw [run.modules_eq, List.append_assoc _ kept]
    · rw [runLayers, Stateful.run_bind_ok first.acts_ran]
      refine (Stateful.run_bind_ok first.props_ran _).trans ?_
      refine (Stateful.run_bind_ok run.ran _).trans ?_
      rw [all, WordSource.after_add]
      rfl

/-! ## Training -/

theorem train_eq_forward {input : MaskedInput α}
    (h : le net.config.dropout zero = true ∨ net.arch.hidden = []) :
    (net.train weights input : Stateful α σ (Grid α)) =
      Stateful.ofExcept (net.forward weights input) := by
  have ran : net.run weights (Tensor.dropout net.config.dropout : Tensor α → StateM σ _)
      input.toPolicyInput = Stateful.ofExcept (net.evaluate weights input.toPolicyInput) := by
    rcases h with none | none
    · have unchanged : (Tensor.dropout net.config.dropout : Tensor α → StateM σ _) = pure :=
        funext fun tensor => if_pos none
      rw [unchanged, run_ofExcept]
    · exact run_of_no_hidden net weights _ _ none
  rw [train, ran, forward, Stateful.ofExcept_bind]
  refine congrArg _ (funext fun _ => ?_)
  rw [Stateful.ofExcept_bind]

theorem memory_train {input : MaskedInput α} (sized : input.Sized net.problem net.arch)
    (fits : net.Matches weights) (before : σ) :
    (Memory.train net weights input before).outcome.1 =
      net.checkSizes input.props.height >>= fun _ => ((net.train weights input).run.run before).1 := by
  have ran : (Memory.train net weights input before).outcome.1 = _ := Logged.ofExcept_bind
  rw [ran, checkMasked_eq_ok.2 sized, checkWeights_eq_ok.2 fits]
  rfl

/-- The number of words that training draws for a batch. -/
def numDraws (net : PolicyNetwork α) (batch : Nat) : Nat :=
  batch * Size.total (net.arch.hidden.map (layerValues net.problem))

/-- Without dropout or without hidden layers, training is inference and draws nothing. Otherwise
it draws one word for each value that a hidden module computes, in the order in which the modules
are run, and it keeps and scales up the values whose words are small enough; the scores come from
the last layer as it is. -/
theorem training_draws (net : PolicyNetwork α) (weights : Weights α) (input : MaskedInput α)
    (before : σ) :
    (le net.config.dropout zero = true ∨ net.arch.hidden = [] →
      (net.train weights input).run.run before = (net.forward weights input, before) ∧
        Memory.train net weights input before = Memory.forward net weights input) ∧
    (le net.config.dropout zero = false → weights.WellShaped → net.Matches weights →
      input.Sized net.problem net.arch → ∃ computed kept final scores,
        net.Passes weights input.toPolicyInput net.arch.numHidden 0 []
            (net.wiring.props.map (initialProps input.props)) computed kept final scores ∧
          List.Forall₂ (fun key (out : ModuleOutput α) =>
              out.Records weights input.props.height (net.problem.numEntities key) key)
            weights.keys (kept ++ final) ∧
          (values computed).length = net.numDraws input.props.height ∧
          values kept = List.zipWith (Tensor.dropValue (one - net.config.dropout))
            ((words (net.numDraws input.props.height) before).map (Uniform.fraction 24))
            (values computed) ∧
          (net.train weights input).run.run before =
            (maskedSoftmax scores input.mask, after (net.numDraws input.props.height) before) ∧
          (Memory.train net weights input before).outcome.1 =
            net.checkSizes input.props.height >>= fun _ => maskedSoftmax scores input.mask) := by
  refine ⟨fun h => ?_, fun positive shaped fits sized => ?_⟩
  · have same : (net.train weights input).run.run before = (net.forward weights input, before) := by
      rw [train_eq_forward h]
      rfl
    refine ⟨same, ?_⟩
    show (net.start weights input.props.height (net.checkMasked input) >>= fun _ =>
      Logged.ofExcept ((net.train weights input).run.run before).1) = _
    rw [same]
    rfl
  · have layers : 0 + net.arch.numHidden = weights.arch.final := by
      rw [fits.arch_eq, Nat.zero_add]
      rfl
    obtain ⟨computed, kept, final, evaluation, run⟩ := exists_runsDropped positive shaped fits
      sized.unmasked (net.ready_zero weights input.toPolicyInput) layers before
    have count : (values computed).length = net.numDraws input.props.height := by
      rw [run.count, List.drop_zero, fits.arch_eq]
      rfl
    have records := run.records
    rw [← Nat.zero_add net.arch.numHidden, layers, keysFrom_zero] at records
    have trained : (net.train weights input).run.run before = (maskedSoftmax evaluation.scores
        input.mask, after (net.numDraws input.props.height) before) := by
      have ran : (net.run weights (Tensor.dropout net.config.dropout)
          input.toPolicyInput).run.run before =
            (.ok evaluation, after (net.numDraws input.props.height) before) := by
        rw [PolicyNetwork.run, checkWeights_eq_ok.2 fits, ← count]
        exact run.ran
      rw [train, checkMasked_eq_ok.2 sized]
      exact (Stateful.run_bind_ok ran _).trans rfl
    refine ⟨computed, kept, final, evaluation.scores, run.passes, records, count, ?_, trained, ?_⟩
    · rw [run.dropped.values_eq, count]
    · rw [memory_train sized fits, trained]

end Runs

end PolicyNetwork

namespace WalkDomain

def enabledWalks : MaskedInput Rational :=
  { featureless with mask := ⟨1, 3, [1, 1, 1].map .mk, rfl⟩ }

def undropped : PolicyNetwork Rational := { network with config.dropout := zero }

/-- Three actions and four propositions have one hidden value each. -/
theorem seven_words_drawn :
    le network.config.dropout zero = false ∧ lowWalks.WellShaped ∧ network.Matches lowWalks ∧
      enabledWalks.Sized problem arch ∧ (∃ probabilities,
        (network.train lowWalks enabledWalks).run.run (Generator.ofSeed 0) =
          (probabilities, after 7 (Generator.ofSeed 0))) ∧
      le undropped.config.dropout zero = true ∧
      (undropped.train lowWalks enabledWalks).run.run (Generator.ofSeed 0) =
        (undropped.forward lowWalks enabledWalks, Generator.ofSeed 0) := by
  have positive : le network.config.dropout zero = false := by decide +kernel
  have none : le undropped.config.dropout zero = true := by decide +kernel
  have shaped : lowWalks.WellShaped :=
    Weights.wellShaped_of_entries (by decide) (by decide) (by decide)
  have fits : network.Matches lowWalks := ⟨rfl, rfl⟩
  have sized : enabledWalks.Sized problem arch := ⟨⟨rfl, rfl⟩, rfl⟩
  obtain ⟨-, drawn⟩ := PolicyNetwork.training_draws network lowWalks enabledWalks
    (Generator.ofSeed 0)
  obtain ⟨computed, kept, final, scores, -, -, -, -, trained, -⟩ := drawn positive shaped fits sized
  obtain ⟨same, -⟩ := PolicyNetwork.training_draws undropped lowWalks enabledWalks
    (Generator.ofSeed 0)
  exact ⟨positive, shaped, fits, sized, ⟨_, trained⟩, none, (same (.inl none)).1⟩

end WalkDomain

end SchemaNet
