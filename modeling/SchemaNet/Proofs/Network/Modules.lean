import SchemaNet.Proofs.Network.Views

/-!
The modules of one layer. A module can be run exactly if its block fits the width of its
view, and then its output tabulates what the block makes of the view of each entity.
-/

namespace SchemaNet
open Memory (bind_eq_ok)

variable {α β : Type}

theorem Weights.block_eq_ok {weights : Weights α} {key : BlockKey} {block : WeightBlock α} :
    weights.block key = .ok block ↔ weights.get? key = some block := by
  unfold Weights.block
  split
  · next found => simp [found]
  · next missing =>
    simp only [missing, bind_eq_ok, reduceCtorEq, iff_false, not_exists, not_and]
    rintro _ - ⟨⟩

/-- The number of ground instances that share a block. -/
def Problem.numEntities (problem : Problem) (key : BlockKey) : Nat :=
  match key.kind with
  | .action id => (problem.instances id).length
  | .predicate id => (problem.propsOf id).length

/-- The record of a module: its key, the width of its block and the shape of its output. -/
structure ModuleOutput.Records (out : ModuleOutput α) (weights : Weights α) (batch count : Nat)
    (key : BlockKey) : Prop where
  key_eq : out.key = key
  inputWidth_eq : out.inputWidth = weights.viewWidth key
  dims_eq : out.output.dims = [batch, count, weights.outputsOf key]

/-- A module whose output tabulates a function of the entities. -/
structure ModuleOutput.Computes (out : ModuleOutput α) (weights : Weights α) (key : BlockKey)
    (batch : Nat) (entities : List β) (value : Nat → β → List α) : Prop where
  key_eq : out.key = key
  inputWidth_eq : out.inputWidth = weights.viewWidth key
  tabulates : out.output.Tabulates batch entities (weights.outputsOf key) value

namespace PolicyNetwork

variable [Scalar α] {net : PolicyNetwork α} {weights : Weights α} {key : BlockKey}
  {activation : Activation} {view : Tensor α} {out : ModuleOutput α}

theorem runModule_eq_ok : net.runModule weights key activation view = .ok out ↔
    ∃ name block output,
      (key.name net.domain net.arch : Except (NetworkError α) String) = .ok name ∧
      weights.get? key = some block ∧ block.apply name activation view = .ok output ∧
        ⟨key, name, view.channels, output⟩ = out := by
  simp only [runModule, bind_eq_ok, Weights.block_eq_ok, pure_eq_ok, Except.ok.injEq]
  constructor
  · rintro ⟨name, hname, block, hblock, output, houtput, hout⟩
    exact ⟨name, block, output, hname, hblock, houtput, hout⟩
  · rintro ⟨name, block, output, hname, hblock, houtput, hout⟩
    exact ⟨name, hname, block, hblock, output, houtput, hout⟩

variable {batch : Nat} {xs : List β} {value : Nat → β → List α}

theorem exists_runModule_iff (fits : net.Matches weights) (hkey : key ∈ weights.keys)
    (h : view.Tabulates batch xs (weights.viewWidth key) value) :
    (∃ out, net.runModule weights key activation view = .ok out) ↔ weights.Accepts key := by
  constructor
  · rintro ⟨out, hout⟩
    obtain ⟨name, block, output, -, hblock, houtput, -⟩ := runModule_eq_ok.1 hout
    obtain ⟨inputs, biased⟩ := WeightBlock.fits_of_apply houtput
    exact ⟨block, hblock, inputs.trans h.channels_eq, biased⟩
  · rintro ⟨block, hblock, inputs, biased⟩
    obtain ⟨name, hname⟩ := BlockKey.exists_name (α := α) hkey
    obtain ⟨output, houtput, -⟩ := WeightBlock.apply_tabulates name activation h inputs biased
    rw [fits.domain_eq, fits.arch_eq] at hname
    exact ⟨_, runModule_eq_ok.2 ⟨name, block, output, hname, hblock, houtput, rfl⟩⟩

theorem runModule_computes (h : net.runModule weights key activation view = .ok out)
    (hview : view.Tabulates batch xs (weights.viewWidth key) value) :
    out.Computes weights key batch xs fun b x => weights.image key activation (value b x) := by
  obtain ⟨name, block, output, -, hblock, houtput, rfl⟩ := runModule_eq_ok.1 h
  obtain ⟨inputs, biased⟩ := WeightBlock.fits_of_apply houtput
  obtain ⟨other, hother, tabulated⟩ := WeightBlock.apply_tabulates name activation hview
    (inputs.trans hview.channels_eq) biased
  obtain rfl := Except.ok.inj (houtput.symm.trans hother)
  refine ⟨rfl, hview.channels_eq, ?_⟩
  rw [Weights.outputsOf_eq hblock]
  simp only [Weights.image_eq hblock]
  exact tabulated

/-! ## Layers -/

def actionModule (net : PolicyNetwork α) (weights : Weights α) (input : PolicyInput α)
    (layer : Nat) (acts props : List (Tensor α)) (s : SchemaId) :
    Except (NetworkError α) (ModuleOutput α) := do
  let view ← net.actionInput input layer acts props (Wiring.ofSchema net.problem s)
  net.runModule weights (.action layer s)
    (if layer = net.arch.final then .identity else net.config.activation) view

def propModule (net : PolicyNetwork α) (weights : Weights α) (batch layer : Nat)
    (acts props : List (Tensor α)) (pred : PredId) : Except (NetworkError α) (ModuleOutput α) := do
  let view ← net.propInput batch layer acts props (Wiring.ofPredicate net.problem pred)
  net.runModule weights (.predicate layer pred) net.config.activation view

/-- The action modules of a layer, without dropout. -/
def actionOutputs (net : PolicyNetwork α) (weights : Weights α) (input : PolicyInput α)
    (layer : Nat) (acts props : List (Tensor α)) :
    Except (NetworkError α) (List (ModuleOutput α)) :=
  (List.range net.problem.domain.numSchemas).mapM (net.actionModule weights input layer acts props)

/-- The proposition modules of a layer, without dropout. -/
def propOutputs (net : PolicyNetwork α) (weights : Weights α) (batch layer : Nat)
    (acts props : List (Tensor α)) : Except (NetworkError α) (List (ModuleOutput α)) :=
  (List.range net.problem.domain.numPredicates).mapM (net.propModule weights batch layer acts props)

theorem actionLayer_run (net : PolicyNetwork α) (weights : Weights α) (input : PolicyInput α)
    (layer : Nat) (acts props : List (Tensor α)) :
    (net.actionLayer (m := Id) weights pure input layer acts props).run =
      net.actionOutputs weights input layer acts props := by
  rw [actionLayer, net.wiring_eq, Wiring.ofProblem, List.mapM_map]
  refine mapM_run (fun s => ?_) _
  rw [Function.comp_apply, run_bind, actionModule]
  refine congrArg _ (funext fun view => ?_)
  dsimp only
  split
  · rfl
  · rw [run_bind]
    show net.runModule weights (.action layer s) net.config.activation view >>= _ = _
    rcases net.runModule weights (.action layer s) net.config.activation view <;> rfl

theorem propLayer_run (net : PolicyNetwork α) (weights : Weights α) (batch layer : Nat)
    (acts props : List (Tensor α)) :
    (net.propLayer (m := Id) weights pure batch layer acts props).run =
      net.propOutputs weights batch layer acts props := by
  rw [propLayer, net.wiring_eq, Wiring.ofProblem, List.mapM_map]
  refine mapM_run (fun pred => ?_) _
  rw [Function.comp_apply, run_bind, propModule]
  refine congrArg _ (funext fun view => ?_)
  dsimp only
  rw [run_bind]
  show net.runModule weights (.predicate layer pred) net.config.activation view >>= _ = _
  rcases net.runModule weights (.predicate layer pred) net.config.activation view <;> rfl

/-! ## The tensors around a layer -/

/-- What the entities have in row `b` before a layer. -/
def stage (net : PolicyNetwork α) (weights : Weights α) (input : PolicyInput α) (layer b : Nat) :
    Values α :=
  Relational.values net.problem net.config weights (input.reading net.problem b) layer

/-- The tensors with which a layer begins. -/
structure Before (net : PolicyNetwork α) (weights : Weights α) (input : PolicyInput α)
    (layer : Nat) (acts props : List (Tensor α)) : Prop where
  acts : 0 < layer ∧ net.arch.skip → Tensor.Family input.props.height
    net.problem.domain.numSchemas net.problem.instances (weights.actsBefore layer)
    (fun b => (net.stage weights input layer b).acts) acts
  props : Tensor.Family input.props.height net.problem.domain.numPredicates
    net.problem.propsOf (weights.propsBefore layer)
    (fun b => (net.stage weights input layer b).props) props

abbrev Acted (net : PolicyNetwork α) (weights : Weights α) (input : PolicyInput α) (layer : Nat)
    (acts : List (Tensor α)) : Prop :=
  Tensor.Family input.props.height net.problem.domain.numSchemas net.problem.instances
    (fun s => weights.outputsOf (.action layer s))
    (fun b => (net.stage weights input (layer + 1) b).acts) acts

variable {input : PolicyInput α} {layer : Nat} {acts props : List (Tensor α)}

theorem exists_actionModule_iff (fits : net.Matches weights)
    (sized : input.Sized net.problem net.arch)
    (before : net.Before weights input layer acts props) (final : layer ≤ weights.arch.final)
    {s : Nat} (inside : s < net.problem.domain.numSchemas) :
    (∃ out, net.actionModule weights input layer acts props s = .ok out) ↔
      weights.Accepts (.action layer s) := by
  obtain ⟨view, hview, tabulated⟩ := exists_actionInput fits sized inside before.acts before.props
  have hkey : BlockKey.action layer s ∈ weights.keys :=
    BlockKey.action_mem_all.2 ⟨final, by rw [fits.domain_eq]; exact inside⟩
  rw [actionModule, hview, ok_bind]
  exact exists_runModule_iff fits hkey tabulated

theorem actionModule_computes (fits : net.Matches weights)
    (sized : input.Sized net.problem net.arch)
    (before : net.Before weights input layer acts props) {s : Nat}
    (inside : s < net.problem.domain.numSchemas)
    (h : net.actionModule weights input layer acts props s = .ok out) :
    out.Computes weights (.action layer s) input.props.height (net.problem.instances s)
      fun b => (net.stage weights input (layer + 1) b).acts := by
  obtain ⟨view, hview, tabulated⟩ := exists_actionInput fits sized inside before.acts before.props
  rw [actionModule, hview, ok_bind] at h
  obtain ⟨key, width, computed⟩ := runModule_computes h tabulated
  refine ⟨key, width, computed.congr fun b _ action haction => ?_⟩
  have own := (List.mem_filter.1 haction).2
  show _ = Relational.actionValue net.problem net.config weights _ layer _ action
  rw [Relational.actionValue, Relational.actionKey, beq_iff_eq.1 own, Relational.actionActivation,
    fits.arch_eq]
  rfl

theorem exists_propModule_iff (fits : net.Matches weights)
    (before : net.Before weights input layer acts props) {after : List (Tensor α)}
    (acted : net.Acted weights input layer after) (hidden : layer < weights.arch.final)
    {pred : Nat} (inside : pred < net.problem.domain.numPredicates) :
    (∃ out, net.propModule weights input.props.height layer after props pred = .ok out) ↔
      weights.Accepts (.predicate layer pred) := by
  obtain ⟨view, hview, tabulated⟩ := exists_propInput fits inside acted fun _ => before.props
  have hkey : BlockKey.predicate layer pred ∈ weights.keys :=
    BlockKey.predicate_mem_all.2 ⟨hidden, by rw [fits.domain_eq]; exact inside⟩
  rw [propModule, hview, ok_bind]
  exact exists_runModule_iff fits hkey tabulated

theorem propModule_computes (fits : net.Matches weights)
    (before : net.Before weights input layer acts props) {after : List (Tensor α)}
    (acted : net.Acted weights input layer after) {pred : Nat}
    (inside : pred < net.problem.domain.numPredicates)
    (h : net.propModule weights input.props.height layer after props pred = .ok out) :
    out.Computes weights (.predicate layer pred) input.props.height (net.problem.propsOf pred)
      fun b => (net.stage weights input (layer + 1) b).props := by
  obtain ⟨view, hview, tabulated⟩ := exists_propInput fits inside acted fun _ => before.props
  rw [propModule, hview, ok_bind] at h
  obtain ⟨key, width, computed⟩ := runModule_computes h tabulated
  refine ⟨key, width, computed.congr fun b _ prop hprop => ?_⟩
  have own := (List.mem_filter.1 hprop).2
  show _ = Relational.propValue net.problem net.config weights layer _ _ prop
  rw [Relational.propValue, Relational.propKey, beq_iff_eq.1 own]
  rfl

end PolicyNetwork

end SchemaNet
