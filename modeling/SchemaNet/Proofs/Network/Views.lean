import SchemaNet.Proofs.Network.Widths

/-!
What the modules of one layer see. Each module puts its view together from tables of
positions; if the tensors of the layer before tabulate the values of the entities, the view
tabulates what the relations say of each instance.
-/

namespace SchemaNet
open Memory (bind_eq_ok)

variable {α β : Type}

namespace Tensor

/-- One tensor for each of several families of entities. -/
def Family (batch count : Nat) (entities : Nat → List β) (widths : Nat → Nat)
    (value : Nat → β → List α) (tensors : List (Tensor α)) : Prop :=
  List.Forall₂ (fun i tensor => tensor.Tabulates batch (entities i) (widths i) value)
    (List.range count) tensors

variable {batch count : Nat} {entities : Nat → List β} {widths : Nat → Nat}
  {value : Nat → β → List α} {tensors : List (Tensor α)}

theorem Family.exists_tensor (h : Family batch count entities widths value tensors) {i : Nat}
    (inside : i < count) : ∃ tensor, PolicyNetwork.outputOf tensors i = .ok tensor ∧
      tensor.Tabulates batch (entities i) (widths i) value := by
  have bound : i < tensors.length := by
    rw [← h.length_eq, List.length_range]
    exact inside
  obtain ⟨j, hj, tabulated⟩ := forall₂_getElem? h (List.getElem?_eq_getElem bound)
  rw [List.getElem?_range inside] at hj
  obtain rfl := Option.some.inj hj
  refine ⟨tensors[i], ?_, tabulated⟩
  rw [PolicyNetwork.outputOf, List.getElem?_eq_getElem bound]
  rfl

end Tensor

/-! ## Inputs -/

/-- An input with a truth value for each proposition and the features of each action. -/
structure PolicyInput.Sized (input : PolicyInput α) (problem : Problem) (arch : Architecture) :
    Prop where
  props_width : input.props.width = problem.numProps
  extra_dims : input.extra.dims = [input.props.height, problem.numActions, arch.extraDim]

theorem PolicyInput.reading_truth [Scalar α] {problem : Problem} {input : PolicyInput α}
    {b id : Nat} {prop : GroundAtom} (h : problem.props[id]? = some prop) :
    (input.reading problem b).truth prop = (input.props.rows.getD b []).getD id Scalar.zero := by
  show (input.props.rows.getD b []).getD (problem.props.findIdx (·.ident == prop.ident)) _ = _
  rw [findIdx_key problem.props_distinct h]

theorem PolicyInput.reading_features [Scalar α] {problem : Problem} {input : PolicyInput α}
    {b id : Nat} {action : GroundAction} (h : problem.actions[id]? = some action) :
    (input.reading problem b).features action = (input.extra.rows.getD b []).getD id [] := by
  show (input.extra.rows.getD b []).getD (problem.actions.findIdx (·.ident == action.ident)) _ = _
  rw [findIdx_key problem.actions_distinct h]

theorem getD_getD {β : Type} (rows : List (List β)) (b i : Nat) (d : β) :
    (rows.getD b []).getD i d = ((rows[b]?).bind (·[i]?)).getD d := by
  rw [List.getD_eq_getElem?_getD, List.getD_eq_getElem?_getD]
  cases rows[b]? <;> rfl

theorem checkDims_eq_ok {name : InputName} {expected found : List Nat} :
    (checkDims name expected found : Except (NetworkError α) Unit) = .ok () ↔ expected = found := by
  unfold checkDims
  split
  · next same => simp [same]
  · next other => simp [other]

namespace PolicyNetwork

theorem checkInput_eq_ok {net : PolicyNetwork α} {input : PolicyInput α} :
    net.checkInput input = .ok () ↔ input.Sized net.problem net.arch := by
  have width : [input.props.height, net.problem.numProps] = input.props.dims ↔
      input.props.width = net.problem.numProps := by
    simp [Grid.dims, eq_comm]
  rw [checkInput, bind_eq_ok]
  constructor
  · rintro ⟨_, props, extra⟩
    exact ⟨width.1 (checkDims_eq_ok.1 props), (checkDims_eq_ok.1 extra).symm⟩
  · rintro ⟨props, extra⟩
    exact ⟨(), checkDims_eq_ok.2 (width.2 props), checkDims_eq_ok.2 extra.symm⟩

/-- Weights of the domain and the architecture of a network. -/
structure Matches (net : PolicyNetwork α) (weights : Weights α) : Prop where
  domain_eq : weights.domain = net.problem.domain
  arch_eq : weights.arch = net.arch

theorem checkWeights_eq_ok {net : PolicyNetwork α} {weights : Weights α} :
    net.checkWeights weights = .ok () ↔ net.Matches weights := by
  unfold checkWeights
  by_cases same : weights.domain = net.domain
  · by_cases fits : weights.arch = net.arch
    · rw [if_neg (not_not.2 same), if_neg (not_not.2 fits)]
      exact ⟨fun _ => ⟨same, fits⟩, fun _ => rfl⟩
    · rw [if_neg (not_not.2 same), if_pos fits]
      exact ⟨(fun h => nomatch h), fun h => absurd h.arch_eq fits⟩
  · rw [if_pos same]
    exact ⟨(fun h => nomatch h), fun h => absurd h.domain_eq same⟩

variable {problem : Problem} {input : PolicyInput α}

section Inputs

variable [Scalar α]

theorem features_tabulate {arch : Architecture} (sized : input.Sized problem arch) :
    input.extra.Tabulates input.props.height problem.actions arch.extraDim
      fun b action => (input.reading problem b).features action := by
  obtain ⟨batch, entities, channels⟩ : input.extra.batch = input.props.height ∧
      input.extra.entities = problem.numActions ∧ input.extra.channels = arch.extraDim := by
    simpa [Tensor.dims] using sized.extra_dims
  refine ⟨batch, entities, channels, ?_⟩
  have rows := map_range_getD input.extra.rows []
  rw [input.extra.rows_dims.count, batch] at rows
  rw [← rows]
  refine List.map_congr_left fun b hb => ?_
  have inside : b < input.extra.rows.length := by
    rw [input.extra.rows_dims.count, batch]
    exact List.mem_range.1 hb
  refine (map_getD_findIdx problem.actions_distinct ?_).symm
  rw [List.getD_eq_getElem?_getD, List.getElem?_eq_getElem inside, Option.getD_some,
    (input.extra.rows_dims.each _ (List.getElem_mem inside)).count, entities]
  rfl

/-- Before the first layer the tensors hold the truth of the propositions and their goal flags. -/
theorem initialProps_family (config : ModuleConfig α) (weights : Weights α) :
    Tensor.Family input.props.height problem.domain.numPredicates problem.propsOf
      (weights.propsBefore 0)
      (fun b => (Relational.values problem config weights (input.reading problem b) 0).props)
      ((Wiring.ofProblem problem).props.map (initialProps input.props)) := by
  rw [Tensor.Family, Wiring.ofProblem, List.map_map, List.forall₂_map_right_iff, List.forall₂_same]
  intro pred _
  have picks := problem.picks_predicateProps pred
  refine ⟨rfl, ?_, rfl, ?_⟩
  · show ((problem.predicateProps pred).map fun id => (id, problem.isGoal id)).length = _
    rw [List.length_map, picks.length_eq]
  · rw [Function.comp_apply, initialProps, Tensor.rows_build]
    have rows := map_range_getD input.props.rows []
    rw [input.props.rows_shape.count] at rows
    rw [← rows, List.map_map, Wiring.ofPredicate]
    refine List.map_congr_left fun b _ => ?_
    rw [Function.comp_apply, List.map_map]
    refine map_eq_map_of_forall₂ picks fun id prop hid => ?_
    rw [Function.comp_apply, Problem.isGoal_eq hid]
    show _ = [(input.reading problem b).truth prop, _]
    rw [PolicyInput.reading_truth hid]

end Inputs

/-! ## Parts of a view -/

/-- What a module sees of its own entities, if it sees them. -/
def ownSpecs (flag : Prop) [Decidable flag] (width : Nat) (value : Nat → β → List α) :
    List (Nat × (Nat → β → List α)) :=
  if flag then [(width, value)] else []

theorem ownSpecs_width {flag : Prop} [Decidable flag] {width : Nat} {value : Nat → β → List α} :
    Size.total ((ownSpecs flag width value).map Prod.fst) = if flag then width else 0 := by
  unfold ownSpecs
  split_ifs <;> simp

theorem ownSpecs_values {flag : Prop} [Decidable flag] {width : Nat} {value : Nat → β → List α}
    (b : Nat) (x : β) : ((ownSpecs flag width value).flatMap fun spec => spec.2 b x) =
      if flag then value b x else [] := by
  unfold ownSpecs
  split_ifs <;> simp

theorem exists_ownPart {batch count : Nat} {entities : Nat → List β} {widths : Nat → Nat}
    {value : Nat → β → List α} {tensors : List (Tensor α)} {flag : Prop} [Decidable flag]
    (h : flag → Tensor.Family batch count entities widths value tensors) {i : Nat}
    (inside : i < count) :
    ∃ parts, (if flag then do pure [← outputOf tensors i] else pure []) = .ok parts ∧
      Tensor.Parts batch (entities i) parts (ownSpecs flag (widths i) value) := by
  unfold ownSpecs
  split
  · next holds =>
    obtain ⟨tensor, htensor, tabulated⟩ := (h holds).exists_tensor inside
    exact ⟨[tensor], by rw [htensor]; rfl, .cons tabulated .nil⟩
  · exact ⟨[], rfl, .nil⟩

/-- The features of the instances of a schema; at a later layer, or if there are none, they
are left out. -/
theorem exists_features [Scalar α] {arch : Architecture} (sized : input.Sized problem arch)
    (layer s : Nat) :
    ∃ parts, (if layer = 0 ∧ 0 < arch.extraDim then do
        pure [← input.extra.gather (problem.schemaActions s)] else pure []) = .ok parts ∧
      Tensor.Parts input.props.height (problem.instances s) parts
        (ownSpecs (layer = 0 ∧ 0 < arch.extraDim) arch.extraDim
          fun b action => (input.reading problem b).features action) := by
  unfold ownSpecs
  split
  · obtain ⟨tensor, htensor, tabulated⟩ := (features_tabulate sized).gather
      ((problem.picks_schemaActions s).imp fun i action hi => ⟨action, hi, fun _ => rfl⟩)
    exact ⟨[tensor], by rw [htensor]; rfl, .cons tabulated .nil⟩
  · exact ⟨[], rfl, .nil⟩

/-- The propositions in the slots of the instances of a schema, slot by slot. -/
def gatherSpecs (problem : Problem) (schema : Schema) (widths : Nat → Nat)
    (value : Nat → GroundAtom → List α) : List (Nat × (Nat → GroundAction → List α)) :=
  schema.relevant.zipIdx.map fun (atom, k) =>
    (widths (problem.domain.predicatePosition atom.predicate),
      fun b action => (((problem.heldBy action)[k]?).map (value b)).getD [])

theorem exists_gathered {batch s : Nat} {schema : Schema} {widths : Nat → Nat}
    {value : Nat → GroundAtom → List α} {props : List (Tensor α)}
    (h : Tensor.Family batch problem.domain.numPredicates problem.propsOf widths value props)
    (hs : problem.domain.schemas[s]? = some schema) :
    ∃ parts, ((Wiring.ofSchema problem s).slots.mapM fun slot => do
        (← outputOf props slot.pred).gather slot.positions) = .ok parts ∧
      Tensor.Parts batch (problem.instances s) parts (gatherSpecs problem schema widths value) := by
  have each : ∀ entry ∈ schema.relevant.zipIdx, ∃ part,
      (outputOf props (problem.domain.predicatePosition entry.1.predicate) >>= fun tensor =>
        tensor.gather (problem.gatherIndices s entry.2)) = .ok part ∧
      part.Tabulates batch (problem.instances s)
        (widths (problem.domain.predicatePosition entry.1.predicate))
        fun b action => (((problem.heldBy action)[entry.2]?).map (value b)).getD [] := by
    rintro ⟨atom, k⟩ hentry
    have hk := List.mk_mem_zipIdx_iff_getElem?.1 hentry
    have listed := Domain.relevant_listed (List.mem_of_getElem? hs) (List.mem_of_getElem? hk)
    obtain ⟨tensor, htensor, tabulated⟩ := h.exists_tensor (Domain.predicatePosition_lt listed)
    rw [htensor]
    refine tabulated.gather ((Problem.gatherIndices_beside hs hk).imp fun place action => ?_)
    rintro ⟨prop, hprop, hplace⟩
    exact ⟨prop, hplace, fun b => by rw [hprop, Option.map_some, Option.getD_some]⟩
  obtain ⟨parts, hparts, tabulated⟩ := exists_mapM each
  refine ⟨parts, ?_, List.forall₂_map_right_iff.2 tabulated.flip⟩
  rw [Wiring.ofSchema, Domain.relevantPredicates_of_getElem? hs, List.zipIdx_map, List.map_map,
    List.mapM_map]
  exact hparts

theorem gatherSpecs_widths {s : Nat} {schema : Schema}
    (hs : problem.domain.schemas[s]? = some schema) (widths : Nat → Nat)
    (value : Nat → GroundAtom → List α) :
    (gatherSpecs problem schema widths value).map Prod.fst =
      (problem.domain.relevantPredicates s).map widths := by
  have atoms := List.zipIdx_map_fst 0 schema.relevant
  rw [Domain.relevantPredicates_of_getElem? hs]
  conv_rhs => rw [← atoms]
  rw [gatherSpecs, List.map_map, List.map_map, List.map_map]
  rfl

theorem gatherSpecs_values {action : GroundAction} {schema : Schema}
    (inst : action.Instantiates schema problem.props) (widths : Nat → Nat)
    (value : Nat → GroundAtom → List α) (b : Nat) :
    ((gatherSpecs problem schema widths value).flatMap fun spec => spec.2 b action) =
      (problem.heldBy action).flatMap (value b) := by
  have slots := List.zipIdx_map_snd 0 schema.relevant
  rw [← List.range_eq_range', ← Problem.heldBy_length inst] at slots
  rw [← flatMap_range_getElem? (problem.heldBy action), ← slots, List.flatMap_map, gatherSpecs,
    List.flatMap_map]

/-- The pooled holders of the propositions of a predicate, slot by slot. -/
def poolSpecs [Scalar α] (problem : Problem) (pred : PredId) (pad : α) (widths : Nat → Nat)
    (value : Nat → GroundAction → List α) : List (Nat × (Nat → GroundAtom → List α)) :=
  (problem.domain.actionSlots pred).map fun slot => (widths slot.schema, fun b prop =>
    Tensor.poolValues (widths slot.schema) pad
      ((problem.holders (problem.domain.schemaName slot.schema) slot.slot prop).map (value b)))

theorem exists_pooled [Scalar α] {batch : Nat} {widths : Nat → Nat}
    {value : Nat → GroundAction → List α} {acts : List (Tensor α)} (pred : PredId) (pad : α)
    (h : Tensor.Family batch problem.domain.numSchemas problem.instances widths value acts) :
    ∃ parts, ((Wiring.ofPredicate problem pred).slots.mapM fun slot => do
        (← outputOf acts slot.schema).maxPool slot.pools pad) = .ok parts ∧
      Tensor.Parts batch (problem.propsOf pred) parts
        (poolSpecs problem pred pad widths value) := by
  have each : ∀ entry ∈ (problem.domain.actionSlots pred).zipIdx, ∃ part,
      (outputOf acts entry.1.schema >>= fun tensor =>
        tensor.maxPool (problem.poolIndices pred entry.2) pad) = .ok part ∧
      part.Tabulates batch (problem.propsOf pred) (widths entry.1.schema) fun b prop =>
        Tensor.poolValues (widths entry.1.schema) pad
          ((problem.holders (problem.domain.schemaName entry.1.schema) entry.1.slot prop).map
            (value b)) := by
    rintro ⟨slot, j⟩ hentry
    have hslot := List.mk_mem_zipIdx_iff_getElem?.1 hentry
    obtain ⟨_, schema, _, -, hs, -⟩ := Domain.mem_actionSlots.1 (List.mem_of_getElem? hslot)
    obtain ⟨tensor, htensor, tabulated⟩ := h.exists_tensor (List.getElem?_eq_some_iff.1 hs).1
    rw [htensor, Domain.schemaName_of_getElem? hs]
    exact tabulated.maxPool (Problem.poolIndices_beside hslot hs)
  obtain ⟨parts, hparts, tabulated⟩ := exists_mapM each
  refine ⟨parts, ?_, ?_⟩
  · rw [Wiring.ofPredicate, List.mapM_map]
    exact hparts
  · rw [poolSpecs, ← List.zipIdx_map_fst 0 (problem.domain.actionSlots pred), List.map_map]
    exact List.forall₂_map_right_iff.2 tabulated.flip

/-! ## Whole views -/

variable {net : PolicyNetwork α} {weights : Weights α} {layer : Nat}

theorem viewWidth_action (fits : net.Matches weights) (layer s : Nat) :
    weights.viewWidth (.action layer s) =
      Size.total ((net.problem.domain.relevantPredicates s).map (weights.propsBefore layer))
        + (if layer = 0 ∧ 0 < net.arch.extraDim then net.arch.extraDim else 0)
        + (if 0 < layer ∧ net.arch.skip then weights.actsBefore layer s else 0) := by
  rw [Weights.viewWidth, BlockKey.action]
  dsimp only
  rw [fits.domain_eq, fits.arch_eq]
  grind

variable [Scalar α] {acts props : List (Tensor α)} {value : Nat → Values α}

theorem exists_actionInput (fits : net.Matches weights) (sized : input.Sized net.problem net.arch)
    {s : Nat} (inside : s < net.problem.domain.numSchemas)
    (hacts : 0 < layer ∧ net.arch.skip → Tensor.Family input.props.height
      net.problem.domain.numSchemas net.problem.instances (weights.actsBefore layer)
      (fun b => (value b).acts) acts)
    (hprops : Tensor.Family input.props.height net.problem.domain.numPredicates
      net.problem.propsOf (weights.propsBefore layer) (fun b => (value b).props) props) :
    ∃ view, net.actionInput input layer acts props (Wiring.ofSchema net.problem s) = .ok view ∧
      view.Tabulates input.props.height (net.problem.instances s)
        (weights.viewWidth (.action layer s)) fun b action =>
          Relational.actionView net.problem weights (input.reading net.problem b) layer (value b)
            action := by
  have hs := List.getElem?_eq_getElem (l := net.problem.domain.schemas) inside
  obtain ⟨slots, hslots, gathered⟩ := exists_gathered hprops hs
  obtain ⟨extra, hextra, described⟩ := exists_features sized layer s
  obtain ⟨own, hown, kept⟩ := exists_ownPart hacts inside
  obtain ⟨view, hview, tabulated⟩ :=
    Tensor.concat_tabulates ((gathered.append described).append kept)
  refine ⟨view, ?_, ?_⟩
  · simp only [actionInput, hslots, ok_bind, bind_guarded]
    refine (congrArg (· >>= _) hextra).trans ?_
    rw [ok_bind]
    refine (congrArg (· >>= _) hown).trans ?_
    rw [ok_bind, Wiring.ofSchema, (net.problem.picks_schemaActions s).length_eq]
    exact hview
  rw [List.map_append, List.map_append, Size.total_append, Size.total_append, gatherSpecs_widths hs,
    ownSpecs_width, ownSpecs_width] at tabulated
  rw [viewWidth_action fits]
  refine tabulated.congr fun b hb action haction => ?_
  have inst := Problem.instantiates_of_mem_instances hs haction
  have size := (features_tabulate sized).value_length hb (List.mem_filter.1 haction).1
  rw [List.flatMap_append, List.flatMap_append, gatherSpecs_values inst, ownSpecs_values,
    ownSpecs_values, Relational.actionView, fits.arch_eq]
  -- without features both sides have none, whatever the layer
  have none : net.arch.extraDim = 0 → (input.reading net.problem b).features action = [] :=
    fun zero => List.length_eq_zero_iff.1 (size.trans zero)
  grind

theorem poolSpecs_values {pred : Nat} {prop : GroundAtom} (hprop : prop ∈ problem.propsOf pred)
    (inside : pred < problem.domain.numPredicates) (config : ModuleConfig α) (weights : Weights α)
    (layer : Nat) (acted : Nat → GroundAction → List α) (b : Nat) :
    ((poolSpecs problem pred config.pad (fun s => weights.outputsOf (.action layer s))
        acted).flatMap fun spec => spec.2 b prop) =
      problem.domain.schemas.flatMap fun schema =>
        (schema.slotsFor prop.predicate).flatMap fun k =>
          Relational.pooled problem config weights layer (acted b) prop schema k := by
  obtain ⟨predicate, hp⟩ : ∃ predicate, problem.domain.predicates[pred]? = some predicate :=
    ⟨_, List.getElem?_eq_getElem inside⟩
  have slots : ∀ schema s, Domain.slotsOf predicate s schema =
      (schema.slotsFor predicate).map fun k => ⟨s, k⟩ := fun schema s => by
    rw [Domain.slotsOf, Schema.slotsFor, List.map_map]
    rfl
  rw [Problem.predicate_of_mem_propsOf hp hprop, poolSpecs, List.flatMap_map,
    Domain.actionSlots_of_getElem? hp, List.flatMap_assoc]
  conv_rhs => rw [← List.zipIdx_map_fst 0 problem.domain.schemas, List.flatMap_map]
  refine List.flatMap_congr fun entry hentry => ?_
  obtain ⟨schema, s⟩ := entry
  have hs := List.mk_mem_zipIdx_iff_getElem?.1 hentry
  dsimp only
  rw [slots, List.flatMap_map]
  refine List.flatMap_congr fun k _ => ?_
  rw [Relational.pooled, Relational.actionKey, Domain.schemaPosition_of_getElem? hs,
    Domain.schemaName_of_getElem? hs]

theorem exists_propInput (fits : net.Matches weights) {batch pred : Nat}
    (inside : pred < net.problem.domain.numPredicates) {acted : Nat → GroundAction → List α}
    (hacts : Tensor.Family batch net.problem.domain.numSchemas net.problem.instances
      (fun s => weights.outputsOf (.action layer s)) acted acts)
    (hprops : 0 < layer ∧ net.arch.skip → Tensor.Family batch net.problem.domain.numPredicates
      net.problem.propsOf (weights.propsBefore layer) (fun b => (value b).props) props) :
    ∃ view, net.propInput batch layer acts props (Wiring.ofPredicate net.problem pred) = .ok view ∧
      view.Tabulates batch (net.problem.propsOf pred) (weights.viewWidth (.predicate layer pred))
        fun b prop => Relational.propView net.problem net.config weights layer (acted b)
          (value b) prop := by
  obtain ⟨slots, hslots, pooled⟩ := exists_pooled pred net.config.pad hacts
  obtain ⟨own, hown, kept⟩ := exists_ownPart hprops inside
  obtain ⟨view, hview, tabulated⟩ := Tensor.concat_tabulates (pooled.append kept)
  refine ⟨view, ?_, ?_⟩
  · simp only [propInput, hslots, ok_bind, bind_guarded]
    refine (congrArg (· >>= _) hown).trans ?_
    rw [ok_bind, Wiring.ofPredicate, List.length_map,
      (net.problem.picks_predicateProps pred).length_eq]
    exact hview
  rw [List.map_append, Size.total_append, ownSpecs_width] at tabulated
  have width : weights.viewWidth (.predicate layer pred) =
      Size.total ((poolSpecs net.problem pred net.config.pad
          (fun s => weights.outputsOf (.action layer s)) acted).map Prod.fst)
        + (if 0 < layer ∧ net.arch.skip then weights.propsBefore layer pred else 0) := by
    rw [Weights.viewWidth, BlockKey.predicate, poolSpecs, List.map_map]
    dsimp only
    rw [fits.domain_eq, fits.arch_eq]
    rfl
  rw [width]
  refine tabulated.congr fun b _ prop hprop => ?_
  rw [List.flatMap_append, poolSpecs_values hprop inside, ownSpecs_values, Relational.propView,
    fits.arch_eq]

end PolicyNetwork

end SchemaNet
