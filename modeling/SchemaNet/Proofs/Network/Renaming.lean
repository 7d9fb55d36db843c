import Mathlib.Data.List.Perm.Basic
import SchemaNet.Proofs.Network.Capacity
import SchemaNet.Proofs.Network.WalkDomain
import SchemaNet.Proofs.Planning.Renaming

/-!
The scores of a network do not depend on the names of the objects. A renamed problem has its
entities in another order, so every table of positions differs; but the recursion over the
entities mentions no position, and pools do not depend on the order of their actions.
-/

namespace SchemaNet

variable {α : Type} [Scalar α]

/-! ## Pools in another order -/

section Pools

variable [Std.Commutative (Scalar.max : α → α → α)]

instance zipWith_max_comm : Std.Commutative (List.zipWith (Scalar.max : α → α → α)) :=
  ⟨fun _ _ => List.zipWith_comm_of_comm fun _ _ => Std.Commutative.comm _ _⟩

variable [Std.Associative (Scalar.max : α → α → α)]

omit [Std.Commutative (Scalar.max : α → α → α)] in
theorem zipWith_max_zipWith (xs ys zs : List α) :
    List.zipWith Scalar.max (List.zipWith Scalar.max xs ys) zs =
      List.zipWith Scalar.max xs (List.zipWith Scalar.max ys zs) := by
  induction xs generalizing ys zs with
  | nil => rfl
  | cons x xs ih =>
    cases ys with
    | nil => rfl
    | cons y ys =>
      cases zs with
      | nil => rfl
      | cons z zs =>
        have first : Scalar.max (Scalar.max x y) z = Scalar.max x (Scalar.max y z) :=
          Std.Associative.assoc x y z
        exact congrArg₂ List.cons first (ih ys zs)

instance zipWith_max_assoc : Std.Associative (List.zipWith (Scalar.max : α → α → α)) :=
  ⟨zipWith_max_zipWith⟩

theorem Tensor.poolValues_perm (channels : Nat) (pad : α) {pool other : List (List α)}
    (h : pool.Perm other) : poolValues channels pad pool = poolValues channels pad other := by
  induction h with
  | nil => rfl
  | cons first rest => exact rest.foldl_op_eq
  | swap first second rest =>
    have same := @Std.Commutative.comm _ (List.zipWith Scalar.max) _ second first
    exact congrArg (fun start => rest.foldl (List.zipWith Scalar.max) start) same
  | trans _ _ first second => exact first.trans second

end Pools

/-! ## The recursion over renamed entities -/

/-- A reading that says of the renamed entities what another one says of the old ones. -/
structure Reading.Carried {α : Type} (reading renamed : Reading α) (problem : Problem)
    (names : Symbol → Symbol) : Prop where
  truth : ∀ prop ∈ problem.props, renamed.truth (prop.rename names) = reading.truth prop
  features : ∀ action ∈ problem.actions,
    renamed.features (action.rename names) = reading.features action

namespace Problem.RenamedTo

variable {problem renamed : Problem} {names : Symbol → Symbol}

theorem holders_perm (iso : problem.RenamedTo renamed names) {prop : GroundAtom}
    (mem : prop ∈ problem.props) (schema : Symbol) (k : Nat) :
    (renamed.holders schema k (prop.rename names)).Perm
      ((problem.holders schema k prop).map (.rename names)) := by
  have sorted := iso.actions.filter (·.fills schema k (prop.rename names))
  rw [List.filter_map] at sorted
  have same : problem.actions.filter
      ((·.fills schema k (prop.rename names)) ∘ GroundAction.rename names) =
        problem.holders schema k prop :=
    List.filter_congr fun action haction => iso.fills action haction prop mem schema k
  rw [same] at sorted
  exact sorted

theorem instances_length (iso : problem.RenamedTo renamed names) (s : SchemaId) :
    (renamed.instances s).length = (problem.instances s).length := by
  have sorted := iso.actions.filter fun action => renamed.domain.schemaPosition action.schema == s
  rw [iso.domain_eq, List.filter_map] at sorted
  rw [Problem.instances, iso.domain_eq, sorted.length_eq, List.length_map]
  rfl

theorem propsOf_length (iso : problem.RenamedTo renamed names) (pred : PredId) :
    (renamed.propsOf pred).length = (problem.propsOf pred).length := by
  have sorted := iso.props.filter fun prop =>
    renamed.domain.predicatePosition prop.predicate == pred
  rw [iso.domain_eq, List.filter_map] at sorted
  rw [Problem.propsOf, iso.domain_eq, sorted.length_eq, List.length_map]
  rfl

theorem exists_place (iso : problem.RenamedTo renamed names) {action : GroundAction}
    (mem : action ∈ problem.actions) :
    ∃ id : Nat, renamed.actions[id]? = some (action.rename names) :=
  List.getElem?_of_mem (iso.actions.mem_iff.2 (List.mem_map_of_mem mem))

theorem exists_propPlace (iso : problem.RenamedTo renamed names) {prop : GroundAtom}
    (mem : prop ∈ problem.props) : ∃ id : Nat, renamed.props[id]? = some (prop.rename names) :=
  List.getElem?_of_mem (iso.props.mem_iff.2 (List.mem_map_of_mem mem))

end Problem.RenamedTo

namespace Relational

variable {problem renamed : Problem} {names : Symbol → Symbol} (config : ModuleConfig α)
  (weights : Weights α) {reading other : Reading α} {layer : Nat}

theorem actionValue_rename (iso : problem.RenamedTo renamed names) {before after : Values α}
    {action : GroundAction} (mem : action ∈ problem.actions)
    (features : other.features (action.rename names) = reading.features action)
    (acts : after.acts (action.rename names) = before.acts action)
    (props : ∀ prop ∈ problem.props, after.props (prop.rename names) = before.props prop) :
    actionValue renamed config weights other layer after (action.rename names) =
      actionValue problem config weights reading layer before action := by
  have key : actionKey renamed layer (action.rename names).schema =
      actionKey problem layer action.schema := by
    rw [actionKey, actionKey, iso.domain_eq]
    rfl
  have slots : (renamed.heldBy (action.rename names)).flatMap after.props =
      (problem.heldBy action).flatMap before.props := by
    rw [iso.held action mem, List.flatMap_map]
    exact List.flatMap_congr fun prop hprop => props prop (Problem.mem_heldBy.1 hprop).1
  rw [actionValue, actionValue, key, actionView, actionView, slots, features, acts]

theorem propValue_rename [Std.Commutative (Scalar.max : α → α → α)]
    [Std.Associative (Scalar.max : α → α → α)] (iso : problem.RenamedTo renamed names)
    {acts acts' : GroundAction → List α} {before after : Values α} {prop : GroundAtom}
    (mem : prop ∈ problem.props)
    (acted : ∀ action ∈ problem.actions, acts' (action.rename names) = acts action)
    (own : after.props (prop.rename names) = before.props prop) :
    propValue renamed config weights layer acts' after (prop.rename names) =
      propValue problem config weights layer acts before prop := by
  have key : propKey renamed layer prop.predicate = propKey problem layer prop.predicate := by
    rw [propKey, propKey, iso.domain_eq]
  have pools : ∀ schema k, pooled renamed config weights layer acts' (prop.rename names) schema k =
      pooled problem config weights layer acts prop schema k := by
    intro schema k
    have values : ((problem.holders schema.name k prop).map (.rename names)).map acts' =
        (problem.holders schema.name k prop).map acts := by
      rw [List.map_map]
      exact List.map_congr_left fun action haction => acted action (List.mem_filter.1 haction).1
    rw [pooled, pooled, actionKey, actionKey, iso.domain_eq, ← values,
      Tensor.poolValues_perm _ _ ((iso.holders_perm mem schema.name k).map acts')]
  have predicate : (prop.rename names).predicate = prop.predicate := rfl
  simp only [propValue, propView, key, pools, own, iso.domain_eq, predicate]

variable [Std.Commutative (Scalar.max : α → α → α)] [Std.Associative (Scalar.max : α → α → α)]

/-- Before every layer the renamed entities have what the old ones have. -/
theorem values_rename (iso : problem.RenamedTo renamed names)
    (carried : reading.Carried other problem names) (layer : Nat) :
    (∀ action ∈ problem.actions,
      (values renamed config weights other layer).acts (action.rename names) =
        (values problem config weights reading layer).acts action) ∧
    ∀ prop ∈ problem.props,
      (values renamed config weights other layer).props (prop.rename names) =
        (values problem config weights reading layer).props prop := by
  induction layer with
  | zero =>
    refine ⟨fun _ _ => rfl, fun prop hprop => ?_⟩
    have goals := iso.goals prop hprop
    rw [values, values]
    dsimp only
    rw [carried.truth prop hprop, decide_eq_decide.2 goals]
  | succ layer ih =>
    have acted : ∀ action ∈ problem.actions,
        (values renamed config weights other (layer + 1)).acts (action.rename names) =
          (values problem config weights reading (layer + 1)).acts action :=
      fun action haction => actionValue_rename config weights iso haction
        (carried.features action haction) (ih.1 action haction) ih.2
    exact ⟨acted, fun prop hprop =>
      propValue_rename config weights iso hprop acted (ih.2 prop hprop)⟩

theorem score_rename (iso : problem.RenamedTo renamed names)
    (carried : reading.Carried other problem names) {action : GroundAction}
    (mem : action ∈ problem.actions) :
    score renamed config weights other (action.rename names) =
      score problem config weights reading action := by
  have before := values_rename config weights iso carried weights.arch.final
  rw [score, score, actionValue_rename config weights iso mem (carried.features action mem)
    (before.1 action mem) before.2]

end Relational

/-! ## Inputs and scores -/

/-- An input with the truth of each proposition and the features of each action at the place of
the renamed one, row by row. -/
structure PolicyInput.CarriedOver (input other : PolicyInput α) (problem renamed : Problem)
    (names : Symbol → Symbol) : Prop where
  height : other.props.height = input.props.height
  truth : ∀ (b id id' : Nat) (prop : GroundAtom), problem.props[id]? = some prop →
    renamed.props[id']? = some (prop.rename names) →
      (other.props.rows[b]?).bind (·[id']?) = (input.props.rows[b]?).bind (·[id]?)
  features : ∀ (b id id' : Nat) (action : GroundAction), problem.actions[id]? = some action →
    renamed.actions[id']? = some (action.rename names) →
      (other.extra.rows[b]?).bind (·[id']?) = (input.extra.rows[b]?).bind (·[id]?)

/-- In every row each action and the renamed one have one score. -/
def Problem.SameScores {α : Type} (problem renamed : Problem) (names : Symbol → Symbol)
    (batch : Nat) (scores others : Grid α) : Prop :=
  ∀ (id : Nat) (action : GroundAction), problem.actions[id]? = some action →
    ∃ id' : Nat, renamed.actions[id']? = some (action.rename names) ∧
      ∀ b < batch, ∃ value, (scores.rows[b]?).bind (·[id]?) = some value ∧
        (others.rows[b]?).bind (·[id']?) = some value

theorem PolicyInput.CarriedOver.readings {input other : PolicyInput α} {problem renamed : Problem}
    {names : Symbol → Symbol} (iso : problem.RenamedTo renamed names)
    (h : input.CarriedOver other problem renamed names) (b : Nat) :
    (input.reading problem b).Carried (other.reading renamed b) problem names where
  truth prop hprop := by
    obtain ⟨id, hid⟩ := List.getElem?_of_mem hprop
    obtain ⟨id', hid'⟩ := iso.exists_propPlace hprop
    rw [reading_truth hid, reading_truth hid', getD_getD, getD_getD, h.truth b id id' prop hid hid']
  features action haction := by
    obtain ⟨id, hid⟩ := List.getElem?_of_mem haction
    obtain ⟨id', hid'⟩ := iso.exists_place haction
    rw [reading_features hid, reading_features hid', getD_getD, getD_getD,
      h.features b id id' action hid hid']

namespace PolicyNetwork

variable [Std.Commutative (Scalar.max : α → α → α)] [Std.Associative (Scalar.max : α → α → α)]
  {problem renamed : Problem} {names : Symbol → Symbol} {weights : Weights α}
  {net net' : PolicyNetwork α} {input other : PolicyInput α}

theorem sameScores_of_logits (iso : net.problem.RenamedTo net'.problem names)
    (config : net'.config = net.config)
    (carried : input.CarriedOver other net.problem net'.problem names) {scores others : Grid α}
    (hscores : net.logits weights input = .ok scores)
    (hothers : net'.logits weights other = .ok others) :
    net.problem.SameScores net'.problem names input.props.height scores others := by
  intro id action hid
  have mem := List.mem_of_getElem? hid
  obtain ⟨id', hid'⟩ := iso.exists_place mem
  refine ⟨id', hid', fun b hb => ⟨_, (logits_tabulate hscores).getElem? hb hid, ?_⟩⟩
  rw [← Relational.score_rename _ _ iso (carried.readings iso b) mem, ← config]
  exact (logits_tabulate hothers).getElem? (carried.height ▸ hb) hid'

/-- Whether a renamed problem has scores depends on the weights and the sizes of its tensors, which
are those of the other one. -/
theorem runs_of_renamedTo (iso : net.problem.RenamedTo net'.problem names)
    (config : net'.config = net.config) (arch : net'.arch = net.arch) (fits : net'.Matches weights)
    (sized : other.Sized net'.problem net'.arch)
    (carried : input.CarriedOver other net.problem net'.problem names) :
    (∀ scores, net.logits weights input = .ok scores →
      ∃ others, net'.logits weights other = .ok others ∧
        net.problem.SameScores net'.problem names input.props.height scores others) ∧
    ∀ scores, (Memory.logits net weights input).outcome.1 = .ok scores →
      ∃ others, (Memory.logits net' weights other).outcome.1 = .ok others ∧
        net.problem.SameScores net'.problem names input.props.height scores others := by
  have run : ∀ scores, net.logits weights input = .ok scores →
      ∃ others, net'.logits weights other = .ok others ∧
        net.problem.SameScores net'.problem names input.props.height scores others := by
    intro scores hscores
    obtain ⟨-, -, coherent⟩ := exists_logits_iff.1 ⟨scores, hscores⟩
    obtain ⟨others, hothers⟩ := exists_logits_iff.2 ⟨sized, fits, coherent⟩
    exact ⟨others, hothers, sameScores_of_logits iso config carried hscores hothers⟩
  refine ⟨run, fun scores hscores => ?_⟩
  obtain ⟨others, hothers, same⟩ := run scores (Memory.logits_eq_ok hscores)
  obtain ⟨given, own, -⟩ := exists_logits_iff.1 ⟨scores, Memory.logits_eq_ok hscores⟩
  rw [memory_logits given own] at hscores
  have sizes := (checkSizes_congr iso.domain_eq arch iso.instances_length
    iso.propsOf_length).2 (check_bind_eq_ok.1 hscores).1
  rw [← carried.height] at sizes
  exact ⟨others, by rw [memory_logits sized fits, sizes, ok_bind, hothers], same⟩

/-- Renamed lists are accepted, and the scores of the renamed actions are the old ones. -/
theorem logits_rename {name : Symbol} {domain : Domain} {actions : List GroundAction}
    {props goals : List GroundAtom}
    (built : Problem.build name domain actions props goals = .ok problem)
    (plain : PlainNames domain actions props goals)
    (renames : Renames names domain (objectsOf actions props goals)) :
    ∃ renamed, Problem.build name domain (actions.map (.rename names)) (props.map (.rename names))
        (goals.map (.rename names)) = .ok renamed ∧
      ∀ (weights : Weights α) (config : ModuleConfig α) (net : PolicyNetwork α),
        forWeights problem weights config = .ok net →
          ∃ net', forWeights renamed weights config = .ok net' ∧
            ∀ input other : PolicyInput α, other.Sized renamed weights.arch →
              input.CarriedOver other problem renamed names →
                (∀ scores, net.logits weights input = .ok scores →
                  ∃ others, net'.logits weights other = .ok others ∧
                    problem.SameScores renamed names input.props.height scores others) ∧
                ∀ scores, (Memory.logits net weights input).outcome.1 = .ok scores →
                  ∃ others, (Memory.logits net' weights other).outcome.1 = .ok others ∧
                    problem.SameScores renamed names input.props.height scores others := by
  have lists := Problem.build_lists built
  obtain ⟨renamed, hrenamed⟩ := Problem.exists_build_iff.2 (lists.accepted.rename plain renames)
  have iso := lists.renamedTo plain renames (Problem.build_lists hrenamed)
  refine ⟨renamed, hrenamed, fun weights config net hnet => ?_⟩
  have assembled := exists_forWeights_iff.1 ⟨net, hnet⟩
  obtain ⟨net', hnet'⟩ := exists_forWeights_iff.2 (iso.domain_eq.symm ▸ assembled)
  obtain ⟨rfl, harch, rfl⟩ := forWeights_fields hnet
  obtain ⟨rfl, harch', hconfig⟩ := forWeights_fields hnet'
  refine ⟨net', hnet', fun input other sized carried => ?_⟩
  rw [← harch'] at sized
  have fits : net'.Matches weights := ⟨assembled.2.trans iso.domain_eq.symm, harch'.symm⟩
  exact runs_of_renamedTo iso hconfig (harch'.trans harch.symm) fits sized carried

end PolicyNetwork

namespace WalkDomain

set_option maxRecDepth 8000

/-- The first and the last place with their names exchanged. -/
def exchange (name : Symbol) : Symbol :=
  if name = "a" then "c" else if name = "c" then "a" else name

theorem plainNames : PlainNames domain actions props goals :=
  ⟨by decide, by decide, by decide, by decide, by decide⟩

theorem exchange_renames : Renames exchange domain (objectsOf actions props goals) :=
  ⟨by decide, by decide, by decide, by decide⟩

/-- The problem under the new names, in its own order. -/
def exchanged : Problem where
  name := "short"
  domain := domain
  actions := [⟨"ring", [], [⟨"at", ["depot"]⟩]⟩,
    ⟨"walk", ["b", "a"], [⟨"at", ["b"]⟩, ⟨"at", ["a"]⟩]⟩,
    ⟨"walk", ["c", "b"], [⟨"at", ["c"]⟩, ⟨"at", ["b"]⟩]⟩]
  props := props
  goals := [⟨"at", ["a"]⟩]
  index := Problem.Index.ofEntities _ _ _ _
  actions_sorted := by decide
  props_sorted := problem.props_sorted
  goals_sorted := by decide
  faultless := by decide
  index_eq := rfl

/-- The two states with all values at their new places. -/
def exchangedInput : PolicyInput Whole :=
  { props := ⟨2, 4, [0, 0, 1, 1, 0, 1, 0, 0].map Whole.mk, rfl⟩
    extra := ⟨2, 3, 1, [1, 2, 0, 0, 0, 1].map Whole.mk, rfl⟩ }

theorem exchangedInput_carried : input.CarriedOver exchangedInput problem exchanged exchange := by
  have truth : ∀ b < 2, ∀ id < 4, ∀ id' < 4,
      exchanged.props[id']? = (problem.props[id]?).map (.rename exchange) →
        (exchangedInput.props.rows[b]?).bind (·[id']?) = (input.props.rows[b]?).bind (·[id]?) := by
    decide
  have features : ∀ b < 2, ∀ id < 3, ∀ id' < 3,
      exchanged.actions[id']? = (problem.actions[id]?).map (.rename exchange) →
        (exchangedInput.extra.rows[b]?).bind (·[id']?) = (input.extra.rows[b]?).bind (·[id]?) := by
    set_option synthInstance.maxSize 400 in
    decide
  refine ⟨rfl, fun b id id' prop hid hid' => ?_, fun b id id' action hid hid' => ?_⟩
  · by_cases hb : b < 2
    · exact truth b hb id (List.getElem?_eq_some_iff.1 hid).1 id'
        (List.getElem?_eq_some_iff.1 hid').1 (by rw [hid', hid]; rfl)
    · rw [List.getElem?_eq_none (Nat.le_of_not_lt hb), List.getElem?_eq_none (Nat.le_of_not_lt hb)]
      rfl
  · by_cases hb : b < 2
    · exact features b hb id (List.getElem?_eq_some_iff.1 hid).1 id'
        (List.getElem?_eq_some_iff.1 hid').1 (by rw [hid', hid]; rfl)
    · rw [List.getElem?_eq_none (Nat.le_of_not_lt hb), List.getElem?_eq_none (Nat.le_of_not_lt hb)]
      rfl

theorem problem_lists : problem.Lists domain actions props goals :=
  ⟨rfl, .refl _, .refl _, fun _ => .rfl⟩

theorem exchanged_lists : exchanged.Lists domain (actions.map (.rename exchange))
    (props.map (.rename exchange)) (goals.map (.rename exchange)) :=
  ⟨rfl, by decide, by decide, fun _ => .rfl⟩

/-- The walks have the scores of the walks between the exchanged places. -/
theorem scores_exchanged : PlainNames domain actions props goals ∧
    Renames exchange domain (objectsOf actions props goals) ∧
    ∃ first renamed net net' scores others,
      Problem.build "short" domain actions props goals = .ok first ∧
      Problem.build "short" domain (actions.map (.rename exchange)) (props.map (.rename exchange))
        (goals.map (.rename exchange)) = .ok renamed ∧
      PolicyNetwork.forWeights first weights config = .ok net ∧
      PolicyNetwork.forWeights renamed weights config = .ok net' ∧
      net.logits weights input = .ok scores ∧ net'.logits weights exchangedInput = .ok others ∧
      first.SameScores renamed exchange 2 scores others := by
  obtain ⟨first, hfirst⟩ : ∃ first, Problem.build "short" domain actions props goals = .ok first :=
    Problem.exists_build_iff.2 problem.accepted
  obtain ⟨renamed, hrenamed, run⟩ :=
    PolicyNetwork.logits_rename (α := Whole) hfirst plainNames exchange_renames
  -- both problems hold their entities in the order of the concrete ones
  have firstLists := Problem.build_lists hfirst
  obtain ⟨firstActions, firstProps⟩ := firstLists.unique problem_lists
  obtain ⟨renamedActions, renamedProps⟩ :=
    (Problem.build_lists hrenamed).unique exchanged_lists
  have same : weights.domain = first.domain := firstLists.domain_eq.symm
  have valid : config.validate = .ok () := rfl
  obtain ⟨net, hnet, hproblem, harch, -⟩ :=
    PolicyNetwork.exists_forWeights weights_wellShaped same valid
  obtain ⟨net', hnet', runs⟩ := run weights config net hnet
  have given : input.Sized net.problem net.arch := by
    rw [hproblem, harch]
    exact ⟨congrArg List.length firstProps.symm, by rw [Problem.numActions, firstActions]; rfl⟩
  have sized : exchangedInput.Sized renamed weights.arch :=
    ⟨congrArg List.length renamedProps.symm, by rw [Problem.numActions, renamedActions]; rfl⟩
  have carried : input.CarriedOver exchangedInput first renamed exchange := by
    obtain ⟨height, truth, features⟩ := exchangedInput_carried
    rw [← firstProps, ← renamedProps] at truth
    rw [← firstActions, ← renamedActions] at features
    exact ⟨height, truth, features⟩
  have fits : net.Matches weights := ⟨same.trans (congrArg _ hproblem.symm), harch.symm⟩
  obtain ⟨scores, hscores⟩ :=
    PolicyNetwork.exists_logits_iff.2 ⟨given, fits, weights_wellShaped.coherent⟩
  obtain ⟨others, hothers, equal⟩ := (runs input exchangedInput sized carried).1 scores hscores
  exact ⟨plainNames, exchange_renames, first, renamed, net, net', scores, others, hfirst, hrenamed,
    hnet, hnet', hscores, hothers, equal⟩

end WalkDomain

end SchemaNet
