import Mathlib.Data.List.Perm.Basic
import Mathlib.Data.List.Sort
import SchemaNet.Planning.Grounding
import SchemaNet.Proofs.Network.WalkDomain
import SchemaNet.Proofs.Planning.IndexedProblem

/-!
The order in which the entities of a problem are listed. A problem is built from one listing
exactly if it is built from the others, and its numbering and its tables are the same for all.
-/

namespace SchemaNet

/-- What a traversal finds on a rearranged list is a rearrangement of what it found before. -/
theorem exists_mapM_of_perm {β γ ε : Type} {f : β → Except ε γ} {xs xs' : List β} {ys : List γ}
    (h : xs.mapM f = .ok ys) (same : xs'.Perm xs) :
    ∃ ys', xs'.mapM f = .ok ys' ∧ ys'.Perm ys := by
  obtain ⟨ys', beside, perm⟩ := List.perm_comp_forall₂ same (mapM_eq_ok.1 h)
  exact ⟨ys', mapM_eq_ok.2 beside, perm⟩

/-- Lists that strictly increase along a key have the same keys if they have them in any order. -/
theorem map_eq_of_sorted {α : Type} {key : α → String} {xs ys : List α}
    (sorted : xs.Pairwise fun a b => key a < key b) (sorted' : ys.Pairwise fun a b => key a < key b)
    (same : ∀ k, k ∈ xs.map key ↔ k ∈ ys.map key) : xs.map key = ys.map key := by
  have irrefl : Std.Irrefl fun a b : String => a < b := ⟨String.lt_irrefl⟩
  have asymm : Std.Antisymm fun a b : String => a < b :=
    ⟨fun a b before after => absurd (String.lt_trans before after) (String.lt_irrefl a)⟩
  exact (List.pairwise_map.2 sorted).eq_of_mem_iff (List.pairwise_map.2 sorted') same

namespace Problem

/-- Two problems of one domain that number the same entities alike and have the same tables.
Goals are compared by identifier. -/
structure SameLayout (problem other : Problem) : Prop where
  domain : other.domain = problem.domain
  actions : other.actions = problem.actions
  props : other.props = problem.props
  goals : other.goals.map GroundAtom.ident = problem.goals.map GroundAtom.ident
  goalFlags : other.goalFlags = problem.goalFlags
  isGoal : other.isGoal = problem.isGoal
  actIndex : other.actIndex = problem.actIndex
  propIndex : other.propIndex = problem.propIndex
  actByIdent : other.actByIdent = problem.actByIdent
  propByIdent : other.propByIdent = problem.propByIdent
  actSchema : other.actSchema = problem.actSchema
  propPredicate : other.propPredicate = problem.propPredicate
  schemaActions : other.schemaActions = problem.schemaActions
  predicateProps : other.predicateProps = problem.predicateProps
  actPosition : other.actPosition = problem.actPosition
  propPosition : other.propPosition = problem.propPosition
  slotProps : other.slotProps = problem.slotProps
  adjacency : other.adjacency = problem.adjacency
  gatherIndices : other.gatherIndices = problem.gatherIndices
  poolIndices : other.poolIndices = problem.poolIndices
  mergeIndices : other.mergeIndices = problem.mergeIndices
  tables : other.tables = problem.tables

/-- Everything but the goals is read off the domain, the numbered entities and the index, and
the index depends on the goals by their identifiers only. -/
theorem sameLayout_of_entities {problem other : Problem} (domain : other.domain = problem.domain)
    (actions : other.actions = problem.actions) (props : other.props = problem.props)
    (goals : other.goals.map GroundAtom.ident = problem.goals.map GroundAtom.ident) :
    problem.SameLayout other := by
  have index : other.index = problem.index := by
    rw [other.index_eq, problem.index_eq, domain, actions, props]
    simp only [Index.ofEntities, goals]
  obtain ⟨name, ownDomain, ownActions, ownProps, ownGoals, ownIndex, _, _, _, _, _⟩ := problem
  obtain ⟨name', domain', actions', props', goals', index', _, _, _, _, _⟩ := other
  dsimp only at domain actions props goals index
  subst domain actions props index
  exact ⟨rfl, rfl, rfl, goals, rfl, rfl, rfl, rfl, rfl, rfl, rfl, rfl, rfl, rfl, rfl, rfl, rfl, rfl,
    rfl, rfl, rfl, rfl⟩

variable {name : Symbol} {domain : Domain} {actions actions' : List GroundAction}
  {props props' goals goals' : List GroundAtom} {problem : Problem}

/-- Two problems with the same entities have the same layout. -/
theorem Lists.sameLayout {other : Problem} (h : problem.Lists domain actions props goals)
    (h' : other.Lists domain actions props goals) : problem.SameLayout other := by
  obtain ⟨sameActions, sameProps⟩ := h.unique h'
  refine sameLayout_of_entities (h'.domain_eq.trans h.domain_eq.symm) sameActions.symm
    sameProps.symm ?_
  exact map_eq_of_sorted other.goals_sorted problem.goals_sorted fun ident =>
    (h'.goals ident).trans (h.goals ident).symm

theorem exists_build_of_perm (built : build name domain actions props goals = .ok problem)
    (sameActions : actions'.Perm actions) (sameProps : props'.Perm props)
    (sameGoals : ∀ ident,
      ident ∈ goals'.map GroundAtom.ident ↔ ident ∈ goals.map GroundAtom.ident) :
    ∃ other, build name domain actions' props' goals' = .ok other ∧ problem.SameLayout other := by
  have lists := build_lists built
  obtain ⟨other, built'⟩ : ∃ other, build name domain actions' props' goals' = .ok other :=
    exists_build_iff.2 (lists.accepted.of_perm sameActions sameProps sameGoals)
  obtain ⟨domainEq, ownActions, ownProps, ownGoals⟩ := build_lists built'
  exact ⟨other, built', lists.sameLayout ⟨domainEq, ownActions.trans sameActions,
    ownProps.trans sameProps, fun ident => (ownGoals ident).trans (sameGoals ident)⟩⟩

theorem extract_eq_ok {grounding : Grounding} :
    extract grounding domain = .ok problem ↔
      Domain.extract grounding.domain = .ok domain ∧ ∃ actions,
        (grounding.actions.mapM fun listed => domain.ground listed.schema listed.args) =
          .ok actions ∧
        build grounding.name domain actions (grounding.props.map (·.1)) grounding.goals =
          .ok problem := by
  rw [extract, Memory.bind_eq_ok]
  constructor
  · rintro ⟨own, hown, h⟩
    unfold extractOver at h
    split at h
    · cases h
    · next same =>
      obtain rfl := Decidable.of_not_not same
      exact ⟨hown, Memory.bind_eq_ok.1 h⟩
  · rintro ⟨hown, h⟩
    refine ⟨domain, hown, ?_⟩
    unfold extractOver
    rw [if_neg (not_not_intro rfl)]
    exact Memory.bind_eq_ok.2 h

theorem exists_extract_of_perm {grounding : Grounding} {props' : List (GroundAtom × Bool)}
    {actions' : List ActionListing} (extracted : extract grounding domain = .ok problem)
    (sameActions : actions'.Perm grounding.actions) (sameProps : props'.Perm grounding.props) :
    ∃ other, extract { grounding with props := props', actions := actions' } domain = .ok other ∧
      problem.SameLayout other := by
  obtain ⟨own, actions, grounded, built⟩ := extract_eq_ok.1 extracted
  obtain ⟨ground', grounded', perm⟩ := exists_mapM_of_perm grounded sameActions
  have sameGoals : (Grounding.goals { grounding with props := props' }).Perm grounding.goals :=
    (sameProps.filter _).map _
  obtain ⟨other, built', same⟩ := exists_build_of_perm built perm (sameProps.map (·.1))
    fun _ => (sameGoals.map _).mem_iff
  exact ⟨other, extract_eq_ok.2 ⟨own, ground', grounded', built'⟩, same⟩

/-- Whatever the order in which the entities are listed, and however often a goal is repeated,
the same problem is built, and likewise the same one is extracted from what a grounder lists. -/
theorem layout_of_any_listing (name : Symbol) (domain : Domain) :
    (∀ (actions actions' : List GroundAction) (props props' goals goals' : List GroundAtom)
        (problem : Problem),
      build name domain actions props goals = .ok problem → actions'.Perm actions →
        props'.Perm props → (∀ goal, goal ∈ goals' ↔ goal ∈ goals) →
          ∃ other, build name domain actions' props' goals' = .ok other ∧
            problem.SameLayout other) ∧
      ∀ (grounding : Grounding) (props' : List (GroundAtom × Bool))
        (actions' : List ActionListing) (problem : Problem),
        extract grounding domain = .ok problem → actions'.Perm grounding.actions →
          props'.Perm grounding.props →
            ∃ other,
              extract { grounding with props := props', actions := actions' } domain = .ok other ∧
                problem.SameLayout other := by
  refine ⟨fun actions actions' props props' goals goals' problem built sameActions sameProps
    sameGoals => ?_, fun _ _ _ _ => exists_extract_of_perm⟩
  refine exists_build_of_perm built sameActions sameProps fun ident => ?_
  simp only [List.mem_map, sameGoals]

/-- What a grounder lists for the short walk. -/
def walkGrounding : Grounding where
  domain := ⟨"walks", ["at"], WalkDomain.schemas⟩
  name := "short"
  props := WalkDomain.props.map fun prop => (prop, decide (prop ∈ WalkDomain.goals))
  actions := WalkDomain.actions.map fun action => ⟨action.schema, action.args⟩

theorem walk_listed_backwards :
    ∃ problem,
      build "short" WalkDomain.domain WalkDomain.actions WalkDomain.props WalkDomain.goals =
        .ok problem ∧
      (∃ other, build "short" WalkDomain.domain WalkDomain.actions.reverse WalkDomain.props.reverse
          (WalkDomain.goals ++ WalkDomain.goals) = .ok other ∧ problem.SameLayout other) ∧
      extract walkGrounding WalkDomain.domain = .ok problem ∧
      ∃ other, extract { walkGrounding with
          props := walkGrounding.props.reverse, actions := walkGrounding.actions.reverse }
          WalkDomain.domain = .ok other ∧ problem.SameLayout other := by
  obtain ⟨orders, groundings⟩ := layout_of_any_listing "short" WalkDomain.domain
  obtain ⟨problem, built⟩ : ∃ problem, build "short" WalkDomain.domain WalkDomain.actions
      WalkDomain.props WalkDomain.goals = .ok problem :=
    exists_build_iff.2 WalkDomain.problem.accepted
  have extracted : extract walkGrounding WalkDomain.domain = .ok problem :=
    extract_eq_ok.2 ⟨by decide, WalkDomain.actions, by decide, built⟩
  exact ⟨problem, built,
    orders _ _ _ _ _ _ _ built (List.reverse_perm _) (List.reverse_perm _) (by simp),
    extracted, groundings _ _ _ _ extracted (List.reverse_perm _) (List.reverse_perm _)⟩

end Problem

end SchemaNet
