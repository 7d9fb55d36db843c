import SchemaNet.Proofs.Planning.Forms
import SchemaNet.Proofs.Planning.IndexedDomain
import SchemaNet.Proofs.Planning.IndexedProblem

/-!
Domains and problems that are built again from their JSON forms. The lists of a problem are in
canonical order already, so sorting them once more and dropping repeated goals leaves them as they
are, and every table is found again.
-/

namespace SchemaNet

open Indexing (idLimit)
open Json (Codes codes_text codes_list)

namespace Problem

variable {problem : Problem}

/-- The index of a problem depends on its lists, so the lists tell problems apart. -/
theorem eq_of_lists {other : Problem} (name : problem.name = other.name)
    (domain : problem.domain = other.domain) (actions : problem.actions = other.actions)
    (props : problem.props = other.props) (goals : problem.goals = other.goals) :
    problem = other := by
  have index : problem.index = other.index := by
    rw [problem.index_eq, other.index_eq, domain, actions, props, goals]
  cases problem
  cases other
  dsimp only at name domain actions props goals index
  subst name domain actions props goals index
  rfl

theorem build_self (problem : Problem) :
    build problem.name problem.domain problem.actions problem.props problem.goals =
      .ok problem := by
  have actions := canonical_eq_self problem.actions_sorted
  have props := canonical_eq_self problem.props_sorted
  have goals := distinctBy_canonical_eq_self problem.goals_sorted
  unfold build
  dsimp only
  split
  · next fault found =>
    rw [actions, props, goals, problem.faultless] at found
    cases found
  · exact congrArg Except.ok (eq_of_lists rfl rfl actions props goals)

theorem codes (problem : Problem) : Codes ofJson problem.toJson problem := by
  have actions := codes_list GroundAction.ofJson fun action (_ : action ∈ problem.actions) =>
    action.codes
  have props := codes_list GroundAtom.ofJson fun prop (_ : prop ∈ problem.props) => prop.codes
  have goals := codes_list GroundAtom.ofJson fun goal (_ : goal ∈ problem.goals) => goal.codes
  refine ⟨.obj (by simp [(codes_text _).written, problem.domain.codes.written, actions.written,
    props.written, goals.written]), ?_⟩
  rw [ofJson, toJson, Json.fields_obj (by rfl) (by decide)]
  simp only [ok_bind]
  rw [(codes_text _).required rfl, ok_bind, problem.domain.codes.required rfl, ok_bind,
    actions.required rfl, ok_bind, props.required rfl, ok_bind, goals.required rfl, ok_bind,
    build_self]
  rfl

theorem parse_compact (problem : Problem) :
    (parse problem.toJson.compact).outcome.1 = .ok problem := by
  rw [parse, Logged.outcome_note, Json.parse_compact problem.codes.written, ok_bind,
    problem.codes.reads]

end Problem

namespace Domain

/-! ## Rebuilding -/

def fieldNames : List String := ["name", "schemas", "predicates"]

/-- A domain is written by its lists and is built from them again, with the same tables. -/
structure Rebuilt (domain : Domain) (schemas : List Schema) (predicates : List Symbol) :
    Prop where
  written : ∃ members, domain.toJson = .obj members ∧ members.map (·.1) = fieldNames
  decoded : ofJson domain.toJson = .ok domain
  parsed : (parse domain.toJson.compact).outcome.1 = .ok domain
  pass : indexLists domain.schemas domain.predicates = indexLists schemas predicates
  tables : domain.numSchemas ≤ idLimit → domain.numPredicates ≤ idLimit →
    indexLists domain.schemas domain.predicates = .ok domain.tables

theorem rebuilt {name : Symbol} {schemas : List Schema} {predicates : List Symbol}
    {domain : Domain} (built : build name schemas predicates = .ok domain) :
    domain.Rebuilt schemas predicates := by
  obtain ⟨-, rfl, rfl⟩ := fields_of_build built
  refine ⟨⟨_, rfl, rfl⟩, domain.codes.reads, domain.parse_compact, rfl, fun fewSchemas few => ?_⟩
  rw [indexLists_eq domain.name fewSchemas few, domain.build_self]

end Domain

namespace Problem

/-- A problem is written by its lists and is built from them again. The pass over the lists that
are written leaves what the pass over the given lists left. -/
structure Rebuilt (problem : Problem) (domain : Domain) (actions : List GroundAction)
    (props goals : List GroundAtom) : Prop where
  written : ∃ members, problem.toJson = .obj members ∧ members.map (·.1) = fieldNames
  decoded : ofJson problem.toJson = .ok problem
  parsed : (parse problem.toJson.compact).outcome.1 = .ok problem
  again : build problem.name problem.domain problem.actions problem.props problem.goals =
    .ok problem
  pass : indexLists problem.domain problem.actions problem.props problem.goals =
    indexLists domain actions props goals
  tables : problem.numActions ≤ idLimit → problem.numProps ≤ idLimit →
    indexLists problem.domain problem.actions problem.props problem.goals = .ok problem.indexed

/-- Sorting and dropping repeated goals once more changes nothing, for any lists. -/
theorem indexLists_canonical (domain : Domain) (actions : List GroundAction)
    (props goals : List GroundAtom) :
    indexLists domain (canonical GroundAction.ident actions) (canonical GroundAtom.ident props)
        (distinctBy GroundAtom.ident (canonical GroundAtom.ident goals)) =
      indexLists domain actions props goals := by
  unfold indexLists
  rw [canonical_idem, canonical_idem, distinctBy_canonical_idem]

theorem rebuilt {name : Symbol} {domain : Domain} {actions : List GroundAction}
    {props goals : List GroundAtom} {problem : Problem}
    (built : build name domain actions props goals = .ok problem) :
    problem.Rebuilt domain actions props goals := by
  obtain ⟨rfl, actionsEq, propsEq, goalsEq⟩ := fields_of_build built
  refine ⟨⟨_, rfl, rfl⟩, problem.codes.reads, problem.parse_compact, problem.build_self, ?_,
    fun fewActions fewProps => ?_⟩
  · rw [actionsEq, propsEq, goalsEq]
    exact indexLists_canonical _ _ _ _
  · rw [indexLists_eq problem.name _ _ fewActions fewProps, problem.build_self]

/-- Every domain and every problem that has been built is built again, whole, from its form. -/
theorem rebuilt_from_form :
    (∀ (name : Symbol) (schemas : List Schema) (predicates : List Symbol) (domain : Domain),
      Domain.build name schemas predicates = .ok domain → domain.Rebuilt schemas predicates) ∧
    ∀ (name : Symbol) (domain : Domain) (actions : List GroundAction)
      (props goals : List GroundAtom) (problem : Problem),
      build name domain actions props goals = .ok problem →
        problem.Rebuilt domain actions props goals :=
  ⟨fun _ _ _ _ => Domain.rebuilt, fun _ _ _ _ _ _ => rebuilt⟩

/-- The short walk, built from its lists in another order and with a repeated goal. -/
theorem walk_rebuilt :
    Domain.build "walks" WalkDomain.schemas ["at"] = .ok WalkDomain.domain ∧
      WalkDomain.domain.Rebuilt WalkDomain.schemas ["at"] ∧
        ∃ problem, build "short" WalkDomain.domain WalkDomain.actions.reverse
            WalkDomain.props.reverse (WalkDomain.goals ++ WalkDomain.goals) = .ok problem ∧
          problem.Rebuilt WalkDomain.domain WalkDomain.actions.reverse WalkDomain.props.reverse
            (WalkDomain.goals ++ WalkDomain.goals) := by
  obtain ⟨domains, problems⟩ := rebuilt_from_form
  have domain := WalkDomain.domain.build_self
  obtain ⟨problem, built⟩ : ∃ problem, build "short" WalkDomain.domain WalkDomain.actions.reverse
      WalkDomain.props.reverse (WalkDomain.goals ++ WalkDomain.goals) = .ok problem :=
    exists_build_iff.2 (WalkDomain.problem.accepted.of_perm (List.reverse_perm _)
      (List.reverse_perm _) fun ident => by simp [WalkDomain.problem])
  exact ⟨domain, domains _ _ _ _ domain, problem, built, problems _ _ _ _ _ _ built⟩

end Problem

end SchemaNet
