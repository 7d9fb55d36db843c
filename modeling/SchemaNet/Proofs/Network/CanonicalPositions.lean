import SchemaNet.Proofs.Network.FeatureStacks
import SchemaNet.Proofs.Planning.RebuiltMetadata
import SchemaNet.Proofs.Planning.Transposition

/-!
Canonical positions. Entities stand in the order of their identifiers and fall into groups, the
propositions by predicate and the actions by schema. Identifier, position, and group with the
place inside it determine one another; so a state is known from the identifiers of what is true
and what is enabled in it.
-/

namespace SchemaNet

open Memory (bind_eq_ok)

/-! ## Numbered entities -/

/-- Entities in the order of their identifiers, numbered by position. Every position lies in one
group, and at one place there. -/
structure Numbered {β : Type} (ident : β → String) (entities : List β)
    (lookup : String → Except PlanningError Nat) (numGroups : Nat) (members : Nat → List Nat)
    (group place : Nat → Nat) : Prop where
  increasing : entities.Pairwise fun a b => ident a < ident b
  lookup_iff : ∀ name i, lookup name = .ok i ↔ (entities[i]?).map ident = some name
  group_lt : ∀ i < entities.length, group i < numGroups
  members_increasing : ∀ g, (members g).Pairwise (· < ·)
  mem_iff : ∀ g i, i ∈ members g ↔ i < entities.length ∧ group i = g
  place_iff : ∀ g k i,
    (members g)[k]? = some i ↔ i < entities.length ∧ group i = g ∧ place i = k

section Groups

variable {n : Nat} {group : Nat → Nat}

theorem mem_filter_range_group {g i : Nat} :
    i ∈ (List.range n).filter (group · == g) ↔ i < n ∧ group i = g := by
  simp

/-- The positions of a group are told apart by their places in it. -/
theorem getElem?_filter_range_group {g k i : Nat} :
    ((List.range n).filter (group · == g))[k]? = some i ↔
      i < n ∧ group i = g ∧ ((List.range n).filter (group · == group i)).idxOf i = k := by
  constructor
  · intro read
    obtain ⟨inside, own⟩ := mem_filter_range_group.1 (List.mem_of_getElem? read)
    obtain ⟨bound, rfl⟩ := List.getElem?_eq_some_iff.1 read
    refine ⟨inside, own, ?_⟩
    rw [own]
    exact (List.nodup_range.filter _).idxOf_getElem k bound
  · rintro ⟨inside, rfl, rfl⟩
    exact List.getElem?_idxOf (mem_filter_range_group.2 ⟨inside, rfl⟩)

theorem Numbered.of_groups {β : Type} {ident : β → String} {entities : List β}
    {lookup : String → Except PlanningError Nat} {numGroups : Nat}
    (sorted : entities.Pairwise fun a b => ident a ≤ ident b)
    (distinct : (entities.map ident).Nodup)
    (lookup_iff : ∀ name i, lookup name = .ok i ↔ ∃ x, entities[i]? = some x ∧ ident x = name)
    (group_lt : ∀ i < entities.length, group i < numGroups) :
    Numbered ident entities lookup numGroups
      (fun g => (List.range entities.length).filter (group · == g)) group
      fun i => ((List.range entities.length).filter (group · == group i)).idxOf i where
  increasing := increasing_of_distinct sorted distinct
  lookup_iff name i := (lookup_iff name i).trans Option.map_eq_some_iff.symm
  group_lt := group_lt
  members_increasing _ := List.pairwise_lt_range.filter _
  mem_iff _ _ := mem_filter_range_group
  place_iff _ _ _ := getElem?_filter_range_group

end Groups

/-! ## Flags by identifier -/

/-- The identifiers of the entities whose flag is set. -/
def flagged {β : Type} (ident : β → String) (entities : List β) (flags : List Bool) : List String :=
  ((entities.zip flags).filter (·.2)).map fun entry => ident entry.1

theorem mem_flagged {β : Type} {ident : β → String} {entities : List β} {flags : List Bool}
    {name : String} : name ∈ flagged ident entities flags ↔
      ∃ (i : Nat) (x : β), entities[i]? = some x ∧ flags[i]? = some true ∧ ident x = name := by
  rw [flagged, List.mem_map]
  constructor
  · rintro ⟨⟨x, flag⟩, mem, same⟩
    obtain ⟨among, set⟩ := List.mem_filter.1 mem
    obtain ⟨i, read⟩ := List.getElem?_of_mem among
    obtain ⟨hx, hflag⟩ := List.getElem?_zip_eq_some.1 read
    exact ⟨i, x, hx, hflag.trans (congrArg some set), same⟩
  · rintro ⟨i, x, hx, hflag, same⟩
    have read : (entities.zip flags)[i]? = some (x, true) :=
      List.getElem?_zip_eq_some.2 ⟨hx, hflag⟩
    exact ⟨(x, true), List.mem_filter.2 ⟨List.mem_of_getElem? read, rfl⟩, same⟩

section Numbered

variable {α β : Type} {ident : β → String} {entities : List β}
  {lookup : String → Except PlanningError Nat} {numGroups : Nat} {members : Nat → List Nat}
  {group place : Nat → Nat}

variable {flags : List Bool} {idents : List String}

/-- The positions found for the identifiers are those whose flag is set. -/
theorem Numbered.mem_positions
    (numbered : Numbered ident entities lookup numGroups members group place)
    (size : flags.length = entities.length)
    (named : ∀ name, name ∈ idents ↔ name ∈ flagged ident entities flags) {positions : List Nat}
    (found : idents.mapM lookup = .ok positions) (i : Nat) :
    i ∈ positions ↔ flags[i]? = some true := by
  constructor
  · intro mem
    obtain ⟨name, among, own⟩ := forall₂_mem_right (mapM_eq_ok.1 found) mem
    obtain ⟨j, x, hx, set, same⟩ := mem_flagged.1 ((named name).1 among)
    have other := (numbered.lookup_iff name j).2 (by rw [hx, Option.map_some, same])
    obtain rfl := Except.ok.inj (own.symm.trans other)
    exact set
  · intro set
    have inside : i < entities.length := by
      rw [← size]
      exact (List.getElem?_eq_some_iff.1 set).1
    have hx := List.getElem?_eq_getElem inside
    have among := (named _).2 (mem_flagged.2 ⟨i, _, hx, set, rfl⟩)
    obtain ⟨j, mem, own⟩ := forall₂_mem_left (mapM_eq_ok.1 found) among
    have here := (numbered.lookup_iff _ i).2 (by rw [hx, Option.map_some])
    obtain rfl := Except.ok.inj (own.symm.trans here)
    exact mem

/-- Flags are found again from the identifiers that they are set for, in any order and however
often each is named. -/
theorem Numbered.flagsOf_eq
    (numbered : Numbered ident entities lookup numGroups members group place)
    (size : flags.length = entities.length)
    (named : ∀ name, name ∈ idents ↔ name ∈ flagged ident entities flags) :
    (CanonicalState.flagsOf entities.length lookup idents : Except (NetworkError α) _) =
      .ok flags := by
  have known : ∀ name ∈ idents, ∃ i, lookup name = .ok i := by
    intro name mem
    obtain ⟨i, x, hx, -, same⟩ := mem_flagged.1 ((named name).1 mem)
    exact ⟨i, (numbered.lookup_iff name i).2 (by rw [hx, Option.map_some, same])⟩
  obtain ⟨positions, found⟩ := exists_mapM_iff.2 known
  have set_iff := numbered.mem_positions size named found
  rw [CanonicalState.flagsOf, found]
  refine congrArg Except.ok (List.ext_getElem? fun i => ?_)
  by_cases inside : i < entities.length
  · have flag := List.getElem?_eq_getElem (size.symm ▸ inside : i < flags.length)
    rw [List.getElem?_map, List.getElem?_range inside, Option.map_some, flag, Option.some_inj]
    exact Bool.eq_iff_iff.2 (decide_eq_true_iff.trans ((set_iff i).trans (by rw [flag]; simp)))
  · rw [List.getElem?_eq_none (by simpa using inside), List.getElem?_eq_none (by omega)]

end Numbered

namespace Problem

theorem actIndex_eq_ok {problem : Problem} {ident : String} {id : ActId} :
    problem.actIndex ident = .ok id ↔
      ∃ action, problem.actions[id]? = some action ∧ action.ident = ident := by
  rw [← numbering_eq_some problem.actions_distinct, ← actIndex_toOption]
  cases problem.actIndex ident <;> simp [Except.toOption]

theorem props_numbered (problem : Problem) :
    Numbered GroundAtom.ident problem.props problem.propIndex problem.domain.numPredicates
      problem.predicateProps problem.propPredicate problem.propPosition := by
  refine Numbered.of_groups problem.props_sorted problem.props_distinct
    (fun _ _ => propIndex_eq_ok) fun i inside => ?_
  rw [propPredicate_eq (List.getElem?_eq_getElem inside)]
  exact Domain.predicatePosition_lt (predicate_known (List.getElem_mem inside))

theorem actions_numbered (problem : Problem) :
    Numbered GroundAction.ident problem.actions problem.actIndex problem.domain.numSchemas
      problem.schemaActions problem.actSchema problem.actPosition := by
  refine Numbered.of_groups problem.actions_sorted problem.actions_distinct
    (fun _ _ => actIndex_eq_ok) fun i inside => ?_
  obtain ⟨schema, known, inst⟩ := exists_schema (List.getElem_mem inside)
  rw [actSchema_eq (List.getElem?_eq_getElem inside), ← inst.name]
  exact Domain.schemaPosition_lt known

/-- In every problem the propositions and the actions are numbered, each in its order, and the
tables of the pass hold these numbers. A state is given back by the identifiers of its true
propositions and of its enabled actions, in any order and with repetitions. -/
theorem positions_inverse_to_lookups (problem : Problem) :
    Numbered GroundAtom.ident problem.props problem.propIndex problem.domain.numPredicates
        problem.predicateProps problem.propPredicate problem.propPosition ∧
      Numbered GroundAction.ident problem.actions problem.actIndex problem.domain.numSchemas
        problem.schemaActions problem.actSchema problem.actPosition ∧
      (problem.numActions ≤ Indexing.idLimit → problem.numProps ≤ Indexing.idLimit →
        indexLists problem.domain problem.actions problem.props problem.goals =
          .ok problem.indexed) ∧
      ∀ (α : Type) (state : CanonicalState), state.Describes problem →
        ∀ trueProps enabledActions : List String,
          (∀ name, name ∈ trueProps ↔
            name ∈ flagged GroundAtom.ident problem.props state.propsTrue) →
          (∀ name, name ∈ enabledActions ↔
            name ∈ flagged GroundAction.ident problem.actions state.enabled) →
          (CanonicalState.ofIdents problem trueProps enabledActions :
            Except (NetworkError α) CanonicalState) = .ok state := by
  refine ⟨problem.props_numbered, problem.actions_numbered, fun fewActions fewProps => ?_,
    fun α state describes trueProps enabledActions hprops hactions => ?_⟩
  · rw [indexLists_eq problem.name _ _ fewActions fewProps, problem.build_self]
  · have truth := problem.props_numbered.flagsOf_eq (α := α) describes.props hprops
    have mask := problem.actions_numbered.flagsOf_eq (α := α) describes.enabled hactions
    exact bind_eq_ok.2 ⟨_, truth, bind_eq_ok.2 ⟨_, mask, rfl⟩⟩

end Problem

namespace WalkDomain

/-- The bell is rung at the depot while the first walk is still possible. -/
def ringing : CanonicalState := ⟨[true, false, false, true], [true, true, false]⟩

theorem ringing_by_name :
    (problem.numActions ≤ Indexing.idLimit ∧ problem.numProps ≤ Indexing.idLimit ∧
      Problem.indexLists domain actions props goals = .ok problem.indexed) ∧
    ringing.Describes problem ∧
    flagged GroundAtom.ident problem.props ringing.propsTrue = ["at a", "at depot"] ∧
    flagged GroundAction.ident problem.actions ringing.enabled = ["ring", "walk a b"] ∧
    (CanonicalState.ofIdents problem ["at depot", "at a", "at depot"] ["walk a b", "ring"] :
      Except (NetworkError Whole) CanonicalState) = .ok ringing := by
  obtain ⟨-, -, pass, states⟩ := Problem.positions_inverse_to_lookups problem
  have few : problem.numActions ≤ Indexing.idLimit := by decide
  have fewProps : problem.numProps ≤ Indexing.idLimit := by decide
  have describes : ringing.Describes problem := ⟨rfl, rfl⟩
  have trueNames : flagged GroundAtom.ident problem.props ringing.propsTrue =
      ["at a", "at depot"] := by decide
  have enabledNames : flagged GroundAction.ident problem.actions ringing.enabled =
      ["ring", "walk a b"] := by decide
  refine ⟨⟨few, fewProps, pass few fewProps⟩, describes, trueNames, enabledNames,
    states Whole ringing describes _ _ (fun name => ?_) fun name => ?_⟩
  · rw [trueNames]
    simp [or_comm, or_left_comm]
  · rw [enabledNames]
    simp [or_comm]

end WalkDomain

end SchemaNet
