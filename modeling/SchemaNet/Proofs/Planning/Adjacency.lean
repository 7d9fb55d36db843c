import SchemaNet.Proofs.Planning.Acceptance

/-!
The relation between ground actions and propositions, read off the identifiers in the
actions' own slots, and the tables that hold it as positions. Each table picks out
exactly the entities that the relation names.
-/

namespace SchemaNet

/-- Whether an action is of the schema and holds the proposition in that slot. -/
def GroundAction.fills (action : GroundAction) (schema : Symbol) (k : Nat) (prop : GroundAtom) :
    Bool :=
  action.schema == schema && (action.slots[k]?).any (·.ident == prop.ident)

namespace Problem

/-- The proposition of the problem with the identifier of another one. -/
def listed? (problem : Problem) (held : GroundAtom) : Option GroundAtom :=
  problem.props.find? (·.ident == held.ident)

/-- The propositions of the problem in the slots of an action. -/
def heldBy (problem : Problem) (action : GroundAction) : List GroundAtom :=
  action.slots.filterMap problem.listed?

/-- The actions of a schema that hold a proposition in one slot, in canonical order. -/
def holders (problem : Problem) (schema : Symbol) (k : Nat) (prop : GroundAtom) :
    List GroundAction :=
  problem.actions.filter (·.fills schema k prop)

def instances (problem : Problem) (schema : SchemaId) : List GroundAction :=
  problem.actions.filter fun action => problem.domain.schemaPosition action.schema == schema

def propsOf (problem : Problem) (pred : PredId) : List GroundAtom :=
  problem.props.filter fun prop => problem.domain.predicatePosition prop.predicate == pred

variable {problem : Problem}

theorem props_distinct (problem : Problem) : (problem.props.map GroundAtom.ident).Nodup :=
  problem.accepted.props_distinct

theorem actions_distinct (problem : Problem) : (problem.actions.map GroundAction.ident).Nodup :=
  problem.accepted.actions_distinct

theorem instances_nodup (problem : Problem) (s : SchemaId) : (problem.instances s).Nodup :=
  problem.actions_distinct.of_map.filter _

theorem propsOf_nodup (problem : Problem) (pred : PredId) : (problem.propsOf pred).Nodup :=
  problem.props_distinct.of_map.filter _

theorem predicate_known {prop : GroundAtom} (h : prop ∈ problem.props) :
    prop.predicate ∈ problem.domain.predicates :=
  (problem.accepted.props_admissible prop h).known

theorem exists_schema {action : GroundAction} (h : action ∈ problem.actions) :
    ∃ schema ∈ problem.domain.schemas, action.Instantiates schema problem.props :=
  problem.accepted.actions_instantiate action h

theorem schemaPosition_of_mem_instances {s : Nat} {action : GroundAction}
    (h : action ∈ problem.instances s) : problem.domain.schemaPosition action.schema = s :=
  beq_iff_eq.1 (List.mem_filter.1 h).2

theorem predicatePosition_of_mem_propsOf {pred : Nat} {prop : GroundAtom}
    (h : prop ∈ problem.propsOf pred) : problem.domain.predicatePosition prop.predicate = pred :=
  beq_iff_eq.1 (List.mem_filter.1 h).2

theorem instantiates_of_mem_instances {s : Nat} {schema : Schema}
    (hs : problem.domain.schemas[s]? = some schema) {action : GroundAction}
    (h : action ∈ problem.instances s) : action.Instantiates schema problem.props := by
  obtain ⟨own, hown, inst⟩ := exists_schema (List.mem_of_mem_filter h)
  have found := Domain.getElem?_schemaPosition hown
  rw [inst.name, schemaPosition_of_mem_instances h, hs] at found
  exact Option.some.inj found ▸ inst

theorem predicate_of_mem_propsOf {pred : Nat} {predicate : Symbol}
    (hp : problem.domain.predicates[pred]? = some predicate) {prop : GroundAtom}
    (h : prop ∈ problem.propsOf pred) : prop.predicate = predicate := by
  have found := Domain.getElem?_predicatePosition (predicate_known (List.mem_of_mem_filter h))
  rw [predicatePosition_of_mem_propsOf h, hp] at found
  exact (Option.some.inj found).symm

theorem listed?_eq_some {held prop : GroundAtom} :
    problem.listed? held = some prop ↔ prop ∈ problem.props ∧ prop.ident = held.ident :=
  find?_key_eq_some problem.props_distinct

/-- Every slot of an instance holds a listed proposition of the predicate that the schema
asks for. -/
theorem exists_held {action : GroundAction} {schema : Schema}
    (inst : action.Instantiates schema problem.props) {k : Nat} {relevant : LiftedAtom}
    (hk : schema.relevant[k]? = some relevant) :
    ∃ held prop, action.slots[k]? = some held ∧ problem.listed? held = some prop ∧
      prop.predicate = relevant.predicate := by
  have inside : k < action.slots.length := by
    rw [inst.count]
    exact (List.getElem?_eq_some_iff.1 hk).1
  have hheld := List.getElem?_eq_getElem inside
  obtain ⟨prop, hprop, same, asked⟩ := inst.listed k _ relevant hheld hk
  exact ⟨_, prop, hheld, listed?_eq_some.2 ⟨hprop, same⟩, asked⟩

theorem heldBy_beside {action : GroundAction} {schema : Schema}
    (inst : action.Instantiates schema problem.props) :
    List.Forall₂ (fun held prop => problem.listed? held = some prop) action.slots
      (problem.heldBy action) := by
  refine forall₂_filterMap fun held hheld => ?_
  obtain ⟨k, hk⟩ := List.getElem?_of_mem hheld
  have inside : k < schema.relevant.length := by
    rw [← inst.count]
    exact (List.getElem?_eq_some_iff.1 hk).1
  obtain ⟨other, prop, hother, hprop, -⟩ := exists_held inst (List.getElem?_eq_getElem inside)
  rw [hk] at hother
  exact ⟨prop, Option.some.inj hother ▸ hprop⟩

theorem heldBy_length {action : GroundAction} {schema : Schema}
    (inst : action.Instantiates schema problem.props) :
    (problem.heldBy action).length = schema.relevant.length :=
  (heldBy_beside inst).length_eq.symm.trans inst.count

theorem predicate_of_heldBy {action : GroundAction} {schema : Schema}
    (inst : action.Instantiates schema problem.props) {k : Nat} {prop : GroundAtom}
    (hk : (problem.heldBy action)[k]? = some prop) {relevant : LiftedAtom}
    (hrelevant : schema.relevant[k]? = some relevant) : prop.predicate = relevant.predicate := by
  obtain ⟨held, hheld, hprop⟩ := forall₂_getElem? (heldBy_beside inst) hk
  obtain ⟨other, listed, hother, hlisted, asked⟩ := exists_held inst hrelevant
  obtain rfl := Option.some.inj (hheld.symm.trans hother)
  exact Option.some.inj (hprop.symm.trans hlisted) ▸ asked

theorem mem_heldBy {action : GroundAction} {prop : GroundAtom} :
    prop ∈ problem.heldBy action ↔
      prop ∈ problem.props ∧ ∃ held ∈ action.slots, held.ident = prop.ident := by
  simp only [heldBy, List.mem_filterMap, listed?_eq_some]
  constructor
  · rintro ⟨held, hheld, hprop, same⟩
    exact ⟨hprop, held, hheld, same.symm⟩
  · rintro ⟨hprop, held, hheld, same⟩
    exact ⟨held, hheld, hprop, same.symm⟩

/-- Holders of a listed schema are instances of it. -/
theorem holders_eq {s : Nat} {schema : Schema} (hs : problem.domain.schemas[s]? = some schema)
    (k : Nat) (prop : GroundAtom) :
    problem.holders schema.name k prop =
      (problem.instances s).filter fun action =>
        (action.slots[k]?).any (·.ident == prop.ident) := by
  rw [holders, instances, List.filter_filter]
  refine List.filter_congr fun action h => ?_
  obtain ⟨own, hown, inst⟩ := exists_schema h
  have names : action.schema = schema.name ↔ problem.domain.schemaPosition action.schema = s := by
    rw [← inst.name]
    constructor
    · intro same
      rw [same, Domain.schemaPosition_of_getElem? hs]
    · intro position
      have found := Domain.getElem?_schemaPosition hown
      rw [position, hs] at found
      rw [Option.some.inj found]
  rw [GroundAction.fills, Bool.and_comm]
  congr 1
  rw [Bool.eq_iff_iff, beq_iff_eq, beq_iff_eq, names]

/-! ## The tables of the index -/

theorem actSchema_eq {id : Nat} {action : GroundAction} (h : problem.actions[id]? = some action) :
    problem.actSchema id = problem.domain.schemaPosition action.schema := by
  simp [actSchema, problem.index_eq, Index.ofEntities, h]

theorem propPredicate_eq {id : Nat} {prop : GroundAtom} (h : problem.props[id]? = some prop) :
    problem.propPredicate id = problem.domain.predicatePosition prop.predicate := by
  simp [propPredicate, problem.index_eq, Index.ofEntities, h]

theorem isGoal_eq {id : Nat} {prop : GroundAtom} (h : problem.props[id]? = some prop) :
    problem.isGoal id = decide (prop.ident ∈ problem.goals.map GroundAtom.ident) := by
  simp [isGoal, problem.index_eq, Index.ofEntities, h]

theorem slotProps_eq {id : Nat} {action : GroundAction} (h : problem.actions[id]? = some action) :
    problem.slotProps id = action.slots.map fun held =>
      problem.props.findIdx (·.ident == held.ident) := by
  simp [slotProps, problem.index_eq, Index.ofEntities, h, List.findIdx_map, Function.comp_def]

theorem picks_schemaActions (problem : Problem) (s : SchemaId) :
    Picks problem.actions (problem.schemaActions s) (problem.instances s) :=
  picks_filter_range fun _ _ h => by rw [actSchema_eq h]

theorem picks_predicateProps (problem : Problem) (pred : PredId) :
    Picks problem.props (problem.predicateProps pred) (problem.propsOf pred) :=
  picks_filter_range fun _ _ h => by rw [propPredicate_eq h]

theorem picks_slotProps {id : Nat} {action : GroundAction}
    (h : problem.actions[id]? = some action) :
    Picks problem.props (problem.slotProps id) (problem.heldBy action) := by
  obtain ⟨schema, -, inst⟩ := exists_schema (List.mem_of_getElem? h)
  rw [slotProps_eq h, Picks, List.forall₂_map_left_iff]
  refine (heldBy_beside inst).imp fun held prop hprop => ?_
  obtain ⟨mem, same⟩ := listed?_eq_some.1 hprop
  rw [← same]
  exact getElem?_findIdx_key problem.props_distinct mem

theorem slotProps_length {id : ActId} {action : GroundAction}
    (h : problem.actions[id]? = some action) :
    (problem.slotProps id).length =
      (problem.domain.relevantPredicates (problem.actSchema id)).length := by
  obtain ⟨schema, hschema, inst⟩ := exists_schema (List.mem_of_getElem? h)
  rw [slotProps_eq h, List.length_map, inst.count, actSchema_eq h, ← inst.name,
    Domain.relevantPredicates_of_getElem? (Domain.getElem?_schemaPosition hschema), List.length_map]

/-- A slot holds a proposition of the predicate that the schema asks for. -/
theorem propPredicate_slotProps {id : ActId} {k : Nat} {p : PropId}
    (h : (problem.slotProps id)[k]? = some p) :
    id < problem.numActions ∧ p < problem.numProps ∧
      (problem.domain.relevantPredicates (problem.actSchema id))[k]? =
        some (problem.propPredicate p) := by
  cases hid : problem.actions[id]? with
  | none => simp [slotProps, problem.index_eq, Index.ofEntities, hid] at h
  | some action =>
    obtain ⟨schema, hschema, inst⟩ := exists_schema (List.mem_of_getElem? hid)
    have position := Domain.getElem?_schemaPosition hschema
    have inside : k < schema.relevant.length := by
      have own := (List.getElem?_eq_some_iff.1 h).1
      rwa [slotProps_eq hid, List.length_map, inst.count] at own
    have hrelevant := List.getElem?_eq_getElem inside
    have bound : k < (problem.heldBy action).length := by rwa [heldBy_length inst]
    have hprop := List.getElem?_eq_getElem bound
    obtain ⟨place, hplace, read⟩ := forall₂_getElem? (picks_slotProps hid) hprop
    obtain rfl := Option.some.inj (h.symm.trans hplace)
    refine ⟨(List.getElem?_eq_some_iff.1 hid).1, (List.getElem?_eq_some_iff.1 read).1, ?_⟩
    rw [actSchema_eq hid, ← inst.name, Domain.relevantPredicates_of_getElem? position,
      List.getElem?_map, hrelevant, Option.map_some, propPredicate_eq read,
      predicate_of_heldBy inst hprop hrelevant]

theorem getElem?_propPosition {id : Nat} {prop : GroundAtom} (h : problem.props[id]? = some prop) :
    (problem.propsOf (problem.domain.predicatePosition prop.predicate))[problem.propPosition id]?
      = some prop := by
  have inside : id ∈ problem.predicateProps (problem.propPredicate id) :=
    List.mem_filter.2 ⟨List.mem_range.2 (List.getElem?_eq_some_iff.1 h).1, by simp⟩
  rw [← propPredicate_eq h, propPosition, (problem.picks_predicateProps _).getElem?_idxOf inside, h]

theorem getElem?_actPosition {id : Nat} {action : GroundAction}
    (h : problem.actions[id]? = some action) :
    (problem.instances (problem.domain.schemaPosition action.schema))[problem.actPosition id]?
      = some action := by
  have inside : id ∈ problem.schemaActions (problem.actSchema id) :=
    List.mem_filter.2 ⟨List.mem_range.2 (List.getElem?_eq_some_iff.1 h).1, by simp⟩
  rw [← actSchema_eq h, actPosition, (problem.picks_schemaActions _).getElem?_idxOf inside, h]

/-- What an action module gathers from a slot: for each instance of the schema the
proposition that it holds there. -/
theorem gatherIndices_beside {s : Nat} {schema : Schema}
    (hs : problem.domain.schemas[s]? = some schema) {k : Nat} {relevant : LiftedAtom}
    (hk : schema.relevant[k]? = some relevant) :
    List.Forall₂ (fun place action => ∃ prop, (problem.heldBy action)[k]? = some prop ∧
        (problem.propsOf (problem.domain.predicatePosition relevant.predicate))[place]? = some prop)
      (problem.gatherIndices s k) (problem.instances s) := by
  rw [gatherIndices, List.forall₂_map_left_iff]
  refine List.forall₂_iff_get.2 ⟨(problem.picks_schemaActions s).length_eq, fun i hi hi' => ?_⟩
  have hid := (problem.picks_schemaActions s).get hi hi'
  have inst := instantiates_of_mem_instances hs (List.get_mem _ ⟨i, hi'⟩)
  have inside : k < (problem.heldBy ((problem.instances s).get ⟨i, hi'⟩)).length := by
    rw [heldBy_length inst]
    exact (List.getElem?_eq_some_iff.1 hk).1
  have hprop := List.getElem?_eq_getElem inside
  obtain ⟨place, hplace, read⟩ := forall₂_getElem? (picks_slotProps hid) hprop
  refine ⟨_, hprop, ?_⟩
  rw [hplace, Option.getD_some, ← predicate_of_heldBy inst hprop hk]
  exact getElem?_propPosition read

theorem holds_eq {id : Nat} {action : GroundAction} (hid : problem.actions[id]? = some action)
    {j : Nat} {prop : GroundAtom} (hj : problem.props[j]? = some prop) (k : Nat) :
    problem.holds id k j = (action.slots[k]?).any (·.ident == prop.ident) := by
  rw [holds, slotProps_eq hid, List.getElem?_map]
  cases hheld : action.slots[k]? with
  | none => rfl
  | some held =>
    obtain ⟨schema, -, inst⟩ := exists_schema (List.mem_of_getElem? hid)
    have bound : k < (problem.heldBy action).length := by
      rw [← (heldBy_beside inst).length_eq]
      exact (List.getElem?_eq_some_iff.1 hheld).1
    obtain ⟨other, hother, hlisted⟩ :=
      forall₂_getElem? (heldBy_beside inst) (List.getElem?_eq_getElem bound)
    obtain rfl := Option.some.inj (hheld.symm.trans hother)
    obtain ⟨mem, same⟩ := listed?_eq_some.1 hlisted
    rw [Option.map_some, Option.any_some, Bool.eq_iff_iff, beq_iff_eq, beq_iff_eq, Option.some_inj]
    constructor
    · rintro rfl
      rw [← same] at hj
      rw [← same, Option.some.inj ((getElem?_findIdx_key problem.props_distinct mem).symm.trans hj)]
    · intro ident
      rw [ident]
      exact findIdx_key problem.props_distinct hj

/-- What a proposition module pools over in a slot: for each proposition of the predicate
the actions that hold it there. -/
theorem poolIndices_beside {pred j : Nat} {slot : Slot}
    (hslot : (problem.domain.actionSlots pred)[j]? = some slot) {schema : Schema}
    (hs : problem.domain.schemas[slot.schema]? = some schema) :
    List.Forall₂ (fun pool prop => Picks (problem.instances slot.schema) pool
        (problem.holders schema.name slot.slot prop))
      (problem.poolIndices pred j) (problem.propsOf pred) := by
  simp only [poolIndices, hslot]
  rw [List.forall₂_map_left_iff]
  refine (problem.picks_predicateProps pred).imp fun id prop hid => ?_
  rw [holders_eq hs]
  exact picks_filter_zipIdx (p := fun a => problem.holds a slot.slot id)
    ((problem.picks_schemaActions slot.schema).imp fun a action ha => holds_eq ha hid _)

end Problem

end SchemaNet
