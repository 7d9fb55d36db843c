import SchemaNet.Proofs.Planning.Adjacency
import SchemaNet.Proofs.Planning.Construction
import SchemaNet.Proofs.Planning.IndexedActions

/-!
The tables of the pass and those of a problem. What the pass leaves for the lists of a problem
is what the problem's own functions say.
-/

namespace SchemaNet

section Numbering

variable {β γ : Type} {xs : List β} {p : Nat → Bool} {q : β → Bool}

theorem map_range_eq_map {f : Nat → γ} {g : β → γ} (same : ∀ i x, xs[i]? = some x → f i = g x) :
    (List.range xs.length).map f = xs.map g := by
  refine List.ext_getElem (by simp) fun i h h' => ?_
  have inside : i < xs.length := by simpa using h'
  rw [List.getElem_map, List.getElem_map, List.getElem_range,
    same i _ (List.getElem?_eq_getElem inside)]

theorem places_eq_filter (same : ∀ i x, xs[i]? = some x → p i = q x) :
    places q xs = (List.range xs.length).filter p := by
  rw [places, filter_zipIdx_places]
  refine List.filter_congr fun i hi => ?_
  have h := List.getElem?_eq_getElem (List.mem_range.1 hi)
  rw [h, Option.any_some, same i _ h]

/-- In the list of the numbers that satisfy a condition, a number stands behind the smaller
ones. -/
theorem idxOf_filter_range {n i : Nat} (inside : i < n) (own : p i) :
    ((List.range n).filter p).idxOf i = ((List.range i).filter p).length := by
  obtain ⟨k, rfl⟩ := Nat.exists_eq_add_of_lt inside
  have apart : i ∉ (List.range i).filter p := fun h =>
    Nat.lt_irrefl i (List.mem_range.1 (List.mem_filter.1 h).1)
  rw [Nat.add_assoc, List.range_add, List.filter_append, List.idxOf_append_of_notMem apart,
    List.range_succ_eq_map]
  simp [own]

/-- The position of each element among those with its key, counted in two ways. -/
theorem map_range_idxOf {key : β → Nat} {keyAt : Nat → Nat}
    (same : ∀ i x, xs[i]? = some x → keyAt i = key x) :
    (List.range xs.length).map
        (fun i => ((List.range xs.length).filter (keyAt · == keyAt i)).idxOf i) =
      ranks key xs := by
  refine List.ext_getElem (by simp [ranks_length]) fun i h h' => ?_
  have inside : i < xs.length := by simpa using h
  have before : places (key · == key xs[i]) (xs.take i) =
      (List.range i).filter (keyAt · == keyAt i) := by
    rw [places_eq_filter (p := (keyAt · == keyAt i)), List.length_take_of_le (Nat.le_of_lt inside)]
    intro j x hj
    rw [List.getElem?_take] at hj
    split at hj
    · rw [same j x hj, same i _ (List.getElem?_eq_getElem inside)]
    · cases hj
  have position := idxOf_filter_range (p := (keyAt · == keyAt i)) inside (beq_self_eq_true _)
  rw [List.getElem_map, List.getElem_range, position, ← before, places_length]
  simp [ranks]

end Numbering

namespace Problem

open Indexing

/-- The tables of a problem, read through its functions. -/
def tables (problem : Problem) : Tables where
  props :=
    { ids := fun ident => (problem.propIndex ident).toOption
      pred := (List.range problem.numProps).map problem.propPredicate
      sub := (List.range problem.numProps).map problem.propPosition
      ofPred := (List.range problem.domain.numPredicates).map problem.predicateProps }
  goal := problem.goalFlags
  acts :=
    { ids := fun ident => (problem.actIndex ident).toOption
      schema := (List.range problem.numActions).map problem.actSchema
      sub := (List.range problem.numActions).map problem.actPosition
      slotProps := (List.range problem.numActions).map problem.slotProps
      ofSchema := (List.range problem.domain.numSchemas).map problem.schemaActions
      holders := (List.range problem.numProps).map fun prop =>
        (problem.adjacency prop).map (·.2)
      gather := (List.range problem.domain.numSchemas).map fun schema =>
        (List.range (problem.domain.relevantPredicates schema).length).map
          (problem.gatherIndices schema) }

variable (problem : Problem)

theorem propIndex_toOption (ident : String) :
    (problem.propIndex ident).toOption = numbering GroundAtom.ident problem.props ident := by
  unfold propIndex numbering
  cases problem.props.findIdx? (·.ident == ident) <;> rfl

theorem actIndex_toOption (ident : String) :
    (problem.actIndex ident).toOption = numbering GroundAction.ident problem.actions ident := by
  unfold actIndex numbering
  cases problem.actions.findIdx? (·.ident == ident) <;> rfl

theorem propIndex_eq_ok {problem : Problem} {ident : String} {id : PropId} :
    problem.propIndex ident = .ok id ↔
      ∃ prop, problem.props[id]? = some prop ∧ prop.ident = ident := by
  rw [← numbering_eq_some problem.props_distinct, ← propIndex_toOption]
  cases problem.propIndex ident <;> simp [Except.toOption]

theorem predicateProps_eq_places (pred : PredId) :
    problem.predicateProps pred = places (predOf problem.domain · == pred) problem.props :=
  (places_eq_filter fun i prop h => by rw [propPredicate_eq h, predOf]).symm

theorem schemaActions_eq_places (s : SchemaId) :
    problem.schemaActions s = places (schemaOf problem.domain · == s) problem.actions :=
  (places_eq_filter fun i action h => by rw [actSchema_eq h, schemaOf]).symm

theorem map_propPosition :
    (List.range problem.numProps).map problem.propPosition =
      ranks (predOf problem.domain) problem.props :=
  map_range_idxOf fun _ _ h => propPredicate_eq h

theorem map_actPosition :
    (List.range problem.numActions).map problem.actPosition =
      ranks (schemaOf problem.domain) problem.actions :=
  map_range_idxOf fun _ _ h => actSchema_eq h

theorem actionsHolding_eq {i : PropId} {prop : GroundAtom} (h : problem.props[i]? = some prop)
    (slot : Slot) :
    problem.actionsHolding i slot = heldAt problem.domain problem.actions prop slot := by
  rw [actionsHolding, schemaActions, List.filter_filter, heldAt]
  refine (places_eq_filter fun id action hid => ?_).symm
  rw [actSchema_eq hid, holds_eq hid h, holdsIn, Bool.and_comm, schemaOf]

theorem heldSub_eq {id : ActId} {action : GroundAction} (hid : problem.actions[id]? = some action)
    {k : Nat} (hk : k < (problem.slotProps id).length) :
    heldSub problem.domain problem.props k action =
      problem.propPosition (((problem.slotProps id)[k]?).getD 0) := by
  have ids : slotIds problem.props action = problem.slotProps id := (slotProps_eq hid).symm
  have listed : (problem.slotProps id)[k] < problem.numProps :=
    (picks_slotProps hid).lt (List.getElem_mem hk)
  rw [heldSub, ids, ← map_propPosition]
  simp [hk, listed]

theorem gathered_eq {s k : Nat} {pred : PredId}
    (hk : (problem.domain.relevantPredicates s)[k]? = some pred) :
    gathered problem.domain problem.props problem.actions s k = problem.gatherIndices s k := by
  have beside : List.Forall₂ (fun id action => problem.propPosition
      (((problem.slotProps id)[k]?).getD 0) = heldSub problem.domain problem.props k action)
      (problem.schemaActions s) (problem.instances s) := by
    refine forall₂_imp_mem (problem.picks_schemaActions s) fun id mem action hid => ?_
    have own : problem.actSchema id = s := by simpa using (List.mem_filter.1 mem).2
    refine (heldSub_eq problem hid ?_).symm
    rw [slotProps_length hid, own]
    exact (List.getElem?_eq_some_iff.1 hk).1
  rw [gathered, gatherIndices, eq_comm, ← List.forall₂_eq_eq_eq, List.forall₂_map_left_iff,
    List.forall₂_map_right_iff]
  exact beside

theorem propTables_eq : PropTables.of problem.domain problem.props = problem.tables.props := by
  have ids : numbering GroundAtom.ident problem.props =
      fun ident => (problem.propIndex ident).toOption :=
    funext fun ident => (problem.propIndex_toOption ident).symm
  have pred : problem.props.map (predOf problem.domain) =
      (List.range problem.numProps).map problem.propPredicate :=
    (map_range_eq_map fun _ _ h => propPredicate_eq h).symm
  simp only [PropTables.of, ids, pred, ← map_propPosition, ← predicateProps_eq_places]
  rfl

theorem holders_table_eq :
    holderTable problem.domain problem.props (heldAt problem.domain problem.actions) =
      (List.range problem.numProps).map fun prop => (problem.adjacency prop).map (·.2) := by
  refine (map_range_eq_map fun i prop h => ?_).symm
  rw [adjacency, List.map_map, propPredicate_eq h, predOf]
  exact List.map_congr_left fun slot _ => problem.actionsHolding_eq h slot

theorem actTables_eq :
    ActTables.of problem.domain problem.props problem.actions = problem.tables.acts := by
  have ids : numbering GroundAction.ident problem.actions =
      fun ident => (problem.actIndex ident).toOption :=
    funext fun ident => (problem.actIndex_toOption ident).symm
  have schema : problem.actions.map (schemaOf problem.domain) =
      (List.range problem.numActions).map problem.actSchema :=
    (map_range_eq_map fun _ _ h => actSchema_eq h).symm
  have slots : problem.actions.map (slotIds problem.props) =
      (List.range problem.numActions).map problem.slotProps :=
    (map_range_eq_map fun _ _ h => slotProps_eq h).symm
  have gather : slotTable problem.domain (gathered problem.domain problem.props problem.actions) =
      slotTable problem.domain problem.gatherIndices :=
    slotTable_congr fun _ _ _ hk => problem.gathered_eq hk
  simp only [ActTables.of, ids, schema, slots, ← map_actPosition, ← schemaActions_eq_places,
    holders_table_eq, gather]
  rfl

/-- The pass leaves the tables of the problem. -/
theorem tables_eq :
    Tables.of problem.domain problem.actions problem.props problem.goals = problem.tables := by
  have goal : Indexing.goalFlags problem.props problem.goals = problem.goalFlags := by
    simp [Indexing.goalFlags, goalFlags, problem.index_eq, Index.ofEntities]
  rw [Tables.of, goal, propTables_eq, actTables_eq]
  rfl

/-- The tables of a problem, and for each schema and each predicate whether the problem has
none of its entities, which calls for a warning. -/
structure Indexed where
  tables : Tables
  bareSchemas : List Bool
  barePredicates : List Bool

def emptyRows (table : List (List Nat)) (n : Nat) : Except Halt (List Bool) := do
  let rows ← (List.range n).mapM (Table.read table)
  return rows.map List.isEmpty

/-- Brings the entities into canonical order, drops repeated goals, runs the pass and looks for
what the problem lacks. -/
def indexLists (domain : Domain) (actions : List GroundAction) (props goals : List GroundAtom) :
    Except Halt Indexed := do
  let tables ← Indexing.run domain (canonical GroundAction.ident actions)
    (canonical GroundAtom.ident props)
    (distinctBy GroundAtom.ident (canonical GroundAtom.ident goals))
  let bareSchemas ← emptyRows tables.acts.ofSchema domain.numSchemas
  let barePredicates ← emptyRows tables.props.ofPred domain.numPredicates
  return ⟨tables, bareSchemas, barePredicates⟩

def indexed (problem : Problem) : Indexed where
  tables := problem.tables
  bareSchemas := (List.range problem.domain.numSchemas).map fun s =>
    (problem.schemaActions s).isEmpty
  barePredicates := (List.range problem.domain.numPredicates).map fun pred =>
    (problem.predicateProps pred).isEmpty

theorem emptyRows_eq (row : Nat → List Nat) (n : Nat) :
    emptyRows ((List.range n).map row) n = .ok ((List.range n).map fun i => (row i).isEmpty) := by
  have rows : (List.range n).mapM (Table.read ((List.range n).map row)) =
      .ok ((List.range n).map row) :=
    mapM_eq_ok_map fun i hi => Table.read_map (List.getElem?_range (List.mem_range.1 hi))
  rw [emptyRows, rows, ok_bind, List.map_map]
  rfl

/-- The pass ends as the construction of the problem does, and with its tables. -/
theorem indexLists_eq (name : Symbol) (domain : Domain) {actions : List GroundAction}
    {props : List GroundAtom} (goals : List GroundAtom) (fewActions : actions.length ≤ idLimit)
    (fewProps : props.length ≤ idLimit) :
    indexLists domain actions props goals =
      match build name domain actions props goals with
      | .ok problem => .ok problem.indexed
      | .error fault => .error (.refused fault) := by
  have sortedActions : (canonical GroundAction.ident actions).length ≤ idLimit := by
    rw [(canonical_perm GroundAction.ident actions).length_eq]
    exact fewActions
  have sortedProps : (canonical GroundAtom.ident props).length ≤ idLimit := by
    rw [(canonical_perm GroundAtom.ident props).length_eq]
    exact fewProps
  rw [indexLists, run_eq _ (canonical_pairwise _ _) (canonical_pairwise _ _) sortedActions
    sortedProps]
  cases built : build name domain actions props goals with
  | error fault =>
    rw [build_eq_error.1 built]
    rfl
  | ok problem =>
    obtain ⟨rfl, actionsEq, propsEq, goalsEq⟩ := fields_of_build built
    have tables := problem.tables_eq
    rw [actionsEq, propsEq, goalsEq] at tables
    have clean := problem.faultless
    rw [actionsEq, propsEq, goalsEq] at clean
    have schemas := emptyRows_eq problem.schemaActions problem.domain.numSchemas
    have predicates := emptyRows_eq problem.predicateProps problem.domain.numPredicates
    rw [clean, Halt.settle_none, ok_bind, tables]
    dsimp only [Problem.tables]
    rw [schemas, ok_bind, predicates, ok_bind]
    rfl

end Problem

end SchemaNet
