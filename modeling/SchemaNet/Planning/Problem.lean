import SchemaNet.Planning.Domain

/-!
A grounded problem of a domain. Actions and propositions stand in canonical
order, that is, sorted by identifier; positions in these two lists number the
entities everywhere else. A value of `Problem` has no fault, and its index is the
one that its actions, propositions and goals determine.
-/

namespace SchemaNet

abbrev ActId := Nat

abbrev PropId := Nat

def ActId.label (id : ActId) : String := s!"ActId#{id}"

def PropId.label (id : PropId) : String := s!"PropId#{id}"

/-- Sorts by identifier and keeps the order of entities with the same one. -/
def canonical {α : Type} (ident : α → String) (entities : List α) : List α :=
  entities.mergeSort fun a b => decide (ident a ≤ ident b)

theorem canonical_perm {α : Type} (ident : α → String) (entities : List α) :
    (canonical ident entities).Perm entities :=
  List.mergeSort_perm entities _

theorem canonical_pairwise {α : Type} (ident : α → String) (entities : List α) :
    (canonical ident entities).Pairwise fun a b => ident a ≤ ident b := by
  have sorted := @List.pairwise_mergeSort _ (fun a b => decide (ident a ≤ ident b))
    (fun a b c ab bc => by
      simp only [decide_eq_true_eq] at ab bc ⊢
      exact String.le_trans ab bc)
    (fun a b => by
      simp only [Bool.or_eq_true, decide_eq_true_eq]
      exact String.le_total _ _)
    entities
  exact sorted.imp fun h => by simpa using h

theorem mem_of_mem_distinctBy {α κ : Type} [DecidableEq κ] {key : α → κ} {x : α} {xs : List α}
    (h : x ∈ distinctBy key xs) : x ∈ xs := by
  induction xs with
  | nil => exact h
  | cons y rest ih =>
    simp only [distinctBy, List.mem_cons, List.mem_filter] at h
    rcases h with h | h
    · exact List.mem_cons.2 (.inl h)
    · exact List.mem_cons.2 (.inr (ih h.1))

/-- In a sorted list, what is left after removing repetitions is strictly increasing. -/
theorem distinctBy_pairwise_lt {α : Type} {ident : α → String} {xs : List α}
    (sorted : xs.Pairwise fun a b => ident a ≤ ident b) :
    (distinctBy ident xs).Pairwise fun a b => ident a < ident b := by
  induction xs with
  | nil => exact .nil
  | cons x rest ih =>
    rw [List.pairwise_cons] at sorted
    rw [distinctBy, List.pairwise_cons]
    constructor
    · intro y hy
      rw [List.mem_filter] at hy
      have le := sorted.1 y (mem_of_mem_distinctBy hy.1)
      have ne : ident y ≠ ident x := by simpa using hy.2
      exact Classical.byContradiction fun nlt =>
        ne (String.le_antisymm (String.not_lt.1 nlt) le)
    · exact (ih sorted.2).filter _

namespace Problem

/-- A free argument comes before a repetition, a repetition before the predicate. The
propositions are sorted, so a repetition follows its first occurrence at once. -/
def propFault (domain : Domain) (before : List GroundAtom) (prop : GroundAtom) :
    Option PlanningError :=
  match prop.args.find? Symbol.isFree with
  | some arg => some (.freeVariableInGround prop.ident arg)
  | none =>
    if before.head?.map GroundAtom.ident = some prop.ident then
      some (.duplicateProposition prop.ident)
    else if prop.predicate ∈ domain.predicates then
      none
    else
      some (.unknownPredicate prop.predicate)

def goalFault (props : List GroundAtom) (goal : GroundAtom) : Option PlanningError :=
  if goal.ident ∈ props.map GroundAtom.ident then none else some (.unknownGoal goal.ident)

/-- A slot holds a listed proposition, of the predicate that the schema asks for, and
the very one that the schema's relevant proposition is bound to. -/
def slotFault (props : List GroundAtom) (action : String) (slot : Nat) (relevant : LiftedAtom)
    (bound held : GroundAtom) : Option PlanningError :=
  match props.find? (·.ident == held.ident) with
  | none => some (.unknownProposition action held.ident)
  | some listed =>
    if listed.predicate ≠ relevant.predicate then
      some (.slotMismatch action slot relevant.predicate held.predicate)
    else if bound.ident ≠ held.ident then
      some (.slotBinding action slot bound.ident held.ident)
    else
      none

/-- The faults of the slots from position `slot` on, the first one found. -/
def slotsFault (props : List GroundAtom) (action : String) :
    (slot : Nat) → List LiftedAtom → List GroundAtom → List GroundAtom → Option PlanningError
  | slot, relevant :: restRelevant, bound :: restBound, held :: restHeld =>
    (slotFault props action slot relevant bound held)
      <|> slotsFault props action (slot + 1) restRelevant restBound restHeld
  | _, _, _, _ => none

def actionFault (domain : Domain) (props : List GroundAtom) (before : List GroundAction)
    (action : GroundAction) : Option PlanningError :=
  if before.head?.map GroundAction.ident = some action.ident then
    some (.duplicateAction action.ident)
  else
    match domain.schemas.find? (·.name == action.schema) with
    | none => some (.unknownSchema action.schema)
    | some schema =>
      if action.slots.length ≠ schema.relevant.length then
        some (.slotCount action.ident schema.relevant.length action.slots.length)
      else
        match schema.bind action.args with
        | .error fault => some (.bind fault)
        | .ok bound => slotsFault props action.ident 0 schema.relevant bound.slots action.slots

/-- Propositions are judged first, then goals, then actions. -/
def fault? (domain : Domain) (actions : List GroundAction) (props goals : List GroundAtom) :
    Option PlanningError :=
  firstFault (propFault domain) [] props
    <|> goals.findSome? (goalFault props)
    <|> firstFault (actionFault domain props) [] actions

/-- What the other tables are read off: for each proposition its predicate and whether it
is a goal, for each action its schema and the propositions in its slots. -/
structure Index where
  propPred : Array PredId
  goal : Array Bool
  actSchema : Array SchemaId
  slotProps : Array (List PropId)

def Index.ofEntities (domain : Domain) (actions : List GroundAction)
    (props goals : List GroundAtom) : Index :=
  let idents := props.map GroundAtom.ident
  let goalIdents := goals.map GroundAtom.ident
  { propPred := (props.map fun prop => domain.predicatePosition prop.predicate).toArray
    goal := (idents.map fun ident => decide (ident ∈ goalIdents)).toArray
    actSchema := (actions.map fun action => domain.schemaPosition action.schema).toArray
    slotProps := (actions.map fun action =>
      action.slots.map fun held => idents.findIdx (· == held.ident)).toArray }

end Problem

structure Problem where
  name : Symbol
  domain : Domain
  actions : List GroundAction
  props : List GroundAtom
  goals : List GroundAtom
  index : Problem.Index
  actions_sorted : actions.Pairwise fun a b => a.ident ≤ b.ident
  props_sorted : props.Pairwise fun a b => a.ident ≤ b.ident
  goals_sorted : goals.Pairwise fun a b => a.ident < b.ident
  faultless : Problem.fault? domain actions props goals = none
  index_eq : index = Problem.Index.ofEntities domain actions props goals

namespace Problem

/-- Brings the entities into canonical order, drops repeated goals and looks for faults. -/
def build (name : Symbol) (domain : Domain) (actions : List GroundAction)
    (props goals : List GroundAtom) : Except PlanningError Problem :=
  let sortedActions := canonical GroundAction.ident actions
  let sortedProps := canonical GroundAtom.ident props
  let sortedGoals := distinctBy GroundAtom.ident (canonical GroundAtom.ident goals)
  match faultless : fault? domain sortedActions sortedProps sortedGoals with
  | some fault => .error fault
  | none => .ok
    { name, domain
      actions := sortedActions
      props := sortedProps
      goals := sortedGoals
      index := Index.ofEntities domain sortedActions sortedProps sortedGoals
      actions_sorted := canonical_pairwise _ _
      props_sorted := canonical_pairwise _ _
      goals_sorted := distinctBy_pairwise_lt (canonical_pairwise _ _)
      faultless
      index_eq := rfl }

def numActions (problem : Problem) : Nat := problem.actions.length

def numProps (problem : Problem) : Nat := problem.props.length

def actionIdent (problem : Problem) (id : ActId) : String :=
  ((problem.actions[id]?).map GroundAction.ident).getD ""

def actIndex (problem : Problem) (ident : String) : Except PlanningError ActId :=
  match problem.actions.findIdx? (·.ident == ident) with
  | some id => .ok id
  | none => .error (.unknownIdent ident)

def propIndex (problem : Problem) (ident : String) : Except PlanningError PropId :=
  match problem.props.findIdx? (·.ident == ident) with
  | some id => .ok id
  | none => .error (.unknownIdent ident)

def actByIdent (problem : Problem) (ident : String) : Except PlanningError GroundAction :=
  match problem.actions.find? (·.ident == ident) with
  | some action => .ok action
  | none => .error (.unknownIdent ident)

def propByIdent (problem : Problem) (ident : String) : Except PlanningError GroundAtom :=
  match problem.props.find? (·.ident == ident) with
  | some prop => .ok prop
  | none => .error (.unknownIdent ident)

def isGoal (problem : Problem) (id : PropId) : Bool := problem.index.goal.getD id false

def goalFlags (problem : Problem) : List Bool := problem.index.goal.toList

def actSchema (problem : Problem) (id : ActId) : SchemaId := problem.index.actSchema.getD id 0

def propPredicate (problem : Problem) (id : PropId) : PredId := problem.index.propPred.getD id 0

def slotProps (problem : Problem) (id : ActId) : List PropId := problem.index.slotProps.getD id []

def schemaActions (problem : Problem) (schema : SchemaId) : List ActId :=
  (List.range problem.numActions).filter fun id => problem.actSchema id == schema

def predicateProps (problem : Problem) (pred : PredId) : List PropId :=
  (List.range problem.numProps).filter fun id => problem.propPredicate id == pred

def actPosition (problem : Problem) (id : ActId) : Nat :=
  (problem.schemaActions (problem.actSchema id)).idxOf id

def propPosition (problem : Problem) (id : PropId) : Nat :=
  (problem.predicateProps (problem.propPredicate id)).idxOf id

/-- Whether an action holds the proposition in the slot of that position. -/
def holds (problem : Problem) (id : ActId) (slot : Nat) (prop : PropId) : Bool :=
  (problem.slotProps id)[slot]? == some prop

/-- Actions that hold the proposition in the given slot of their schema. -/
def actionsHolding (problem : Problem) (prop : PropId) (slot : Slot) : List ActId :=
  (problem.schemaActions slot.schema).filter fun id => problem.holds id slot.slot prop

/-- For each slot that the proposition's predicate fills, the actions that hold it there. -/
def adjacency (problem : Problem) (prop : PropId) : List (Slot × List ActId) :=
  (problem.domain.actionSlots (problem.propPredicate prop)).map fun slot =>
    (slot, problem.actionsHolding prop slot)

/-- For each instance of the schema, where the proposition of that slot stands among those
of its predicate. -/
def gatherIndices (problem : Problem) (schema : SchemaId) (slot : Nat) : List Nat :=
  (problem.schemaActions schema).map fun id =>
    problem.propPosition (((problem.slotProps id)[slot]?).getD 0)

/-- For each proposition of the predicate, where the actions that hold it in one of the
predicate's slots stand among the instances of their schema. A predicate without such a
slot has empty lists. -/
def poolIndices (problem : Problem) (pred : PredId) (relSlot : Nat) : List (List Nat) :=
  match (problem.domain.actionSlots pred)[relSlot]? with
  | some slot =>
    let placed := (problem.schemaActions slot.schema).zipIdx
    (problem.predicateProps pred).map fun prop =>
      (placed.filter fun (id, _) => problem.holds id slot.slot prop).map (·.2)
  | none => (problem.predicateProps pred).map fun _ => []

def schemaOffset (problem : Problem) (schema : SchemaId) : Nat :=
  (List.range problem.numActions).countP fun id => problem.actSchema id < schema

/-- For each action in canonical order, its place in the instances of all schemas listed
schema by schema. -/
def mergeIndices (problem : Problem) : Except PlanningError (List Nat) :=
  (List.range problem.numActions).mapM fun id =>
    let place := problem.schemaOffset (problem.actSchema id) + problem.actPosition id
    if place < problem.numActions
        ∧ problem.schemaOffset problem.domain.numSchemas = problem.numActions then
      .ok place
    else
      .error (.mergeIndexOutOfRange (problem.actionIdent id) place problem.numActions)

def display (problem : Problem) : String :=
  String.intercalate "\n  "
    [s!"Problem {problem.name} (domain {problem.domain.name})",
      "actions: " ++ String.intercalate " " (problem.actions.map GroundAction.display),
      "props: " ++ String.intercalate " " (problem.props.map GroundAtom.display),
      "goals: " ++ String.intercalate " " (problem.goals.map GroundAtom.display)]

/-- Warnings on what the problem lacks, then its size. -/
def notices (problem : Problem) : List Event :=
  let domain := problem.domain
  let goals :=
    if problem.goals.isEmpty then
      [.warn s!"problem {problem.name} has no goal proposition"]
    else if problem.goals.length = problem.props.length then
      [.warn s!"every proposition of problem {problem.name} is a goal"]
    else
      []
  let schemas := ((List.range domain.numSchemas).filter
    fun id => (problem.schemaActions id).isEmpty).map fun id =>
      .warn s!"schema {domain.schemaName id} has no ground instance in problem {problem.name}"
  let predicates := ((List.range domain.numPredicates).filter
    fun id => (problem.predicateProps id).isEmpty).map fun id =>
      .warn s!"predicate {domain.predicateName id} has no ground proposition in problem {problem.name}"
  goals ++ schemas ++ predicates ++
    [.debug (s!"problem {problem.name}: {problem.numActions} actions, "
      ++ s!"{problem.numProps} propositions, {problem.goals.length} goals")]

end Problem

end SchemaNet
