import SchemaNet.Proofs.Planning.Acceptance
import SchemaNet.Proofs.Planning.Tables

/-!
The tables of a problem, filled in one pass over its propositions, goals and actions. The
pass looks entities up by identifier and changes tables in place, at positions that it does
not check again. It stops with the fault of the lists if they have one. Otherwise it reaches
its end, and the tables hold what the whole lists say.
-/

namespace SchemaNet

/-! ## The pass -/

namespace Indexing

/-- How many entities the ids can number. -/
def idLimit : Nat := Nat.pow 2 32

def idOf (position : Nat) : Nat := position % idLimit

def refuse {β : Type} : Except PlanningError β → Except Halt β := Except.mapError .refused

structure PropTables where
  ids : String → Option PropId
  pred : List PredId
  /-- For each proposition its position among those of its predicate. -/
  sub : List Nat
  ofPred : List (List PropId)

structure ActTables where
  ids : String → Option ActId
  schema : List SchemaId
  /-- For each action its position among those of its schema. -/
  sub : List Nat
  slotProps : List (List PropId)
  ofSchema : List (List ActId)
  /-- By proposition and by relevant slot of its predicate. -/
  holders : List (List (List ActId))
  /-- By schema and by slot. -/
  gather : List (List (List Nat))

structure Tables where
  props : PropTables
  goal : List Bool
  acts : ActTables

def propStep (domain : Domain) (tables : PropTables) (entry : GroundAtom × Nat) :
    Except Halt PropTables :=
  let (prop, position) := entry
  match prop.args.find? Symbol.isFree with
  | some arg => .error (.refused (.freeVariableInGround prop.ident arg))
  | none =>
    if (tables.ids prop.ident).isSome then
      .error (.refused (.duplicateProposition prop.ident))
    else do
      let pred ← refuse (domain.predicateId prop.predicate)
      let listed ← Table.read tables.ofPred pred
      let ofPred ← Table.push tables.ofPred pred (idOf position)
      return { ids := Function.update tables.ids prop.ident (some (idOf position))
               pred := tables.pred ++ [pred]
               sub := tables.sub ++ [listed.length]
               ofPred }

def goalStep (ids : String → Option PropId) (flags : List Bool) (goal : GroundAtom) :
    Except Halt (List Bool) :=
  match ids goal.ident with
  | none => .error (.refused (.unknownGoal goal.ident))
  | some id => Table.write flags id true

/-- What stands for the position of a slot before it is known. -/
def unplaced : Nat := Nat.pow 2 64 - 1

def placeSlot (positions : List (List Nat)) (entry : Slot × Nat) : Except Halt (List (List Nat)) :=
  let (slot, position) := entry
  Table.revise positions slot.schema fun row => Table.write row slot.slot position

/-- The slots that a predicate fills, none if the domain refuses to name them. -/
def knownSlots (domain : Domain) (pred : PredId) : List Slot :=
  (domain.relevantSlots pred).toOption.getD []

/-- For each slot of each schema, its position among the slots that its predicate fills. -/
def slotPositions (domain : Domain) : Except Halt (List (List Nat)) :=
  (List.range domain.numPredicates).foldlM
    (fun positions pred => (knownSlots domain pred).zipIdx.foldlM placeSlot positions)
    (domain.schemas.map fun schema => List.replicate schema.relevant.length unplaced)

/-- The tables that change while the slots of one action are read. -/
structure Reading where
  slots : List PropId
  holders : List (List (List ActId))
  gather : List (List (List Nat))

/-- Puts an action that holds a proposition in a slot into the tables. -/
def enterSlot (subs : List Nat) (positions : List (List Nat)) (id : ActId) (schema : SchemaId)
    (reading : Reading) (slot : Nat) (prop : PropId) : Except Halt Reading := do
  let position ← Table.read (← Table.read positions schema) slot
  let holders ← Table.revise reading.holders prop fun row => Table.push row position id
  let sub ← Table.read subs prop
  let gather ← Table.revise reading.gather schema fun row => Table.push row slot sub
  return ⟨reading.slots ++ [prop], holders, gather⟩

/-- Reads one slot of an action. The schema asks for the predicates `asked`, and binds its
relevant propositions to `due`. -/
def slotStep (domain : Domain) (props : PropTables) (positions : List (List Nat)) (id : ActId)
    (action : String) (schema : SchemaId) (asked : List PredId) (due : List GroundAtom)
    (reading : Reading) (entry : GroundAtom × Nat) : Except Halt Reading :=
  let (held, slot) := entry
  match props.ids held.ident with
  | none => .error (.refused (.unknownProposition action held.ident))
  | some prop => do
    let pred ← Table.read props.pred prop
    let expected ← Table.read asked slot
    if pred ≠ expected then
      .error (.refused (.slotMismatch action slot (domain.predicateName expected) held.predicate))
    else
      let bound ← Table.read due slot
      if bound.ident ≠ held.ident then
        .error (.refused (.slotBinding action slot bound.ident held.ident))
      else
        enterSlot props.sub positions id schema reading slot prop

/-- Puts an action whose slots have been read into the tables. -/
def enterAction (tables : ActTables) (action : String) (id : ActId) (schema : SchemaId)
    (reading : Reading) : Except Halt ActTables := do
  let listed ← Table.read tables.ofSchema schema
  let ofSchema ← Table.push tables.ofSchema schema id
  return { ids := Function.update tables.ids action (some id)
           schema := tables.schema ++ [schema]
           sub := tables.sub ++ [listed.length]
           slotProps := tables.slotProps ++ [reading.slots]
           ofSchema
           holders := reading.holders
           gather := reading.gather }

def actStep (domain : Domain) (props : PropTables) (positions : List (List Nat))
    (tables : ActTables) (entry : GroundAction × Nat) : Except Halt ActTables :=
  let (action, position) := entry
  if (tables.ids action.ident).isSome then
    .error (.refused (.duplicateAction action.ident))
  else do
    let id ← refuse (domain.schemaId action.schema)
    let asked := domain.relevantPredicates id
    if action.slots.length ≠ asked.length then
      .error (.refused (.slotCount action.ident asked.length action.slots.length))
    else
      let schema ← Table.read domain.schemas id
      let bound ← refuse ((schema.bind action.args).mapError .bind)
      let reading ← action.slots.zipIdx.foldlM
        (slotStep domain props positions (idOf position) action.ident id asked bound.slots)
        ⟨[], tables.holders, tables.gather⟩
      enterAction tables action.ident (idOf position) id reading

def run (domain : Domain) (actions : List GroundAction) (props goals : List GroundAtom) :
    Except Halt Tables := do
  let propTables ← props.zipIdx.foldlM (propStep domain)
    { ids := fun _ => none, pred := [], sub := []
      ofPred := List.replicate domain.numPredicates [] }
  let goal ← goals.foldlM (goalStep propTables.ids) (List.replicate props.length false)
  let positions ← slotPositions domain
  let acts ← actions.zipIdx.foldlM (actStep domain propTables positions)
    { ids := fun _ => none, schema := [], sub := [], slotProps := []
      ofSchema := List.replicate domain.numSchemas []
      holders := propTables.pred.map fun pred => (knownSlots domain pred).map fun _ => []
      gather := domain.schemas.map fun schema => List.replicate schema.relevant.length [] }
  return ⟨propTables, goal, acts⟩

variable {domain : Domain}

/-! ## Propositions and goals -/

def predOf (domain : Domain) (prop : GroundAtom) : PredId :=
  domain.predicatePosition prop.predicate

def PropTables.of (domain : Domain) (props : List GroundAtom) : PropTables where
  ids := numbering GroundAtom.ident props
  pred := props.map (predOf domain)
  sub := ranks (predOf domain) props
  ofPred := (List.range domain.numPredicates).map fun pred => places (predOf domain · == pred) props

theorem PropTables.of_ids {props : List GroundAtom} :
    (PropTables.of domain props).ids = numbering GroundAtom.ident props := rfl

theorem idOf_eq {position : Nat} (few : position < idLimit) : idOf position = position :=
  Nat.mod_eq_of_lt few

/-- A table with one list for each number is extended at one of them. -/
theorem push_places {β : Type} {n : Nat} {key : β → Nat} {xs : List β} {x : β} (h : key x < n) :
    Table.push ((List.range n).map fun k => places (key · == k) xs) (key x) xs.length =
      .ok ((List.range n).map fun k => places (key · == k) (xs ++ [x])) := by
  rw [Table.push, Table.revise_map List.nodup_range (List.getElem?_range h)
    (places (key · == key x) xs ++ [xs.length]) rfl]
  refine congrArg Except.ok (List.map_congr_left fun k _ => ?_)
  rw [places_append]
  by_cases own : k = key x
  · subst own
    simp
  · have other : ¬key x = k := fun same => own same.symm
    simp [Function.update_of_ne own, other]

theorem read_places {β : Type} {n : Nat} {key : β → Nat} {xs : List β} {k : Nat} (h : k < n) :
    Table.read ((List.range n).map fun k => places (key · == k) xs) k =
      .ok (places (key · == k) xs) :=
  Table.read_map (List.getElem?_range h)

theorem refuse_predicateId (domain : Domain) (predicate : Symbol) :
    refuse (domain.predicateId predicate) =
      if predicate ∈ domain.predicates then .ok (domain.predicatePosition predicate)
      else .error (.refused (.unknownPredicate predicate)) := by
  unfold Domain.predicateId Domain.numPredicates
  split
  · next inside =>
    have listed : predicate ∈ domain.predicates := by
      obtain ⟨p, hp, same⟩ := List.findIdx_lt_length.1 inside
      exact beq_iff_eq.1 same ▸ hp
    rw [if_pos listed]
    rfl
  · next outside =>
    rw [if_neg fun listed => outside (Domain.predicatePosition_lt listed)]
    rfl

theorem propStep_eq {before : List GroundAtom} {prop : GroundAtom}
    (sorted : (before ++ [prop]).Pairwise fun a b => a.ident ≤ b.ident)
    (few : before.length < idLimit) :
    propStep domain (.of domain before) (prop, before.length) =
      Halt.settle (Problem.propFault domain before.reverse prop)
        (.of domain (before ++ [prop])) := by
  simp only [propStep, Problem.propFault, repeats_last sorted, PropTables.of_ids, numbering_isSome]
  cases prop.args.find? Symbol.isFree with
  | some arg => rfl
  | none =>
    by_cases known : prop.ident ∈ before.map GroundAtom.ident
    · simp only [if_pos known]
      rfl
    · by_cases listed : prop.predicate ∈ domain.predicates
      · have inside : predOf domain prop < domain.numPredicates :=
          Domain.predicatePosition_lt listed
        simp only [if_neg known, refuse_predicateId, if_pos listed, ok_bind, idOf_eq few]
        rw [← predOf, PropTables.of, read_places inside, ok_bind, push_places inside, ok_bind,
          places_length, update_numbering known, Halt.settle_none, PropTables.of, List.map_append,
          ranks_append]
        rfl
      · simp only [if_neg known, refuse_predicateId, if_neg listed]
        rfl

theorem props_eq {props : List GroundAtom}
    (sorted : props.Pairwise fun a b => a.ident ≤ b.ident) (few : props.length ≤ idLimit) :
    props.zipIdx.foldlM (propStep domain)
      { ids := fun _ => none, pred := [], sub := []
        ofPred := List.replicate domain.numPredicates [] } =
      Halt.settle (firstFault (Problem.propFault domain) [] props) (.of domain props) := by
  have start : PropTables.of domain [] =
      { ids := fun _ => none, pred := [], sub := []
        ofPred := List.replicate domain.numPredicates [] } := by
    simp [PropTables.of, numbering, ranks, places, funext_iff]
  rw [← start]
  refine foldlM_firstFault (PropTables.of domain) fun before prop seen => ?_
  have bound := seen.length_le
  rw [List.length_append, List.length_singleton] at bound
  exact propStep_eq (sorted.sublist seen.sublist) (Nat.lt_of_lt_of_le bound few)

def goalFlags (props goals : List GroundAtom) : List Bool :=
  props.map fun prop => decide (prop.ident ∈ goals.map GroundAtom.ident)

theorem goalStep_eq {props before : List GroundAtom} (distinct : (props.map GroundAtom.ident).Nodup)
    (goal : GroundAtom) :
    goalStep (numbering GroundAtom.ident props) (goalFlags props before) goal =
      Halt.settle (Problem.goalFault props goal) (goalFlags props (before ++ [goal])) := by
  unfold goalStep Problem.goalFault
  split
  · next unlisted =>
    rw [if_neg (numbering_eq_none.1 unlisted)]
    rfl
  · next id found =>
    obtain ⟨prop, hprop, same⟩ := (numbering_eq_some distinct).1 found
    have listed := List.mem_of_getElem? hprop
    rw [if_pos (same ▸ List.mem_map_of_mem listed), goalFlags, Table.write,
      Table.revise_map distinct.of_map hprop true rfl, Halt.settle_none]
    refine congrArg Except.ok (List.map_congr_left fun other hother => ?_)
    by_cases own : other = prop
    · simp [own, same]
    · have apart : other.ident ≠ goal.ident := fun equal => own
        (List.inj_on_of_nodup_map distinct hother listed (equal.trans same.symm))
      simp [Function.update_of_ne own, apart]

theorem goals_eq {props goals : List GroundAtom} (distinct : (props.map GroundAtom.ident).Nodup) :
    goals.foldlM (goalStep (numbering GroundAtom.ident props)) (List.replicate props.length false) =
      Halt.settle (goals.findSome? (Problem.goalFault props)) (goalFlags props goals) := by
  have start : goalFlags props [] = List.replicate props.length false := by
    simp [goalFlags]
  have loop := foldlM_settle (goalStep (numbering GroundAtom.ident props)) goals
    (fun i => goalFlags props (goals.take i))
    (fun i => (goals.drop i).findSome? (Problem.goalFault props)) (by simp)
    (by
      intro i goal h
      obtain ⟨inside, rfl⟩ := List.getElem?_eq_some_iff.1 h
      have seen : goals.take (i + 1) = goals.take i ++ [goals[i]] := by
        rw [List.take_add_one, h]
        rfl
      refine ⟨Problem.goalFault props goals[i], ?_, seen ▸ goalStep_eq distinct _⟩
      rw [List.drop_eq_getElem_cons inside, List.findSome?_cons]
      cases Problem.goalFault props goals[i] <;> rfl)
  simpa [← start] using loop

/-! ## Positions of slots -/

theorem schema_of_relevantPredicates {s k : Nat} {pred : PredId}
    (h : (domain.relevantPredicates s)[k]? = some pred) :
    s < domain.numSchemas ∧ k < (domain.relevantPredicates s).length := by
  have inside := (List.getElem?_eq_some_iff.1 h).1
  refine ⟨?_, inside⟩
  cases found : domain.schemas[s]? with
  | none => simp [Domain.relevantPredicates, found] at h
  | some schema => exact (List.getElem?_eq_some_iff.1 found).1

/-- A table with a cell for every slot of every schema. -/
def slotTable {β : Type} (domain : Domain) (cell : SchemaId → Nat → β) : List (List β) :=
  (List.range domain.numSchemas).map fun s =>
    (List.range (domain.relevantPredicates s).length).map (cell s)

theorem slotTable_const {β : Type} (value : β) :
    slotTable domain (fun _ _ => value) =
      domain.schemas.map fun schema => List.replicate schema.relevant.length value := by
  refine List.ext_getElem (by simp [slotTable, Domain.numSchemas]) fun s h h' => ?_
  have inside : s < domain.schemas.length := by simpa using h'
  simp [slotTable, Domain.relevantPredicates, inside]

theorem revise_slotTable {β : Type} {cell : SchemaId → Nat → β} {s k : Nat} {pred : PredId}
    (h : (domain.relevantPredicates s)[k]? = some pred) {change : β → Except Halt β} (entry : β)
    (changed : change (cell s k) = .ok entry) :
    Table.revise (slotTable domain cell) s (fun row => Table.revise row k change) =
      .ok (slotTable domain (Function.update cell s (Function.update (cell s) k entry))) := by
  obtain ⟨hs, hk⟩ := schema_of_relevantPredicates h
  exact Table.revise_cells List.nodup_range
    (fun s => List.range (domain.relevantPredicates s).length)
    (List.getElem?_range hs) List.nodup_range (List.getElem?_range hk) entry changed

/-- The position of a slot among the slots that its predicate fills. -/
def slotPlace (domain : Domain) (slot : Slot) : Nat :=
  (domain.actionSlots ((domain.relevantPredicates slot.schema).getD slot.slot 0)).idxOf slot

theorem slotPlace_eq {slot : Slot} {pred : PredId}
    (h : (domain.relevantPredicates slot.schema)[slot.slot]? = some pred) :
    slotPlace domain slot = (domain.actionSlots pred).idxOf slot := by
  rw [slotPlace, List.getD_eq_getElem?_getD, h, Option.getD_some]

def placedTable (domain : Domain) (placed : List Slot) : List (List Nat) :=
  slotTable domain fun s k => if ⟨s, k⟩ ∈ placed then slotPlace domain ⟨s, k⟩ else unplaced

theorem placeSlot_eq {placed : List Slot} {pred : PredId} {j : Nat} {slot : Slot}
    (h : (domain.actionSlots pred)[j]? = some slot) :
    placeSlot (placedTable domain placed) (slot, j) =
      .ok (placedTable domain (placed ++ [slot])) := by
  have own := Domain.mem_actionSlots_iff.1 (List.mem_of_getElem? h)
  have position : slotPlace domain slot = j := by
    obtain ⟨inside, rfl⟩ := List.getElem?_eq_some_iff.1 h
    rw [slotPlace_eq own, (domain.actionSlots_nodup pred).idxOf_getElem j inside]
  refine (revise_slotTable own j rfl).trans (congrArg Except.ok ?_)
  refine congrArg (slotTable domain) (funext fun s => funext fun k => ?_)
  obtain ⟨s', k'⟩ := slot
  by_cases hs : s = s'
  · by_cases hk : k = k'
    · simp [hs, hk, position]
    · simp [hs, hk]
  · simp [hs]

theorem placeSlots_eq (placed : List Slot) (pred : PredId) :
    (domain.actionSlots pred).zipIdx.foldlM placeSlot (placedTable domain placed) =
      .ok (placedTable domain (placed ++ domain.actionSlots pred)) := by
  have loop := foldlM_ok placeSlot (domain.actionSlots pred).zipIdx
    (fun j => placedTable domain (placed ++ (domain.actionSlots pred).take j))
    (by
      rintro j ⟨slot, k⟩ h
      obtain ⟨hslot, rfl : k = j⟩ := getElem?_zipIdx_eq_some h
      rw [List.take_add_one, hslot, ← List.append_assoc]
      exact placeSlot_eq hslot)
  simpa using loop

theorem knownSlots_eq (domain : Domain) (pred : PredId) :
    knownSlots domain pred = domain.actionSlots pred := by
  unfold knownSlots Domain.relevantSlots
  split
  · next none =>
    rw [none]
    rfl
  · next slots =>
    rw [slots]
    rfl

theorem slotPositions_eq (domain : Domain) :
    slotPositions domain = .ok (slotTable domain fun s k => slotPlace domain ⟨s, k⟩) := by
  have loop := foldlM_ok
    (fun positions pred => (knownSlots domain pred).zipIdx.foldlM placeSlot positions)
    (List.range domain.numPredicates)
    (fun i => placedTable domain ((List.range i).flatMap domain.actionSlots))
    (by
      intro i pred h
      obtain ⟨inside, rfl⟩ := List.getElem?_eq_some_iff.1 h
      rw [List.getElem_range, List.range_succ, List.flatMap_append, List.flatMap_singleton,
        knownSlots_eq]
      exact placeSlots_eq _ i)
  have start : placedTable domain [] =
      domain.schemas.map fun schema => List.replicate schema.relevant.length unplaced := by
    rw [← slotTable_const]
    simp [placedTable]
  rw [List.length_range, List.range_zero, List.flatMap_nil, start] at loop
  rw [slotPositions, loop]
  refine congrArg Except.ok (List.map_congr_left fun s hs => List.map_congr_left fun k hk => ?_)
  have asked := List.getElem?_eq_getElem (List.mem_range.1 hk)
  refine if_pos (List.mem_flatMap.2 ⟨_, ?_, Domain.mem_actionSlots_iff.2 asked⟩)
  exact List.mem_range.2 (Domain.relevantPredicates_lt (List.getElem_mem _))

end Indexing

end SchemaNet
