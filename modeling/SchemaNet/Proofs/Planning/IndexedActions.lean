import SchemaNet.Proofs.Planning.Indexing

/-!
The actions of the pass. Before each action the tables hold the actions seen so far; a slot
of the action that has no fault enters the action at one place of two tables, and the other
places stay as they are. When all slots are read the tables hold the action as well.
-/

namespace SchemaNet.Indexing

variable {domain : Domain}

def schemaOf (domain : Domain) (action : GroundAction) : SchemaId :=
  domain.schemaPosition action.schema

/-- Where the propositions in an action's slots are listed. -/
def slotIds (props : List GroundAtom) (action : GroundAction) : List PropId :=
  action.slots.map fun held => props.findIdx (·.ident == held.ident)

def holdsIn (domain : Domain) (prop : GroundAtom) (slot : Slot) (action : GroundAction) : Bool :=
  schemaOf domain action == slot.schema && (action.slots[slot.slot]?).any (·.ident == prop.ident)

/-- The position, among those of its predicate, of the proposition in a slot of an action. -/
def heldSub (domain : Domain) (props : List GroundAtom) (k : Nat) (action : GroundAction) : Nat :=
  (ranks (predOf domain) props).getD ((slotIds props action).getD k 0) 0

def holderTable (domain : Domain) (props : List GroundAtom)
    (cell : GroundAtom → Slot → List ActId) : List (List (List ActId)) :=
  props.map fun prop => (domain.actionSlots (predOf domain prop)).map (cell prop)

/-- The actions that hold a proposition in a slot. -/
def heldAt (domain : Domain) (actions : List GroundAction) (prop : GroundAtom) (slot : Slot) :
    List ActId :=
  places (holdsIn domain prop slot) actions

/-- The positions of the propositions in a slot, for the actions of its schema. -/
def gathered (domain : Domain) (props : List GroundAtom) (actions : List GroundAction)
    (s : SchemaId) (k : Nat) : List Nat :=
  (actions.filter (schemaOf domain · == s)).map (heldSub domain props k)

def ActTables.of (domain : Domain) (props : List GroundAtom) (actions : List GroundAction) :
    ActTables where
  ids := numbering GroundAction.ident actions
  schema := actions.map (schemaOf domain)
  sub := ranks (schemaOf domain) actions
  slotProps := actions.map (slotIds props)
  ofSchema := (List.range domain.numSchemas).map fun s => places (schemaOf domain · == s) actions
  holders := holderTable domain props (heldAt domain actions)
  gather := slotTable domain (gathered domain props actions)

theorem ActTables.of_ids {props : List GroundAtom} {actions : List GroundAction} :
    (ActTables.of domain props actions).ids = numbering GroundAction.ident actions := rfl

/-! ### The slots of one action -/

/-- The actions before this one that hold a proposition in a slot, and this one if the slot is
among its first `k`. -/
def holdersTo (domain : Domain) (before : List GroundAction) (action : GroundAction) (k : Nat)
    (prop : GroundAtom) (slot : Slot) : List ActId :=
  heldAt domain before prop slot ++
    if slot.slot < k ∧ holdsIn domain prop slot action then [before.length] else []

def gatheredTo (domain : Domain) (props : List GroundAtom) (before : List GroundAction)
    (action : GroundAction) (k : Nat) (s : SchemaId) (c : Nat) : List Nat :=
  gathered domain props before s c ++
    if c < k ∧ schemaOf domain action = s then [heldSub domain props c action] else []

/-- The tables when the first `k` slots of an action have been read. -/
def readingAt (domain : Domain) (props : List GroundAtom) (before : List GroundAction)
    (action : GroundAction) (k : Nat) : Reading where
  slots := (slotIds props action).take k
  holders := holderTable domain props (holdersTo domain before action k)
  gather := slotTable domain (gatheredTo domain props before action k)

theorem slotTable_congr {β : Type} {cell cell' : SchemaId → Nat → β}
    (same : ∀ s k pred, (domain.relevantPredicates s)[k]? = some pred → cell s k = cell' s k) :
    slotTable domain cell = slotTable domain cell' :=
  List.map_congr_left fun s _ => List.map_congr_left fun k hk =>
    same s k _ (List.getElem?_eq_getElem (List.mem_range.1 hk))

theorem push_slotTable {cell : SchemaId → Nat → List Nat} {s k : Nat} {pred : PredId}
    (h : (domain.relevantPredicates s)[k]? = some pred) (x : Nat) :
    Table.revise (slotTable domain cell) s (fun row => Table.push row k x) =
      .ok (slotTable domain
        (Function.update cell s (Function.update (cell s) k (cell s k ++ [x])))) :=
  revise_slotTable h _ rfl

theorem push_holderTable {props : List GroundAtom} (distinct : (props.map GroundAtom.ident).Nodup)
    {cell : GroundAtom → Slot → List ActId} {i j : Nat} {prop : GroundAtom} {slot : Slot}
    (h : props[i]? = some prop) (h' : (domain.actionSlots (predOf domain prop))[j]? = some slot)
    (id : ActId) :
    Table.revise (holderTable domain props cell) i (fun row => Table.push row j id) =
      .ok (holderTable domain props
        (Function.update cell prop (Function.update (cell prop) slot (cell prop slot ++ [id])))) :=
  Table.revise_cells distinct.of_map (fun prop => domain.actionSlots (predOf domain prop)) h
    (domain.actionSlots_nodup _) h' _ rfl

section SlotStep

variable {props : List GroundAtom} {before : List GroundAction} {action : GroundAction}
  {schema : Schema} {k : Nat} {relevant : LiftedAtom} {held prop : GroundAtom}

theorem read_slotTable {β : Type} {cell : SchemaId → Nat → β} {s : SchemaId} {k : Nat}
    {pred : PredId} (h : (domain.relevantPredicates s)[k]? = some pred) :
    (Table.read (slotTable domain cell) s >>= fun row => Table.read row k) = .ok (cell s k) := by
  obtain ⟨hs, hk⟩ := schema_of_relevantPredicates h
  rw [slotTable, Table.read_map (List.getElem?_range hs), ok_bind,
    Table.read_map (List.getElem?_range hk)]

theorem asked_slot (hs : domain.schemas[schemaOf domain action]? = some schema)
    (hk : schema.relevant[k]? = some relevant) :
    (domain.relevantPredicates (schemaOf domain action))[k]? =
      some (domain.predicatePosition relevant.predicate) := by
  rw [Domain.relevantPredicates_of_getElem? hs, List.getElem?_map, hk, Option.map_some]

theorem slotIds_getElem? (distinct : (props.map GroundAtom.ident).Nodup)
    (hheld : action.slots[k]? = some held) {i : Nat} (hi : props[i]? = some prop)
    (same : prop.ident = held.ident) : (slotIds props action)[k]? = some i := by
  rw [slotIds, List.getElem?_map, hheld, Option.map_some, ← same, findIdx_key distinct hi]

/-- Reading slot `k` lets in no other proposition and no other slot. -/
theorem holdsIn_iff (domain : Domain) (distinct : (props.map GroundAtom.ident).Nodup)
    (hheld : action.slots[k]? = some held) (hprop : prop ∈ props) (same : prop.ident = held.ident)
    {other : GroundAtom} (hother : other ∈ props) {slot : Slot} (own : slot.slot = k) :
    holdsIn domain other slot action ↔ other = prop ∧ slot = ⟨schemaOf domain action, k⟩ := by
  obtain ⟨s, c⟩ := slot
  obtain rfl : c = k := own
  simp only [holdsIn, hheld, Option.any_some, Bool.and_eq_true, beq_iff_eq, Slot.mk.injEq, and_true]
  constructor
  · rintro ⟨rfl, equal⟩
    exact ⟨List.inj_on_of_nodup_map distinct hother hprop (equal.symm.trans same.symm), rfl⟩
  · rintro ⟨rfl, rfl⟩
    exact ⟨rfl, same.symm⟩

theorem holdersTo_succ (distinct : (props.map GroundAtom.ident).Nodup)
    (hheld : action.slots[k]? = some held) (hprop : prop ∈ props) (same : prop.ident = held.ident)
    {other : GroundAtom} (hother : other ∈ props) (slot : Slot) :
    Function.update (holdersTo domain before action k) prop
        (Function.update (holdersTo domain before action k prop) ⟨schemaOf domain action, k⟩
          (holdersTo domain before action k prop ⟨schemaOf domain action, k⟩ ++ [before.length]))
        other slot =
      holdersTo domain before action (k + 1) other slot := by
  by_cases entered : other = prop ∧ slot = ⟨schemaOf domain action, k⟩
  · obtain ⟨rfl, rfl⟩ := entered
    have member := (holdsIn_iff domain distinct hheld hprop same hother rfl).2 ⟨rfl, rfl⟩
    simp [holdersTo, member]
  · rw [update_cell_of_ne entered, holdersTo, holdersTo]
    by_cases own : slot.slot = k
    · have outside := mt (holdsIn_iff domain distinct hheld hprop same hother own).1 entered
      simp [outside]
    · have bounds : slot.slot < k + 1 ↔ slot.slot < k := by omega
      simp only [bounds]

theorem gatheredTo_succ :
    Function.update (gatheredTo domain props before action k) (schemaOf domain action)
        (Function.update (gatheredTo domain props before action k (schemaOf domain action)) k
          (gatheredTo domain props before action k (schemaOf domain action) k ++
            [heldSub domain props k action])) =
      gatheredTo domain props before action (k + 1) := by
  funext s c
  by_cases own : s = schemaOf domain action
  · subst own
    by_cases slot : c = k
    · subst slot
      simp [gatheredTo]
    · have bounds : c < k + 1 ↔ c < k := by omega
      simp [gatheredTo, slot, bounds]
  · have other : schemaOf domain action ≠ s := fun same => own same.symm
    simp [gatheredTo, own, other]

/-- A listed proposition of the predicate that the slot asks for finds its entries. -/
theorem enterSlot_eq (distinct : (props.map GroundAtom.ident).Nodup)
    (hs : domain.schemas[schemaOf domain action]? = some schema)
    (hk : schema.relevant[k]? = some relevant) (hheld : action.slots[k]? = some held) {i : Nat}
    (hi : props[i]? = some prop) (same : prop.ident = held.ident)
    (asked : prop.predicate = relevant.predicate) :
    enterSlot (ranks (predOf domain) props) (slotTable domain fun s k => slotPlace domain ⟨s, k⟩)
        before.length (schemaOf domain action) (readingAt domain props before action k) k i =
      .ok (readingAt domain props before action (k + 1)) := by
  have slot : (domain.relevantPredicates (schemaOf domain action))[k]? =
      some (predOf domain prop) := by rw [predOf, asked, asked_slot hs hk]
  have id := slotIds_getElem? distinct hheld hi same
  have place : (domain.actionSlots (predOf domain prop))[slotPlace domain
      ⟨schemaOf domain action, k⟩]? = some ⟨schemaOf domain action, k⟩ := by
    rw [slotPlace_eq slot]
    exact List.getElem?_idxOf (Domain.mem_actionSlots_iff.2 slot)
  have sub : Table.read (ranks (predOf domain) props) i = .ok (heldSub domain props k action) := by
    have inside : i < (ranks (predOf domain) props).length := by
      rw [ranks_length]
      exact (List.getElem?_eq_some_iff.1 hi).1
    simp [Table.read, heldSub, id, inside]
  rw [enterSlot, ← bind_assoc, read_slotTable slot, ok_bind, readingAt,
    push_holderTable distinct hi place, ok_bind, sub, ok_bind, push_slotTable slot, ok_bind]
  refine congrArg Except.ok (congr (congr (congrArg Reading.mk ?_) ?_) ?_)
  · rw [List.take_add_one, id]
    rfl
  · exact List.map_congr_left fun other hother => List.map_congr_left fun cell _ =>
      holdersTo_succ distinct hheld (List.mem_of_getElem? hi) same hother cell
  · rw [gatheredTo_succ]

theorem slotStep_eq (distinct : (props.map GroundAtom.ident).Nodup)
    (known : ∀ prop ∈ props, prop.predicate ∈ domain.predicates)
    (hs : domain.schemas[schemaOf domain action]? = some schema)
    (hk : schema.relevant[k]? = some relevant) (hheld : action.slots[k]? = some held)
    {due : List GroundAtom} {bound : GroundAtom} (hbound : due[k]? = some bound) :
    slotStep domain (.of domain props) (slotTable domain fun s k => slotPlace domain ⟨s, k⟩)
        before.length action.ident (schemaOf domain action)
        (domain.relevantPredicates (schemaOf domain action)) due
        (readingAt domain props before action k) (held, k) =
      Halt.settle (Problem.slotFault props action.ident k relevant bound held)
        (readingAt domain props before action (k + 1)) := by
  -- the cases are the checks of a slot in their order: listed, predicate, binding
  simp only [slotStep, Problem.slotFault, PropTables.of_ids]
  have asked := Domain.relevant_listed (List.mem_of_getElem? hs) (List.mem_of_getElem? hk)
  cases hi : numbering GroundAtom.ident props held.ident with
  | none =>
    rw [find?_key_eq_none.2 (numbering_eq_none.1 hi)]
    rfl
  | some i =>
    obtain ⟨prop, hprop, same⟩ := (numbering_eq_some distinct).1 hi
    have listed := List.mem_of_getElem? hprop
    have predicates := (Domain.predicatePosition_inj (known prop listed) asked).not
    have read : Table.read (PropTables.of domain props).pred i =
      .ok (domain.predicatePosition prop.predicate) := Table.read_map hprop
    simp only [(find?_key_eq_some distinct).2 ⟨listed, same⟩, read, ok_bind,
      Table.read_eq (asked_slot hs hk), ne_eq, predicates, Table.read_eq hbound,
      Domain.predicateName_position asked]
    by_cases mismatch : ¬prop.predicate = relevant.predicate
    · rw [if_pos mismatch, if_pos mismatch]
      rfl
    · rw [if_neg mismatch, if_neg mismatch]
      by_cases unbound : ¬bound.ident = held.ident
      · rw [if_pos unbound, if_pos unbound]
        rfl
      · rw [if_neg unbound, if_neg unbound]
        exact enterSlot_eq distinct hs hk hheld hprop same (not_not.1 mismatch)

/-- The loop over the slots of an action whose schema has as many. -/
theorem slots_eq (before : List GroundAction) (distinct : (props.map GroundAtom.ident).Nodup)
    (known : ∀ prop ∈ props, prop.predicate ∈ domain.predicates)
    (hs : domain.schemas[schemaOf domain action]? = some schema)
    (counted : action.slots.length = schema.relevant.length) {due : List GroundAtom}
    (bounds : due.length = schema.relevant.length) :
    action.slots.zipIdx.foldlM
        (slotStep domain (.of domain props) (slotTable domain fun s k => slotPlace domain ⟨s, k⟩)
          before.length action.ident (schemaOf domain action)
          (domain.relevantPredicates (schemaOf domain action)) due)
        (readingAt domain props before action 0) =
      Halt.settle (Problem.slotsFault props action.ident 0 schema.relevant due action.slots)
        (readingAt domain props before action action.slots.length) := by
  have loop := foldlM_settle
    (slotStep domain (.of domain props)
      (slotTable domain fun s k => slotPlace domain ⟨s, k⟩) before.length action.ident
      (schemaOf domain action) (domain.relevantPredicates (schemaOf domain action)) due)
    action.slots.zipIdx (readingAt domain props before action)
    (fun k => Problem.slotsFault props action.ident k (schema.relevant.drop k)
      (due.drop k) (action.slots.drop k))
    (by simp [Problem.slotsFault])
    (by
      rintro k ⟨held, c⟩ h
      obtain ⟨hheld, rfl : c = k⟩ := getElem?_zipIdx_eq_some h
      obtain ⟨inside, rfl⟩ := List.getElem?_eq_some_iff.1 hheld
      have asked : c < schema.relevant.length := by omega
      have bound : c < due.length := by omega
      refine ⟨_, ?_, slotStep_eq distinct known hs (List.getElem?_eq_getElem asked) hheld
        (List.getElem?_eq_getElem bound)⟩
      rw [List.drop_eq_getElem_cons inside, List.drop_eq_getElem_cons asked,
        List.drop_eq_getElem_cons bound]
      rfl)
  rw [List.length_zipIdx] at loop
  exact loop

end SlotStep

/-! ### The loop over the actions -/

section ActStep

variable {props : List GroundAtom} {before : List GroundAction} {action : GroundAction}

theorem refuse_schemaId (domain : Domain) (name : Symbol) :
    refuse (domain.schemaId name) =
      match domain.schemas.find? (·.name == name) with
      | some _ => .ok (domain.schemaPosition name)
      | none => .error (.refused (.unknownSchema name)) := by
  unfold Domain.schemaId
  cases found : domain.schemas.find? (·.name == name) with
  | none =>
    rw [if_neg]
    · rfl
    · rw [Domain.schemaPosition, Domain.numSchemas, List.findIdx_lt_length]
      simpa using found
  | some schema =>
    obtain ⟨mem, rfl⟩ := Domain.find?_name.1 found
    rw [if_pos (Domain.schemaPosition_lt mem)]
    rfl

theorem refuse_bind (result : Except BindError GroundAction) :
    refuse (result.mapError .bind) =
      match result with
      | .ok bound => .ok bound
      | .error fault => .error (.refused (.bind fault)) := by
  cases result <;> rfl

theorem readingAt_zero : readingAt domain props before action 0 =
    ⟨[], (ActTables.of domain props before).holders,
      (ActTables.of domain props before).gather⟩ := by
  have holders : holdersTo domain before action 0 = heldAt domain before := by
    funext prop slot
    simp [holdersTo]
  have gather : gatheredTo domain props before action 0 = gathered domain props before := by
    funext s k
    simp [gatheredTo]
  rw [readingAt, holders, gather]
  rfl

theorem holdersTo_all (prop : GroundAtom) (slot : Slot) :
    holdersTo domain before action action.slots.length prop slot =
      heldAt domain (before ++ [action]) prop slot := by
  have inside : holdsIn domain prop slot action → slot.slot < action.slots.length := by
    intro holds
    obtain ⟨held, hheld, -⟩ := (Option.any_eq_true _ _).1 (Bool.and_eq_true_iff.1 holds).2
    exact (List.getElem?_eq_some_iff.1 hheld).1
  rw [heldAt, places_append, holdersTo, heldAt]
  by_cases holds : holdsIn domain prop slot action
  · simp [holds, inside holds]
  · simp [holds]

theorem gatheredTo_all {s : SchemaId} {k : Nat} {pred : PredId}
    (h : (domain.relevantPredicates s)[k]? = some pred)
    (counted : action.slots.length = (domain.relevantPredicates (schemaOf domain action)).length) :
    gatheredTo domain props before action action.slots.length s k =
      gathered domain props (before ++ [action]) s k := by
  rw [gathered, List.filter_append, List.map_append, gatheredTo, gathered]
  by_cases own : schemaOf domain action = s
  · have inside : k < action.slots.length := by
      rw [counted, own]
      exact (List.getElem?_eq_some_iff.1 h).1
    simp [own, inside]
  · simp [own]

/-- When all slots of an action have been read, the tables are those with the action in them. -/
theorem readingAt_all
    (counted : action.slots.length = (domain.relevantPredicates (schemaOf domain action)).length) :
    readingAt domain props before action action.slots.length =
      ⟨slotIds props action, (ActTables.of domain props (before ++ [action])).holders,
        (ActTables.of domain props (before ++ [action])).gather⟩ := by
  have slots : (slotIds props action).take action.slots.length = slotIds props action :=
    List.take_of_length_le (Nat.le_of_eq (List.length_map _))
  rw [readingAt, slots]
  refine congr (congrArg (Reading.mk _) ?_) (slotTable_congr fun s k pred h => ?_)
  · refine List.map_congr_left fun prop _ => List.map_congr_left fun slot _ => ?_
    exact holdersTo_all prop slot
  · exact gatheredTo_all h counted

theorem enterAction_eq (inside : schemaOf domain action < domain.numSchemas)
    (fresh : action.ident ∉ before.map GroundAction.ident)
    (counted : action.slots.length =
      (domain.relevantPredicates (schemaOf domain action)).length) :
    enterAction (.of domain props before) action.ident before.length (schemaOf domain action)
        (readingAt domain props before action action.slots.length) =
      .ok (.of domain props (before ++ [action])) := by
  rw [enterAction, readingAt_all counted, ActTables.of, read_places inside, ok_bind,
    push_places inside, ok_bind, places_length, update_numbering fresh, ActTables.of,
    List.map_append, List.map_append, ranks_append]
  rfl

theorem actStep_eq (distinct : (props.map GroundAtom.ident).Nodup)
    (known : ∀ prop ∈ props, prop.predicate ∈ domain.predicates)
    (sorted : (before ++ [action]).Pairwise fun a b => a.ident ≤ b.ident)
    (few : before.length < idLimit) :
    actStep domain (.of domain props) (slotTable domain fun s k => slotPlace domain ⟨s, k⟩)
        (.of domain props before) (action, before.length) =
      Halt.settle (Problem.actionFault domain props before.reverse action)
        (.of domain props (before ++ [action])) := by
  -- in a sorted list the check against the last action finds every repetition
  simp only [actStep, Problem.actionFault, repeats_last sorted, ActTables.of_ids, numbering_isSome,
    refuse_schemaId, idOf_eq few]
  by_cases repeated : action.ident ∈ before.map GroundAction.ident
  · simp only [if_pos repeated]
    rfl
  · simp only [if_neg repeated]
    cases found : domain.schemas.find? (·.name == action.schema) with
    | none => rfl
    | some schema =>
      obtain ⟨mem, name⟩ := Domain.find?_name.1 found
      have hs : domain.schemas[schemaOf domain action]? = some schema := by
        rw [schemaOf, ← name, Domain.getElem?_schemaPosition mem]
      have inside : schemaOf domain action < domain.numSchemas :=
        (List.getElem?_eq_some_iff.1 hs).1
      have size : (domain.relevantPredicates (schemaOf domain action)).length =
          schema.relevant.length := by
        rw [Domain.relevantPredicates_of_getElem? hs, List.length_map]
      dsimp only
      rw [ok_bind, ← schemaOf, size]
      by_cases counted : action.slots.length = schema.relevant.length
      · rw [if_neg (not_not.2 counted), if_neg (not_not.2 counted), Table.read_eq hs, ok_bind,
          refuse_bind]
        cases hbound : schema.bind action.args with
        | error fault => rfl
        | ok bound =>
          have slots := slots_eq before distinct known hs counted
            (Schema.bind_slots_length hbound)
          rw [readingAt_zero] at slots
          dsimp only
          rw [ok_bind, slots]
          cases Problem.slotsFault props action.ident 0 schema.relevant bound.slots
            action.slots with
          | some fault => rfl
          | none =>
            rw [Halt.settle_none, ok_bind, Halt.settle_none]
            exact enterAction_eq inside repeated (counted.trans size.symm)
      · rw [if_pos counted, if_pos counted]
        rfl

theorem acts_eq {actions : List GroundAction} (distinct : (props.map GroundAtom.ident).Nodup)
    (known : ∀ prop ∈ props, prop.predicate ∈ domain.predicates)
    (sorted : actions.Pairwise fun a b => a.ident ≤ b.ident) (few : actions.length ≤ idLimit) :
    actions.zipIdx.foldlM
        (actStep domain (.of domain props) (slotTable domain fun s k => slotPlace domain ⟨s, k⟩))
        (.of domain props []) =
      Halt.settle (firstFault (Problem.actionFault domain props) [] actions)
        (.of domain props actions) := by
  refine foldlM_firstFault (ActTables.of domain props) fun before action seen => ?_
  have bound := seen.length_le
  rw [List.length_append, List.length_singleton] at bound
  exact actStep_eq distinct known (sorted.sublist seen.sublist) (Nat.lt_of_lt_of_le bound few)

end ActStep

theorem ActTables.of_nil (domain : Domain) (props : List GroundAtom) :
    ActTables.of domain props [] =
      { ids := fun _ => none, schema := [], sub := [], slotProps := []
        ofSchema := List.replicate domain.numSchemas []
        holders := (PropTables.of domain props).pred.map fun pred =>
          (knownSlots domain pred).map fun _ => []
        gather := domain.schemas.map fun schema => List.replicate schema.relevant.length [] } := by
  have cells : heldAt domain [] = fun _ _ => [] := rfl
  have gathers : gathered domain props [] = fun _ _ => [] := rfl
  rw [← slotTable_const, ActTables.of, cells, gathers]
  simp [PropTables.of, numbering, ranks, places, holderTable, knownSlots_eq, funext_iff]

/-- What the pass leaves when the lists have no fault. -/
def Tables.of (domain : Domain) (actions : List GroundAction) (props goals : List GroundAtom) :
    Tables where
  props := .of domain props
  goal := goalFlags props goals
  acts := .of domain props actions

theorem run_eq {actions : List GroundAction} {props : List GroundAtom} (goals : List GroundAtom)
    (actionsSorted : actions.Pairwise fun a b => a.ident ≤ b.ident)
    (propsSorted : props.Pairwise fun a b => a.ident ≤ b.ident)
    (fewActions : actions.length ≤ idLimit) (fewProps : props.length ≤ idLimit) :
    run domain actions props goals =
      Halt.settle (Problem.fault? domain actions props goals) (.of domain actions props goals) := by
  rw [run, props_eq propsSorted fewProps, Problem.fault?]
  refine Halt.settle_bind fun clean => ?_
  have accepted :=
    (Problem.firstFault_nil_sorted (fun _ _ => Problem.propFault_eq_none) propsSorted).1 clean
  rw [PropTables.of_ids, goals_eq accepted.1]
  refine Halt.settle_bind fun _ => ?_
  rw [slotPositions_eq, ok_bind, ← ActTables.of_nil, acts_eq accepted.1
    (fun prop hprop => (accepted.2 prop hprop).known) actionsSorted fewActions]
  cases firstFault (Problem.actionFault domain props) [] actions <;> rfl

end SchemaNet.Indexing
