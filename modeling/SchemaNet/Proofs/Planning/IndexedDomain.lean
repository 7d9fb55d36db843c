import SchemaNet.Proofs.Network.WalkDomain
import SchemaNet.Proofs.Planning.IndexedProblem

/-!
The tables of a domain, filled in one pass over its predicates and schemas. The pass looks names
up and puts each slot into the list of its predicate, at a position that it does not check again.
It stops with the fault of the lists if they have one. Otherwise the tables hold one relation from
both sides: the predicate in each slot, and the slots of each predicate.
-/

namespace SchemaNet.Domain

open Indexing (idLimit idOf idOf_eq)

/-! ## The pass -/

structure Tables where
  schemaIds : Symbol → Option SchemaId
  predicateIds : Symbol → Option PredId
  /-- For each schema the predicates in its slots. -/
  asked : List (List PredId)
  /-- For each predicate the slots that it fills. -/
  filled : List (List Slot)

/-- The tables that change while the schemas are read. -/
structure SchemaTables where
  ids : Symbol → Option SchemaId
  asked : List (List PredId)
  filled : List (List Slot)

/-- The tables that change while the slots of one schema are read. -/
structure SlotTables where
  asked : List PredId
  filled : List (List Slot)

def enterPredicate (ids : Symbol → Option PredId) (entry : Symbol × Nat) :
    Except Halt (Symbol → Option PredId) :=
  let (predicate, position) := entry
  if (ids predicate).isSome then
    .error (.refused (.duplicatePredicate predicate))
  else
    .ok (Function.update ids predicate (some (idOf position)))

def enterSlot (ids : Symbol → Option PredId) (schema : SchemaId) (tables : SlotTables)
    (entry : LiftedAtom × Nat) : Except Halt SlotTables :=
  let (atom, slot) := entry
  match ids atom.predicate with
  | none => .error (.refused (.unknownPredicate atom.predicate))
  | some pred => do
    let filled ← Table.push tables.filled pred ⟨schema, slot⟩
    return ⟨tables.asked ++ [pred], filled⟩

def enterSchema (ids : Symbol → Option PredId) (tables : SchemaTables) (entry : Schema × Nat) :
    Except Halt SchemaTables :=
  let (schema, position) := entry
  if (tables.ids schema.name).isSome then
    .error (.refused (.duplicateSchema schema.name))
  else do
    let slots ← schema.relevant.zipIdx.foldlM (enterSlot ids (idOf position)) ⟨[], tables.filled⟩
    return { ids := Function.update tables.ids schema.name (some (idOf position))
             asked := tables.asked ++ [slots.asked]
             filled := slots.filled }

def indexLists (schemas : List Schema) (predicates : List Symbol) : Except Halt Tables := do
  let predicateIds ← predicates.zipIdx.foldlM enterPredicate fun _ => none
  let tables ← schemas.zipIdx.foldlM (enterSchema predicateIds)
    { ids := fun _ => none, asked := [], filled := List.replicate predicates.length [] }
  return ⟨tables.ids, predicateIds, tables.asked, tables.filled⟩

/-! ## What the pass leaves -/

variable {predicates : List Symbol}

/-- The slots that a predicate fills in a list of schemas. -/
def slotsAmong (schemas : List Schema) (predicate : Symbol) : List Slot :=
  schemas.zipIdx.flatMap fun (schema, id) => slotsOf predicate id schema

def askedBy (predicates : List Symbol) (atoms : List LiftedAtom) : List PredId :=
  atoms.map fun atom => predicates.findIdx (· == atom.predicate)

/-- The slots that a predicate fills in the schemas before and in the part of the next one that
has been read. -/
def slotsSeen (before : List Schema) (schema : Schema) (atoms : List LiftedAtom)
    (predicate : Symbol) : List Slot :=
  slotsAmong before predicate ++ slotsOf predicate before.length { schema with relevant := atoms }

def SlotTables.of (predicates : List Symbol) (before : List Schema) (schema : Schema)
    (atoms : List LiftedAtom) : SlotTables where
  asked := askedBy predicates atoms
  filled := predicates.map (slotsSeen before schema atoms)

def SchemaTables.of (predicates : List Symbol) (schemas : List Schema) : SchemaTables where
  ids := numbering Schema.name schemas
  asked := schemas.map fun schema => askedBy predicates schema.relevant
  filled := predicates.map (slotsAmong schemas)

theorem slotsOf_append (predicate : Symbol) (id : SchemaId) (schema : Schema)
    (atoms : List LiftedAtom) (atom : LiftedAtom) :
    slotsOf predicate id { schema with relevant := atoms ++ [atom] } =
      slotsOf predicate id { schema with relevant := atoms } ++
        if atom.predicate = predicate then [⟨id, atoms.length⟩] else [] := by
  rw [slotsOf, List.zipIdx_append, List.filter_append, List.map_append]
  by_cases own : atom.predicate = predicate <;> simp [slotsOf, own]

theorem slotsSeen_append (before : List Schema) (schema : Schema) (atoms : List LiftedAtom)
    (atom : LiftedAtom) (predicate : Symbol) :
    slotsSeen before schema (atoms ++ [atom]) predicate =
      slotsSeen before schema atoms predicate ++
        if atom.predicate = predicate then [⟨before.length, atoms.length⟩] else [] := by
  rw [slotsSeen, slotsSeen, slotsOf_append, List.append_assoc]

theorem slotsAmong_append (schemas : List Schema) (schema : Schema) (predicate : Symbol) :
    slotsAmong (schemas ++ [schema]) predicate =
      slotsAmong schemas predicate ++ slotsOf predicate schemas.length schema := by
  simp [slotsAmong, List.zipIdx_append]

theorem enterPredicate_eq {before : List Symbol} (predicate : Symbol)
    (few : before.length < idLimit) :
    enterPredicate (numbering id before) (predicate, before.length) =
      Halt.settle (predicateFault before.reverse predicate)
        (numbering id (before ++ [predicate])) := by
  have known : (numbering id before predicate).isSome ↔ predicate ∈ before.reverse := by
    rw [numbering_isSome, List.map_id, List.mem_reverse]
  simp only [enterPredicate, predicateFault, known]
  by_cases repeated : predicate ∈ before.reverse
  · simp only [if_pos repeated]
    rfl
  · have fresh : id predicate ∉ before.map id := by simpa using repeated
    simp only [if_neg repeated, idOf_eq few, ← update_numbering fresh]
    rfl

theorem enterSlot_eq (distinct : predicates.Nodup) (before : List Schema) (schema : Schema)
    (atoms : List LiftedAtom) (atom : LiftedAtom) :
    enterSlot (numbering id predicates) before.length (.of predicates before schema atoms)
        (atom, atoms.length) =
      Halt.settle (if atom.predicate ∈ predicates then none
          else some (.unknownPredicate atom.predicate))
        (.of predicates before schema (atoms ++ [atom])) := by
  have keys : (predicates.map id).Nodup := by rwa [List.map_id]
  unfold enterSlot
  dsimp only
  split
  · next unknown =>
    rw [numbering_eq_none, List.map_id] at unknown
    rw [if_neg unknown]
    rfl
  · next pred known =>
    obtain ⟨predicate, place, own : predicate = atom.predicate⟩ := (numbering_eq_some keys).1 known
    have position : predicates.findIdx (· == atom.predicate) = pred :=
      own ▸ findIdx_key keys place
    have pushed : Table.push (predicates.map (slotsSeen before schema atoms)) pred
        ⟨before.length, atoms.length⟩ =
          .ok (predicates.map (Function.update (slotsSeen before schema atoms) predicate
            (slotsSeen before schema atoms predicate ++ [⟨before.length, atoms.length⟩]))) :=
      Table.revise_map distinct place _ rfl
    rw [if_pos (own ▸ List.mem_of_getElem? place), SlotTables.of, pushed, ok_bind,
      Halt.settle_none, pure_eq_ok, SlotTables.of, askedBy, askedBy, List.map_append,
      List.map_singleton, position]
    congr 2
    -- Only the row of the slot's own predicate has changed.
    refine List.map_congr_left fun other _ => ?_
    rw [slotsSeen_append]
    by_cases same : other = predicate
    · subst same
      simp [own]
    · have apart : atom.predicate ≠ other := fun equal => same (own.trans equal).symm
      simp [Function.update_of_ne same, apart]

theorem enterSchema_eq (distinct : predicates.Nodup) {before : List Schema} (schema : Schema)
    (few : before.length < idLimit) :
    enterSchema (numbering id predicates) (.of predicates before) (schema, before.length) =
      Halt.settle (schemaFault predicates before.reverse schema)
        (.of predicates (before ++ [schema])) := by
  have slots : schema.relevant.zipIdx.foldlM (enterSlot (numbering id predicates) before.length)
      (.of predicates before schema []) =
        Halt.settle (firstFault (fun _ atom => if atom.predicate ∈ predicates then none
          else some (.unknownPredicate atom.predicate)) [] schema.relevant)
            (.of predicates before schema schema.relevant) :=
    foldlM_firstFault (SlotTables.of predicates before schema)
      fun atoms atom _ => enterSlot_eq distinct before schema atoms atom
  have start : SlotTables.of predicates before schema [] =
      ⟨[], (SchemaTables.of predicates before).filled⟩ := by
    simp [SlotTables.of, SchemaTables.of, askedBy, slotsSeen, slotsOf]
  rw [firstFault_const, start] at slots
  have known : ((SchemaTables.of predicates before).ids schema.name).isSome ↔
      schema.name ∈ before.reverse.map Schema.name := by
    rw [SchemaTables.of, numbering_isSome]
    simp
  simp only [enterSchema, schemaFault, known]
  by_cases repeated : schema.name ∈ before.reverse.map Schema.name
  · simp only [if_pos repeated]
    rfl
  · have fresh : schema.name ∉ before.map Schema.name := by simpa using repeated
    simp only [if_neg repeated, idOf_eq few]
    rw [slots]
    cases schema.relevant.findSome? _ with
    | some fault => rfl
    | none =>
      have rows : slotsAmong (before ++ [schema]) = fun predicate =>
          slotsAmong before predicate ++ slotsOf predicate before.length schema :=
        funext (slotsAmong_append before schema)
      rw [Halt.settle_none, ok_bind, Halt.settle_none, pure_eq_ok, SchemaTables.of, SchemaTables.of,
        update_numbering fresh, List.map_append, rows]
      rfl

theorem indexLists_settle {schemas : List Schema} (fewSchemas : schemas.length ≤ idLimit)
    (fewPredicates : predicates.length ≤ idLimit) :
    indexLists schemas predicates = Halt.settle (fault? schemas predicates)
      ⟨numbering Schema.name schemas, numbering id predicates,
        schemas.map fun schema => askedBy predicates schema.relevant,
        predicates.map (slotsAmong schemas)⟩ := by
  have names : predicates.zipIdx.foldlM enterPredicate (numbering id []) =
      Halt.settle (firstFault predicateFault [] predicates) (numbering id predicates) :=
    foldlM_firstFault (numbering id) fun before predicate seen => by
      have bound := seen.length_le
      rw [List.length_append, List.length_singleton] at bound
      exact enterPredicate_eq predicate (Nat.lt_of_lt_of_le bound fewPredicates)
  have start : SchemaTables.of predicates [] =
      { ids := fun _ => none, asked := [], filled := List.replicate predicates.length [] } := by
    have rows : slotsAmong [] = fun _ => [] := rfl
    simp [SchemaTables.of, rows, numbering, funext_iff]
  rw [indexLists, fault?]
  refine (congrArg (· >>= _) names).trans (Halt.settle_bind fun clean => ?_)
  have distinct := (firstFault_predicateFault.1 clean).1
  have slots : schemas.zipIdx.foldlM (enterSchema (numbering id predicates))
      (.of predicates []) =
        Halt.settle (firstFault (schemaFault predicates) [] schemas) (.of predicates schemas) :=
    foldlM_firstFault (SchemaTables.of predicates) fun before schema seen => by
      have bound := seen.length_le
      rw [List.length_append, List.length_singleton] at bound
      exact enterSchema_eq distinct schema (Nat.lt_of_lt_of_le bound fewSchemas)
  rw [← start, slots]
  cases firstFault (schemaFault predicates) [] schemas <;> rfl

/-! ## Names and positions -/

/-- A position if there is one, and a fault otherwise. -/
def orFault (fault : PlanningError) : Option Nat → Except PlanningError Nat
  | some position => .ok position
  | none => .error fault

theorem orFault_toOption (fault : PlanningError) (position : Option Nat) :
    (orFault fault position).toOption = position := by
  cases position <;> rfl

section Lookup

variable {β : Type} {ident : β → String} {xs : List β} {name : String} {fault : PlanningError}

theorem orFault_numbering_eq_ok (distinct : (xs.map ident).Nodup) {i : Nat} :
    orFault fault (numbering ident xs name) = .ok i ↔ (xs.map ident)[i]? = some name := by
  rw [List.getElem?_map, Option.map_eq_some_iff, ← numbering_eq_some distinct]
  cases numbering ident xs name <;> simp [orFault]

theorem orFault_numbering_eq_error {found : PlanningError} :
    orFault fault (numbering ident xs name) = .error found ↔
      name ∉ xs.map ident ∧ found = fault := by
  rw [← numbering_eq_none]
  cases numbering ident xs name <;> simp [orFault, eq_comm]

end Lookup

variable {domain : Domain}

theorem schemaId_eq (domain : Domain) (name : Symbol) :
    domain.schemaId name =
      orFault (.unknownSchema name) (numbering Schema.name domain.schemas name) := by
  rw [numbering_eq_ite, schemaId, schemaPosition, numSchemas]
  split <;> rfl

theorem predicateId_eq (domain : Domain) (name : Symbol) :
    domain.predicateId name =
      orFault (.unknownPredicate name) (numbering id domain.predicates name) := by
  have own : ∀ names : List Symbol, numbering id names name =
      if names.findIdx (· == name) < names.length then some (names.findIdx (· == name))
      else none := fun _ => numbering_eq_ite
  rw [own, predicateId, predicatePosition, numPredicates]
  split <;> rfl

/-! ## The tables of a domain -/

/-- The tables of a domain, read through its functions. -/
def tables (domain : Domain) : Tables where
  schemaIds name := (domain.schemaId name).toOption
  predicateIds name := (domain.predicateId name).toOption
  asked := (List.range domain.numSchemas).map domain.relevantPredicates
  filled := (List.range domain.numPredicates).map domain.actionSlots

theorem tables_eq (domain : Domain) :
    domain.tables = ⟨numbering Schema.name domain.schemas, numbering id domain.predicates,
      domain.schemas.map fun schema => askedBy domain.predicates schema.relevant,
      domain.predicates.map (slotsAmong domain.schemas)⟩ := by
  have asked : (List.range domain.numSchemas).map domain.relevantPredicates =
      domain.schemas.map fun schema => askedBy domain.predicates schema.relevant :=
    map_range_eq_map fun _ _ h => relevantPredicates_of_getElem? h
  have filled : (List.range domain.numPredicates).map domain.actionSlots =
      domain.predicates.map (slotsAmong domain.schemas) :=
    map_range_eq_map fun _ _ h => actionSlots_of_getElem? h
  simp only [tables, asked, filled, schemaId_eq, predicateId_eq, orFault_toOption]

theorem build_eq_error {name : Symbol} {schemas : List Schema} {fault : PlanningError} :
    build name schemas predicates = .error fault ↔ fault? schemas predicates = some fault := by
  unfold build
  split
  · next found => simp [found]
  · next clean => simp [clean]

theorem fields_of_build {name : Symbol} {schemas : List Schema}
    (h : build name schemas predicates = .ok domain) :
    domain.name = name ∧ domain.schemas = schemas ∧ domain.predicates = predicates := by
  unfold build at h
  split at h
  · cases h
  · obtain rfl := Except.ok.inj h
    exact ⟨rfl, rfl, rfl⟩

/-- The pass ends as the construction of the domain does, and with its tables. -/
theorem indexLists_eq (name : Symbol) {schemas : List Schema}
    (fewSchemas : schemas.length ≤ idLimit) (fewPredicates : predicates.length ≤ idLimit) :
    indexLists schemas predicates =
      match build name schemas predicates with
      | .ok domain => .ok domain.tables
      | .error fault => .error (.refused fault) := by
  rw [indexLists_settle fewSchemas fewPredicates]
  cases built : build name schemas predicates with
  | error fault =>
    rw [build_eq_error.1 built]
    rfl
  | ok domain =>
    obtain ⟨-, rfl, rfl⟩ := fields_of_build built
    rw [domain.faultless, Halt.settle_none, ← tables_eq]

/-! ## The relation between slots and predicates -/

/-- The slots of all schemas. -/
def slots (domain : Domain) : List Slot :=
  domain.schemas.zipIdx.flatMap fun (schema, id) =>
    (List.range schema.relevant.length).map (Slot.mk id)

theorem mem_slots {slot : Slot} :
    slot ∈ domain.slots ↔ ∃ pred, slot ∈ domain.actionSlots pred := by
  obtain ⟨s, k⟩ := slot
  simp only [slots, List.mem_flatMap, Prod.exists, List.mk_mem_zipIdx_iff_getElem?, List.mem_map,
    List.mem_range, Slot.mk.injEq, mem_actionSlots_iff]
  constructor
  · rintro ⟨schema, _, hs, _, inside, rfl, rfl⟩
    rw [relevantPredicates_of_getElem? hs]
    exact ⟨_, List.getElem?_eq_getElem (by simpa using inside)⟩
  · rintro ⟨pred, h⟩
    cases hs : domain.schemas[s]? with
    | none => simp [relevantPredicates, hs] at h
    | some schema =>
      have inside := (List.getElem?_eq_some_iff.1 h).1
      rw [relevantPredicates_of_getElem? hs, List.length_map] at inside
      exact ⟨schema, s, hs, k, inside, rfl, rfl⟩

theorem slots_pairwise (domain : Domain) : domain.slots.Pairwise Slot.Before := by
  refine List.pairwise_flatMap.2 ⟨fun entry _ => ?_, ?_⟩
  · rw [List.pairwise_map]
    exact List.pairwise_lt_range.imp fun before => .inr ⟨rfl, before⟩
  · refine (zipIdx_pairwise domain.schemas 0).imp fun before a ha b hb => ?_
    obtain ⟨-, -, rfl⟩ := List.mem_map.1 ha
    obtain ⟨-, -, rfl⟩ := List.mem_map.1 hb
    exact .inl before

/-- Every slot of every schema is in the list of one predicate, and it is there once. -/
theorem flatMap_actionSlots_perm (domain : Domain) :
    ((List.range domain.numPredicates).flatMap domain.actionSlots).Perm domain.slots := by
  have distinct : ((List.range domain.numPredicates).flatMap domain.actionSlots).Nodup := by
    refine List.nodup_flatMap.2 ⟨fun pred _ => domain.actionSlots_nodup pred, ?_⟩
    refine List.pairwise_lt_range.imp fun before slot mem mem' => ?_
    rw [mem_actionSlots_iff] at mem mem'
    exact absurd (Option.some.inj (mem.symm.trans mem')) (Nat.ne_of_lt before)
  refine (List.perm_ext_iff_of_nodup distinct (Slot.nodup_of_before domain.slots_pairwise)).2
    fun slot => ?_
  rw [List.mem_flatMap, mem_slots]
  refine exists_congr fun pred => ⟨And.right, fun mem => ⟨?_, mem⟩⟩
  exact List.mem_range.2 (relevantPredicates_lt (List.mem_of_getElem? (mem_actionSlots_iff.1 mem)))

theorem length_flatMap_total {β γ : Type} (part : β → List γ) (xs : List β) :
    (xs.flatMap part).length = Size.total (xs.map fun x => (part x).length) :=
  List.length_flatMap

theorem total_actionSlots_length (domain : Domain) :
    Size.total ((List.range domain.numPredicates).map fun id => (domain.actionSlots id).length) =
      Size.total (domain.schemas.map fun schema => schema.relevant.length) := by
  have rows : domain.schemas.zipIdx.map (fun entry => entry.1.relevant.length) =
      domain.schemas.map fun schema => schema.relevant.length := by
    conv_rhs => rw [← List.zipIdx_map_fst 0 domain.schemas, List.map_map]
    rfl
  rw [← length_flatMap_total, domain.flatMap_actionSlots_perm.length_eq, slots,
    length_flatMap_total, ← rows]
  simp only [List.length_map, List.length_range]

/-! ## Which domains are built, and what is indexed -/

/-- What a domain asks of its lists. -/
structure WellFormed (schemas : List Schema) (predicates : List Symbol) : Prop where
  predicates_distinct : predicates.Nodup
  names_distinct : (schemas.map Schema.name).Nodup
  relevant_listed : ∀ schema ∈ schemas, ∀ atom ∈ schema.relevant, atom.predicate ∈ predicates

/-- What the tables of a domain say of its lists. -/
structure Indexed (domain : Domain) : Prop where
  asked : ∀ (s : SchemaId) (schema : Schema), domain.schemas[s]? = some schema →
    List.Forall₂ (fun atom pred => domain.predicates[pred]? = some atom.predicate)
      schema.relevant (domain.relevantPredicates s)
  increasing : ∀ pred, (domain.actionSlots pred).Pairwise Slot.Before
  inverse : ∀ (pred : PredId) (slot : Slot), slot ∈ domain.actionSlots pred ↔
    (domain.relevantPredicates slot.schema)[slot.slot]? = some pred
  partition : ((List.range domain.numPredicates).flatMap domain.actionSlots).Perm domain.slots
  total : Size.total
      ((List.range domain.numPredicates).map fun pred => (domain.actionSlots pred).length) =
    Size.total (domain.schemas.map fun schema => schema.relevant.length)
  schemaId : ∀ name id, domain.schemaId name = .ok id ↔
    (domain.schemas.map Schema.name)[id]? = some name
  unknownSchema : ∀ name fault, domain.schemaId name = .error fault ↔
    name ∉ domain.schemas.map Schema.name ∧ fault = .unknownSchema name
  predicateId : ∀ name id, domain.predicateId name = .ok id ↔ domain.predicates[id]? = some name
  unknownPredicate : ∀ name fault, domain.predicateId name = .error fault ↔
    name ∉ domain.predicates ∧ fault = .unknownPredicate name
  slots : ∀ (pred : PredId) (predicate : Symbol), domain.predicates[pred]? = some predicate →
    ∀ slots, domain.relevantSlots pred = .ok slots ↔
      domain.Fills predicate ∧ slots = domain.actionSlots pred
  bare : ∀ (pred : PredId) (predicate : Symbol), domain.predicates[pred]? = some predicate →
    ∀ fault, domain.relevantSlots pred = .error fault ↔
      ¬domain.Fills predicate ∧ fault = .noRelevantSlots predicate
  valid : domain.validate = .ok () ↔ ∀ predicate ∈ domain.predicates, domain.Fills predicate
  invalid : ∀ fault, domain.validate = .error fault ↔ ∃ (pred : PredId) (predicate : Symbol),
    domain.predicates[pred]? = some predicate ∧ ¬domain.Fills predicate ∧
      fault = .noRelevantSlots predicate ∧
        ∀ j < pred, ∀ other, domain.predicates[j]? = some other → domain.Fills other

theorem indexed (domain : Domain) : domain.Indexed where
  asked s schema place := by
    rw [relevantPredicates_of_getElem? place, List.forall₂_map_right_iff, List.forall₂_same]
    exact fun atom among =>
      getElem?_predicatePosition (relevant_listed (List.mem_of_getElem? place) among)
  increasing := domain.actionSlots_pairwise
  inverse _ _ := mem_actionSlots_iff
  partition := domain.flatMap_actionSlots_perm
  total := domain.total_actionSlots_length
  schemaId _ _ := by
    rw [schemaId_eq, orFault_numbering_eq_ok domain.names_nodup]
  unknownSchema _ _ := by
    rw [schemaId_eq, orFault_numbering_eq_error]
  predicateId _ _ := by
    have distinct : (domain.predicates.map id).Nodup := by
      rw [List.map_id]
      exact domain.predicates_nodup
    rw [predicateId_eq, orFault_numbering_eq_ok distinct, List.map_id]
  unknownPredicate _ _ := by
    rw [predicateId_eq, orFault_numbering_eq_error, List.map_id]
  slots pred predicate place slots := by
    rw [relevantSlots_eq_ok, ← actionSlots_ne_nil place]
    constructor
    · rintro ⟨rfl, filled⟩
      exact ⟨filled, rfl⟩
    · rintro ⟨filled, rfl⟩
      exact ⟨rfl, filled⟩
  bare _ _ place _ := relevantSlots_eq_error place
  valid := validate_eq_ok
  invalid _ := validate_eq_error

/-- Either the lists are well-formed and a domain is built from them, with the tables that the
pass leaves, or both end with the same fault. The tables of every domain that is built hold the
relation between slots and predicates from both sides. -/
theorem slots_indexed_both_ways (name : Symbol) {schemas : List Schema} {predicates : List Symbol}
    (fewSchemas : schemas.length ≤ idLimit) (fewPredicates : predicates.length ≤ idLimit) :
    (WellFormed schemas predicates ↔ ∃ domain, build name schemas predicates = .ok domain ∧
      indexLists schemas predicates = .ok domain.tables) ∧
    (¬WellFormed schemas predicates ↔ ∃ fault, build name schemas predicates = .error fault ∧
      indexLists schemas predicates = .error (.refused fault)) ∧
    ∀ domain, build name schemas predicates = .ok domain → domain.name = name ∧
      domain.schemas = schemas ∧ domain.predicates = predicates ∧ domain.Indexed := by
  have pass := indexLists_eq name fewSchemas fewPredicates
  have accepts : WellFormed schemas predicates ↔ fault? schemas predicates = none :=
    Iff.trans ⟨fun ⟨preds, names, listed⟩ => ⟨preds, names, listed⟩,
      fun ⟨preds, names, listed⟩ => ⟨preds, names, listed⟩⟩ fault?_eq_none.symm
  cases built : build name schemas predicates with
  | ok domain =>
    obtain ⟨rfl, rfl, rfl⟩ := fields_of_build built
    rw [built] at pass
    have well := accepts.2 domain.faultless
    simp [well, pass, domain.indexed]
  | error fault =>
    rw [built] at pass
    have ill : ¬WellFormed schemas predicates := fun well => by
      have clean := accepts.1 well
      rw [build_eq_error.1 built] at clean
      cases clean
    simp [ill, pass]

/-- A domain with a predicate that no schema looks at. It is built and indexed, but not valid. -/
theorem unused_road_indexed :
    WalkDomain.schemas.length ≤ idLimit ∧ ["at", "road"].length ≤ idLimit ∧
      ∃ domain, build "walks" WalkDomain.schemas ["at", "road"] = .ok domain ∧
        indexLists WalkDomain.schemas ["at", "road"] = .ok domain.tables ∧ domain.Indexed ∧
          domain.validate = .error (.noRelevantSlots "road") := by
  obtain ⟨accepts, -, fields⟩ := slots_indexed_both_ways "walks"
    (show WalkDomain.schemas.length ≤ idLimit by decide)
    (show ["at", "road"].length ≤ idLimit by decide)
  obtain ⟨domain, built, pass⟩ := accepts.1 ⟨by decide, by decide, by decide⟩
  obtain ⟨-, schemas, predicates, indexed⟩ := fields domain built
  refine ⟨by decide, by decide, domain, built, pass, indexed, (indexed.invalid _).2 ?_⟩
  refine ⟨1, "road", by rw [predicates]; rfl, ?_, rfl, fun j before other place => ?_⟩
  · rw [Fills, schemas]
    decide
  · obtain rfl := Nat.lt_one_iff.1 before
    rw [predicates] at place
    obtain rfl := Option.some.inj place
    rw [Fills, schemas]
    decide

end SchemaNet.Domain
