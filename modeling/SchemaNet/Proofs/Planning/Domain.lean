import Mathlib.Data.Option.Basic
import SchemaNet.Planning.Domain
import SchemaNet.Proofs.KeyedList
import SchemaNet.Proofs.Traversal

/-!
What a domain without a fault guarantees: names do not repeat, so positions and
names determine each other, and every slot of a schema belongs to the one listed
predicate that its relevant proposition is built on.
-/

namespace SchemaNet
open Memory (bind_eq_ok)

/-- The order of slots: by schema, and within a schema by position. -/
def Slot.Before (a b : Slot) : Prop := a.schema < b.schema ∨ a.schema = b.schema ∧ a.slot < b.slot

theorem Slot.nodup_of_before {slots : List Slot} (increasing : slots.Pairwise Before) :
    slots.Nodup :=
  increasing.imp fun before same => by
    subst same
    simp [Before] at before

theorem orElse_eq_none {α : Type} {first second : Option α} :
    (first <|> second) = none ↔ first = none ∧ second = none := by
  cases first <;> simp

theorem firstFault_cons {α ε : Type} {check : List α → α → Option ε} {before rest : List α}
    {x : α} :
    firstFault check before (x :: rest) = none ↔
      check before x = none ∧ firstFault check (x :: before) rest = none := by
  rw [firstFault, orElse_eq_none]

/-- A check that does not look at the elements before. -/
theorem firstFault_const {α ε : Type} (check : α → Option ε) (before xs : List α) :
    firstFault (fun _ => check) before xs = xs.findSome? check := by
  induction xs generalizing before with
  | nil => rfl
  | cons x rest ih =>
    rw [firstFault, ih, List.findSome?_cons]
    cases check x <;> rfl

/-- A check that fails has seen all elements before the one it fails at. -/
theorem exists_split_of_firstFault {α ε : Type} {check : List α → α → Option ε}
    {before xs : List α} {fault : ε} (h : firstFault check before xs = some fault) :
    ∃ front x back, xs = front ++ x :: back ∧ check (front.reverse ++ before) x = some fault := by
  induction xs generalizing before with
  | nil => cases h
  | cons x rest ih =>
    rw [firstFault, Option.orElse_eq_some] at h
    rcases h with failed | ⟨-, later⟩
    · exact ⟨[], x, rest, rfl, failed⟩
    · obtain ⟨front, y, back, rfl, failed⟩ := ih later
      exact ⟨x :: front, y, back, rfl, by simpa using failed⟩

theorem exists_of_firstFault {α ε : Type} {check : List α → α → Option ε} {before xs : List α}
    {fault : ε} (h : firstFault check before xs = some fault) :
    ∃ seen, ∃ x ∈ xs, check seen x = some fault := by
  obtain ⟨front, x, back, rfl, failed⟩ := exists_split_of_firstFault h
  exact ⟨front.reverse ++ before, x, List.mem_append_right front List.mem_cons_self, failed⟩

namespace Domain

theorem predicateFault_eq_none {before : List Symbol} {predicate : Symbol} :
    predicateFault before predicate = none ↔ predicate ∉ before := by
  simp [predicateFault]

theorem firstFault_predicateFault {before predicates : List Symbol} :
    firstFault predicateFault before predicates = none ↔
      predicates.Nodup ∧ ∀ predicate ∈ predicates, predicate ∉ before := by
  induction predicates generalizing before with
  | nil => simp [firstFault]
  | cons predicate rest ih =>
    rw [firstFault_cons, predicateFault_eq_none, ih]
    simp only [List.nodup_cons, List.mem_cons, forall_eq_or_imp, not_or]
    constructor
    · rintro ⟨fresh, distinct, others⟩
      exact ⟨⟨fun h => (others predicate h).1 rfl, distinct⟩, fresh, fun p hp => (others p hp).2⟩
    · rintro ⟨⟨fresh, distinct⟩, notBefore, others⟩
      exact ⟨notBefore, distinct, fun p hp => ⟨fun h => fresh (h ▸ hp), others p hp⟩⟩

theorem schemaFault_eq_none {predicates : List Symbol} {before : List Schema} {schema : Schema} :
    schemaFault predicates before schema = none ↔
      schema.name ∉ before.map Schema.name ∧
        ∀ atom ∈ schema.relevant, atom.predicate ∈ predicates := by
  unfold schemaFault
  split
  · next repeated => simp [repeated]
  · next fresh => simp only [fresh, not_false_eq_true, true_and, List.findSome?_eq_none_iff]; grind

theorem firstFault_schemaFault {predicates : List Symbol} {before schemas : List Schema} :
    firstFault (schemaFault predicates) before schemas = none ↔
      (schemas.map Schema.name).Nodup ∧
        (∀ schema ∈ schemas, schema.name ∉ before.map Schema.name) ∧
          ∀ schema ∈ schemas, ∀ atom ∈ schema.relevant, atom.predicate ∈ predicates := by
  induction schemas generalizing before with
  | nil => simp [firstFault]
  | cons schema rest ih =>
    rw [firstFault_cons, schemaFault_eq_none, ih]
    simp only [List.map_cons, List.nodup_cons, List.mem_cons, forall_eq_or_imp, not_or]
    constructor
    · rintro ⟨⟨fresh, slots⟩, distinct, others, rest⟩
      refine ⟨⟨fun h => ?_, distinct⟩, ⟨fresh, fun s hs => (others s hs).2⟩, slots, rest⟩
      obtain ⟨other, hother, same⟩ := List.mem_map.1 h
      exact (others other hother).1 same
    · rintro ⟨⟨fresh, distinct⟩, ⟨notBefore, others⟩, slots, rest⟩
      exact ⟨⟨notBefore, slots⟩, distinct,
        fun s hs => ⟨fun h => fresh (h ▸ List.mem_map_of_mem hs), others s hs⟩, rest⟩

theorem fault?_eq_none {schemas : List Schema} {predicates : List Symbol} :
    fault? schemas predicates = none ↔
      predicates.Nodup ∧ (schemas.map Schema.name).Nodup ∧
        ∀ schema ∈ schemas, ∀ atom ∈ schema.relevant, atom.predicate ∈ predicates := by
  simp [fault?, firstFault_predicateFault, firstFault_schemaFault]

variable {domain : Domain}

theorem predicates_nodup (domain : Domain) : domain.predicates.Nodup :=
  (fault?_eq_none.1 domain.faultless).1

theorem names_nodup (domain : Domain) : (domain.schemas.map Schema.name).Nodup :=
  (fault?_eq_none.1 domain.faultless).2.1

theorem relevant_listed {schema : Schema} (h : schema ∈ domain.schemas) {atom : LiftedAtom}
    (hatom : atom ∈ schema.relevant) : atom.predicate ∈ domain.predicates :=
  (fault?_eq_none.1 domain.faultless).2.2 schema h atom hatom

/-! ## Positions and names -/

theorem schemaPosition_of_getElem? {id : Nat} {schema : Schema}
    (h : domain.schemas[id]? = some schema) : domain.schemaPosition schema.name = id :=
  findIdx_key domain.names_nodup h

theorem getElem?_schemaPosition {schema : Schema} (h : schema ∈ domain.schemas) :
    domain.schemas[domain.schemaPosition schema.name]? = some schema := by
  obtain ⟨id, hid⟩ := List.getElem?_of_mem h
  rw [schemaPosition_of_getElem? hid, hid]

theorem schemaPosition_lt {schema : Schema} (h : schema ∈ domain.schemas) :
    domain.schemaPosition schema.name < domain.numSchemas :=
  (List.getElem?_eq_some_iff.1 (getElem?_schemaPosition h)).1

theorem find?_name {schema : Schema} {name : Symbol} :
    domain.schemas.find? (·.name == name) = some schema ↔
      schema ∈ domain.schemas ∧ schema.name = name :=
  find?_key_eq_some domain.names_nodup

theorem schemaName_of_getElem? {id : Nat} {schema : Schema}
    (h : domain.schemas[id]? = some schema) : domain.schemaName id = schema.name := by
  rw [schemaName, h, Option.map_some, Option.getD_some]

theorem predicatePosition_of_getElem? {id : Nat} {predicate : Symbol}
    (h : domain.predicates[id]? = some predicate) : domain.predicatePosition predicate = id := by
  obtain ⟨inside, rfl⟩ := List.getElem?_eq_some_iff.1 h
  exact domain.predicates_nodup.idxOf_getElem id inside

theorem getElem?_predicatePosition {predicate : Symbol} (h : predicate ∈ domain.predicates) :
    domain.predicates[domain.predicatePosition predicate]? = some predicate := by
  obtain ⟨id, hid⟩ := List.getElem?_of_mem h
  rw [predicatePosition_of_getElem? hid, hid]

theorem predicatePosition_lt {predicate : Symbol} (h : predicate ∈ domain.predicates) :
    domain.predicatePosition predicate < domain.numPredicates :=
  (List.getElem?_eq_some_iff.1 (getElem?_predicatePosition h)).1

theorem predicatePosition_inj {p q : Symbol} (hp : p ∈ domain.predicates)
    (hq : q ∈ domain.predicates) :
    domain.predicatePosition p = domain.predicatePosition q ↔ p = q := by
  refine ⟨fun same => ?_, congrArg _⟩
  have read := getElem?_predicatePosition hp
  rw [same, getElem?_predicatePosition hq] at read
  exact (Option.some.inj read).symm

theorem predicateName_position {predicate : Symbol} (h : predicate ∈ domain.predicates) :
    domain.predicateName (domain.predicatePosition predicate) = predicate := by
  rw [predicateName, getElem?_predicatePosition h, Option.getD_some]

/-! ## Slots -/

theorem relevantPredicates_of_getElem? {id : Nat} {schema : Schema}
    (h : domain.schemas[id]? = some schema) :
    domain.relevantPredicates id =
      schema.relevant.map fun atom => domain.predicatePosition atom.predicate := by
  simp [relevantPredicates, h]

theorem actionSlots_of_getElem? {id : Nat} {predicate : Symbol}
    (h : domain.predicates[id]? = some predicate) :
    domain.actionSlots id =
      domain.schemas.zipIdx.flatMap fun (schema, id) => slotsOf predicate id schema := by
  rw [actionSlots, h]

theorem mem_slotsOf {predicate : Symbol} {id : Nat} {schema : Schema} {slot : Slot} :
    slot ∈ slotsOf predicate id schema ↔
      slot.schema = id ∧ ∃ atom, schema.relevant[slot.slot]? = some atom ∧
        atom.predicate = predicate := by
  obtain ⟨s, k⟩ := slot
  simp only [slotsOf, List.mem_map, List.mem_filter, Prod.exists, List.mk_mem_zipIdx_iff_getElem?,
    beq_iff_eq, Slot.mk.injEq]
  constructor
  · rintro ⟨atom, k, ⟨hatom, same⟩, rfl, rfl⟩
    exact ⟨rfl, atom, hatom, same⟩
  · rintro ⟨rfl, atom, hatom, same⟩
    exact ⟨atom, k, ⟨hatom, same⟩, rfl, rfl⟩

theorem mem_actionSlots {id : Nat} {slot : Slot} :
    slot ∈ domain.actionSlots id ↔
      ∃ predicate schema atom, domain.predicates[id]? = some predicate ∧
        domain.schemas[slot.schema]? = some schema ∧
          schema.relevant[slot.slot]? = some atom ∧ atom.predicate = predicate := by
  cases h : domain.predicates[id]? with
  | none => simp [actionSlots, h]
  | some predicate =>
    simp only [actionSlots_of_getElem? h, List.mem_flatMap, Prod.exists,
      List.mk_mem_zipIdx_iff_getElem?, mem_slotsOf]
    constructor
    · rintro ⟨schema, s, hschema, rfl, atom, hatom, same⟩
      exact ⟨predicate, schema, atom, rfl, hschema, hatom, same⟩
    · rintro ⟨p, schema, atom, hp, hschema, hatom, same⟩
      obtain rfl := Option.some.inj hp
      exact ⟨schema, _, hschema, rfl, atom, hatom, same⟩

/-- A slot belongs to the one predicate that its relevant proposition is built on. -/
theorem mem_actionSlots_iff {id : PredId} {slot : Slot} :
    slot ∈ domain.actionSlots id ↔
      (domain.relevantPredicates slot.schema)[slot.slot]? = some id := by
  rw [mem_actionSlots]
  constructor
  · rintro ⟨predicate, schema, atom, hp, hs, hatom, rfl⟩
    rw [relevantPredicates_of_getElem? hs, List.getElem?_map, hatom, Option.map_some,
      predicatePosition_of_getElem? hp]
  · intro h
    cases hs : domain.schemas[slot.schema]? with
    | none => simp [relevantPredicates, hs] at h
    | some schema =>
      rw [relevantPredicates_of_getElem? hs, List.getElem?_map, Option.map_eq_some_iff] at h
      obtain ⟨atom, hatom, rfl⟩ := h
      have known := relevant_listed (List.mem_of_getElem? hs) (List.mem_of_getElem? hatom)
      exact ⟨atom.predicate, schema, atom, getElem?_predicatePosition known, rfl, hatom, rfl⟩

theorem relevantPredicates_lt {s : SchemaId} {pred : PredId}
    (h : pred ∈ domain.relevantPredicates s) : pred < domain.numPredicates := by
  cases found : domain.schemas[s]? with
  | none => simp [relevantPredicates, found] at h
  | some schema =>
    rw [relevantPredicates_of_getElem? found, List.mem_map] at h
    obtain ⟨atom, hatom, rfl⟩ := h
    exact predicatePosition_lt (relevant_listed (List.mem_of_getElem? found) hatom)

theorem slotsOf_pairwise (predicate : Symbol) (id : Nat) (schema : Schema) :
    (slotsOf predicate id schema).Pairwise Slot.Before := by
  rw [slotsOf, List.pairwise_map]
  exact ((zipIdx_pairwise schema.relevant 0).filter _).imp fun before => .inr ⟨rfl, before⟩

theorem actionSlots_pairwise (domain : Domain) (id : PredId) :
    (domain.actionSlots id).Pairwise Slot.Before := by
  unfold actionSlots
  split
  · next predicate _ =>
    refine List.pairwise_flatMap.2 ⟨fun entry _ => slotsOf_pairwise _ _ _, ?_⟩
    refine (zipIdx_pairwise domain.schemas 0).imp fun before a ha b hb => ?_
    rw [mem_slotsOf] at ha hb
    exact .inl (by rw [ha.1, hb.1]; exact before)
  · exact .nil

theorem actionSlots_nodup (domain : Domain) (id : PredId) : (domain.actionSlots id).Nodup :=
  Slot.nodup_of_before (domain.actionSlots_pairwise id)

theorem relevantSlots_eq_ok {id : Nat} {slots : List Slot} :
    domain.relevantSlots id = .ok slots ↔ domain.actionSlots id = slots ∧ slots ≠ [] := by
  unfold relevantSlots
  split
  · next none => simp only [reduceCtorEq, none, false_iff]; grind
  · next slot rest some => simp only [Except.ok.injEq, some]; grind

/-! ## Predicates without a slot -/

/-- Some slot of some schema is to hold the predicate. -/
def Fills (domain : Domain) (predicate : Symbol) : Prop :=
  ∃ schema ∈ domain.schemas, ∃ atom ∈ schema.relevant, atom.predicate = predicate

theorem actionSlots_ne_nil {pred : PredId} {predicate : Symbol}
    (place : domain.predicates[pred]? = some predicate) :
    domain.actionSlots pred ≠ [] ↔ domain.Fills predicate := by
  constructor
  · intro filled
    obtain ⟨slot, mem⟩ := List.exists_mem_of_ne_nil _ filled
    obtain ⟨_, schema, atom, own, hschema, hatom, same⟩ := mem_actionSlots.1 mem
    obtain rfl := Option.some.inj (place.symm.trans own)
    exact ⟨schema, List.mem_of_getElem? hschema, atom, List.mem_of_getElem? hatom, same⟩
  · rintro ⟨schema, hschema, atom, hatom, same⟩
    obtain ⟨s, hs⟩ := List.getElem?_of_mem hschema
    obtain ⟨k, hk⟩ := List.getElem?_of_mem hatom
    have filled : ⟨s, k⟩ ∈ domain.actionSlots pred :=
      mem_actionSlots.2 ⟨_, schema, atom, place, hs, hk, same⟩
    exact List.ne_nil_of_mem filled

theorem relevantSlots_eq_error {pred : PredId} {predicate : Symbol}
    (place : domain.predicates[pred]? = some predicate) {fault : PlanningError} :
    domain.relevantSlots pred = .error fault ↔
      ¬domain.Fills predicate ∧ fault = .noRelevantSlots predicate := by
  rw [← actionSlots_ne_nil place, relevantSlots, predicateName, place]
  cases domain.actionSlots pred <;> simp [eq_comm]

theorem check_eq_error {pred : PredId} {fault : PlanningError} :
    (do let _ ← domain.relevantSlots pred : Except PlanningError Unit) = .error fault ↔
      domain.relevantSlots pred = .error fault := by
  cases domain.relevantSlots pred with
  | error found => simp [bind, Except.bind]
  | ok slots => simp [ok_bind, pure_eq_ok]

theorem check_eq_ok {pred : PredId} {predicate : Symbol}
    (place : domain.predicates[pred]? = some predicate) :
    (do let _ ← domain.relevantSlots pred : Except PlanningError Unit) = .ok () ↔
      domain.Fills predicate := by
  simp only [bind_eq_ok, pure_eq_ok, and_true, relevantSlots_eq_ok, exists_eq_left',
    actionSlots_ne_nil place]

/-- A domain is valid if every predicate fills a slot of a schema. -/
theorem validate_eq_ok :
    domain.validate = .ok () ↔ ∀ pred ∈ domain.predicates, ∃ schema ∈ domain.schemas,
      ∃ atom ∈ schema.relevant, atom.predicate = pred := by
  have check : domain.validate = .ok () ↔
      ∀ id < domain.numPredicates, domain.actionSlots id ≠ [] := by
    simp only [validate, forM_eq_ok, List.mem_range, bind_eq_ok, pure_eq_ok, and_true,
      relevantSlots_eq_ok, exists_eq_left']
  rw [check]
  constructor
  · intro h predicate mem
    obtain ⟨id, place⟩ := List.getElem?_of_mem mem
    exact (actionSlots_ne_nil place).1 (h id (List.getElem?_eq_some_iff.1 place).1)
  · intro h id inside
    exact (actionSlots_ne_nil (List.getElem?_eq_getElem inside)).2 (h _ (List.getElem_mem inside))

/-- The fault of a domain that is not valid is that of its first predicate without a slot. -/
theorem validate_eq_error {fault : PlanningError} :
    domain.validate = .error fault ↔ ∃ (pred : PredId) (predicate : Symbol),
      domain.predicates[pred]? = some predicate ∧ ¬domain.Fills predicate ∧
        fault = .noRelevantSlots predicate ∧
          ∀ j < pred, ∀ other, domain.predicates[j]? = some other → domain.Fills other := by
  rw [validate, forM_eq_error]
  constructor
  · rintro ⟨pred, _, place, failed, passed⟩
    obtain ⟨bound, rfl⟩ := List.getElem?_eq_some_iff.1 place
    have inside : pred < domain.predicates.length := by rwa [List.length_range] at bound
    have own := List.getElem?_eq_getElem inside
    rw [List.getElem_range, check_eq_error, relevantSlots_eq_error own] at failed
    refine ⟨pred, _, own, failed.1, failed.2, fun j before other listed => ?_⟩
    have early := List.getElem?_range (Nat.lt_trans before inside)
    exact (check_eq_ok listed).1 (passed j before j early)
  · rintro ⟨pred, predicate, own, bare, rfl, passed⟩
    have inside := (List.getElem?_eq_some_iff.1 own).1
    refine ⟨pred, pred, List.getElem?_range inside,
      check_eq_error.2 ((relevantSlots_eq_error own).2 ⟨bare, rfl⟩), fun j before y place => ?_⟩
    rw [numPredicates, List.getElem?_range (Nat.lt_trans before inside), Option.some_inj] at place
    subst place
    have listed := List.getElem?_eq_getElem (Nat.lt_trans before inside)
    exact (check_eq_ok listed).2 (passed j before _ listed)

end Domain

end SchemaNet
