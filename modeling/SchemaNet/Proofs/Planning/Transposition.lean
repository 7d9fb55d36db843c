import SchemaNet.Proofs.Network.WalkDomain
import SchemaNet.Proofs.Planning.Adjacency

/-!
The two directions of the relation between actions and propositions. The gather table of a
slot and the pools of the slot are transposes of each other, and what an action says of its
slots is what the propositions say of the actions that hold them.
-/

namespace SchemaNet.Problem

variable {problem : Problem}

theorem mem_schemaActions {s : SchemaId} {id : ActId} :
    id ∈ problem.schemaActions s ↔ id < problem.numActions ∧ problem.actSchema id = s := by
  simp [schemaActions]

theorem mem_predicateProps {pred : PredId} {p : PropId} :
    p ∈ problem.predicateProps pred ↔ p < problem.numProps ∧ problem.propPredicate p = pred := by
  simp [predicateProps]

theorem schemaActions_pairwise (problem : Problem) (s : SchemaId) :
    (problem.schemaActions s).Pairwise (· < ·) :=
  List.pairwise_lt_range.filter _

theorem schemaActions_nodup (problem : Problem) (s : SchemaId) : (problem.schemaActions s).Nodup :=
  List.nodup_range.filter _

theorem predicateProps_nodup (problem : Problem) (pred : PredId) :
    (problem.predicateProps pred).Nodup :=
  List.nodup_range.filter _

section Slot

variable {pred : PredId} {slot : Slot}

/-- An action of the slot's schema holds a proposition of the slot's predicate. -/
theorem exists_slotProp (hslot : slot ∈ problem.domain.actionSlots pred) {id : ActId}
    (mem : id ∈ problem.schemaActions slot.schema) :
    ∃ p, (problem.slotProps id)[slot.slot]? = some p ∧ p ∈ problem.predicateProps pred := by
  obtain ⟨inside, own⟩ := mem_schemaActions.1 mem
  have asked := Domain.mem_actionSlots_iff.1 hslot
  have bound : slot.slot < (problem.slotProps id).length := by
    rw [slotProps_length (List.getElem?_eq_getElem inside), own]
    exact (List.getElem?_eq_some_iff.1 asked).1
  have read := List.getElem?_eq_getElem bound
  obtain ⟨-, listed, predicate⟩ := propPredicate_slotProps read
  rw [own, asked] at predicate
  exact ⟨_, read, mem_predicateProps.2 ⟨listed, (Option.some.inj predicate).symm⟩⟩

theorem gatherIndices_length (s k : Nat) :
    (problem.gatherIndices s k).length = (problem.schemaActions s).length := by
  rw [gatherIndices, List.length_map]

/-- An entry of the gather table is the position of the proposition that the action holds. -/
theorem gatherIndices_getElem? (hslot : slot ∈ problem.domain.actionSlots pred) {m k : Nat} :
    (problem.gatherIndices slot.schema slot.slot)[m]? = some k ↔
      ∃ id p, (problem.schemaActions slot.schema)[m]? = some id ∧
        (problem.predicateProps pred)[k]? = some p ∧
          (problem.slotProps id)[slot.slot]? = some p := by
  rw [gatherIndices, List.getElem?_map, Option.map_eq_some_iff]
  refine exists_congr fun id => ?_
  constructor
  · rintro ⟨hid, rfl⟩
    obtain ⟨p, read, mem⟩ := exists_slotProp hslot (List.mem_of_getElem? hid)
    refine ⟨p, hid, ?_, read⟩
    rw [read, Option.getD_some, propPosition, (mem_predicateProps.1 mem).2]
    exact List.getElem?_idxOf mem
  · rintro ⟨p, hid, hp, read⟩
    refine ⟨hid, ?_⟩
    obtain ⟨bound, rfl⟩ := List.getElem?_eq_some_iff.1 hp
    have predicate := (mem_predicateProps.1 (List.getElem_mem bound)).2
    rw [read, Option.getD_some, propPosition, predicate,
      (problem.predicateProps_nodup pred).idxOf_getElem k bound]

variable {j : Nat}

theorem poolIndices_length (problem : Problem) (pred : PredId) (j : Nat) :
    (problem.poolIndices pred j).length = (problem.predicateProps pred).length := by
  unfold poolIndices
  split <;> rw [List.length_map]

/-- A pool in the order of the schema's instances. -/
theorem poolIndices_getElem? (hslot : (problem.domain.actionSlots pred)[j]? = some slot) (k : Nat) :
    (problem.poolIndices pred j)[k]? = ((problem.predicateProps pred)[k]?).map fun p =>
      (List.range (problem.schemaActions slot.schema).length).filter fun m =>
        ((problem.schemaActions slot.schema)[m]?).any fun id => problem.holds id slot.slot p := by
  simp only [poolIndices, hslot]
  rw [List.getElem?_map]
  refine Option.map_congr fun p _ => ?_
  exact filter_zipIdx_places (problem.schemaActions slot.schema)
    fun id => problem.holds id slot.slot p

theorem pool_pairwise (hslot : (problem.domain.actionSlots pred)[j]? = some slot) {pool : List Nat}
    (h : pool ∈ problem.poolIndices pred j) : pool.Pairwise (· < ·) := by
  obtain ⟨k, hk⟩ := List.getElem?_of_mem h
  rw [poolIndices_getElem? hslot, Option.map_eq_some_iff] at hk
  obtain ⟨p, -, rfl⟩ := hk
  exact List.pairwise_lt_range.filter _

theorem mem_pool_iff (hslot : (problem.domain.actionSlots pred)[j]? = some slot) {k m : Nat} :
    (∃ pool, (problem.poolIndices pred j)[k]? = some pool ∧ m ∈ pool) ↔
      (problem.gatherIndices slot.schema slot.slot)[m]? = some k := by
  rw [poolIndices_getElem? hslot, gatherIndices_getElem? (List.mem_of_getElem? hslot)]
  simp only [Option.map_eq_some_iff, exists_exists_and_eq_and, List.mem_filter, List.mem_range,
    Option.any_eq_true, holds, beq_iff_eq]
  constructor
  · rintro ⟨p, hp, -, id, hid, read⟩
    exact ⟨id, p, hid, hp, read⟩
  · rintro ⟨id, p, hid, hp, read⟩
    exact ⟨p, hp, (List.getElem?_eq_some_iff.1 hid).1, id, hid, read⟩

/-- Every instance of the slot's schema is in one pool, and it is there once. -/
theorem flatten_pools_perm (hslot : (problem.domain.actionSlots pred)[j]? = some slot) :
    (problem.poolIndices pred j).flatten.Perm
      (List.range (problem.schemaActions slot.schema).length) := by
  have distinct : (problem.poolIndices pred j).flatten.Nodup := by
    refine List.nodup_flatten.2 ⟨fun pool h => (pool_pairwise hslot h).imp Nat.ne_of_lt, ?_⟩
    rw [List.pairwise_iff_getElem]
    intro k k' hk hk' before m mem mem'
    -- two pools with the same action would be two entries of the gather table at one place
    have first := (mem_pool_iff hslot).1 ⟨_, List.getElem?_eq_getElem hk, mem⟩
    have second := (mem_pool_iff hslot).1 ⟨_, List.getElem?_eq_getElem hk', mem'⟩
    rw [first, Option.some_inj] at second
    omega
  refine (List.perm_ext_iff_of_nodup distinct List.nodup_range).2 fun m => ?_
  rw [List.mem_flatten, List.mem_range, ← gatherIndices_length slot.schema slot.slot]
  constructor
  · rintro ⟨pool, hpool, mem⟩
    obtain ⟨k, hk⟩ := List.getElem?_of_mem hpool
    exact (List.getElem?_eq_some_iff.1 ((mem_pool_iff hslot).1 ⟨pool, hk, mem⟩)).1
  · intro inside
    obtain ⟨pool, hpool, mem⟩ := (mem_pool_iff hslot).2 (List.getElem?_eq_getElem inside)
    exact ⟨pool, List.mem_of_getElem? hpool, mem⟩

end Slot

/-! ## The relation seen from both sides -/

theorem mem_adjacency {p : PropId} {slot : Slot} {acts : List ActId} :
    (slot, acts) ∈ problem.adjacency p ↔
      slot ∈ problem.domain.actionSlots (problem.propPredicate p) ∧
        acts = problem.actionsHolding p slot := by
  simp only [adjacency, List.mem_map, Prod.mk.injEq]
  constructor
  · rintro ⟨own, mem, rfl, rfl⟩
    exact ⟨mem, rfl⟩
  · rintro ⟨mem, rfl⟩
    exact ⟨slot, mem, rfl, rfl⟩

/-- An action holds a proposition in a slot if and only if the proposition lists the action
under that slot. -/
theorem adjacency_iff_slotProps {p : PropId} {slot : Slot} {a : ActId} :
    (∃ acts, (slot, acts) ∈ problem.adjacency p ∧ a ∈ acts) ↔
      problem.actSchema a = slot.schema ∧ (problem.slotProps a)[slot.slot]? = some p := by
  simp only [mem_adjacency, actionsHolding]
  constructor
  · rintro ⟨acts, ⟨-, rfl⟩, mem⟩
    obtain ⟨own, held⟩ := List.mem_filter.1 mem
    exact ⟨(mem_schemaActions.1 own).2, by simpa [holds] using held⟩
  · rintro ⟨own, held⟩
    obtain ⟨inside, -, asked⟩ := propPredicate_slotProps held
    rw [own] at asked
    refine ⟨_, ⟨Domain.mem_actionSlots_iff.2 asked, rfl⟩, List.mem_filter.2 ⟨?_, ?_⟩⟩
    · exact mem_schemaActions.2 ⟨inside, own⟩
    · simp [holds, held]

theorem adjacency_pairwise {p : PropId} {entry : Slot × List ActId}
    (h : entry ∈ problem.adjacency p) :
    entry.2.Pairwise (· < ·) := by
  obtain ⟨-, acts⟩ := mem_adjacency.1 h
  rw [acts]
  exact (schemaActions_pairwise problem _).filter _

theorem adjacency_slots (p : PropId) :
    (problem.adjacency p).map (·.1) = problem.domain.actionSlots (problem.propPredicate p) := by
  simp [adjacency, Function.comp_def]

theorem actionsHolding_positions (p : PropId) (slot : Slot) :
    (problem.actionsHolding p slot).map problem.actPosition =
      ((problem.schemaActions slot.schema).zipIdx.filter
        fun entry => problem.holds entry.1 slot.slot p).map (·.2) := by
  rw [actionsHolding, filter_zipIdx_idxOf (problem.schemaActions_nodup slot.schema)
    fun id => problem.holds id slot.slot p]
  refine List.map_congr_left fun id mem => ?_
  rw [actPosition, (mem_schemaActions.1 (List.mem_filter.1 mem).1).2]

/-- The pools name the actions that the propositions list, by their positions. -/
theorem poolIndices_eq_adjacency (pred : PredId) (j : Nat) :
    problem.poolIndices pred j = (problem.predicateProps pred).map fun p =>
      (((problem.adjacency p)[j]?).map fun entry => entry.2.map problem.actPosition).getD [] := by
  have listed : ∀ p ∈ problem.predicateProps pred, (problem.adjacency p)[j]? =
      ((problem.domain.actionSlots pred)[j]?).map fun slot =>
        (slot, problem.actionsHolding p slot) := by
    intro p mem
    rw [adjacency, (mem_predicateProps.1 mem).2, List.getElem?_map]
  unfold poolIndices
  split
  · next slot hslot =>
    refine List.map_congr_left fun p mem => ?_
    rw [listed p mem, hslot, Option.map_some, Option.map_some, Option.getD_some,
      actionsHolding_positions]
  · next none =>
    refine List.map_congr_left fun p mem => ?_
    rw [listed p mem, none]
    rfl

/-- The gather table and the pools of a slot, the `j`-th one of its predicate. -/
structure Transposed (problem : Problem) (pred : PredId) (j : Nat) (slot : Slot) : Prop where
  entries : (problem.gatherIndices slot.schema slot.slot).length =
    (problem.schemaActions slot.schema).length
  gathers : ∀ (m : Nat) (id : ActId), (problem.schemaActions slot.schema)[m]? = some id →
    ∃ (action : GroundAction) (held prop : GroundAtom) (k : Nat) (p : PropId),
      problem.actions[id]? = some action ∧ action.slots[slot.slot]? = some held ∧
        (problem.gatherIndices slot.schema slot.slot)[m]? = some k ∧
          (problem.predicateProps pred)[k]? = some p ∧ problem.props[p]? = some prop ∧
            prop.ident = held.ident
  pools : (problem.poolIndices pred j).length = (problem.predicateProps pred).length
  increasing : ∀ pool ∈ problem.poolIndices pred j, pool.Pairwise (· < ·)
  transposes : ∀ k m : Nat, (∃ pool, (problem.poolIndices pred j)[k]? = some pool ∧ m ∈ pool) ↔
    (problem.gatherIndices slot.schema slot.slot)[m]? = some k
  once : (problem.poolIndices pred j).flatten.Perm
    (List.range (problem.schemaActions slot.schema).length)

/-- The actions say of their slots what the propositions say of the actions that hold them. -/
structure TwoSided (problem : Problem) : Prop where
  slots_distinct : ∀ p, ((problem.adjacency p).map (·.1)).Nodup
  increasing : ∀ p, ∀ entry ∈ problem.adjacency p, entry.2.Pairwise (· < ·)
  same : ∀ (p : PropId) (slot : Slot) (a : ActId),
    (∃ acts, (slot, acts) ∈ problem.adjacency p ∧ a ∈ acts) ↔
      problem.actSchema a = slot.schema ∧ (problem.slotProps a)[slot.slot]? = some p
  pools : ∀ pred j, problem.poolIndices pred j = (problem.predicateProps pred).map fun p =>
    (((problem.adjacency p)[j]?).map fun entry => entry.2.map problem.actPosition).getD []

theorem twoSided (problem : Problem) : problem.TwoSided where
  slots_distinct p := adjacency_slots p ▸ problem.domain.actionSlots_nodup _
  increasing _ _ h := adjacency_pairwise h
  same _ _ _ := adjacency_iff_slotProps
  pools := poolIndices_eq_adjacency

theorem gathers_held {pred : PredId} {slot : Slot}
    (hslot : slot ∈ problem.domain.actionSlots pred) {m : Nat} {id : ActId}
    (hid : (problem.schemaActions slot.schema)[m]? = some id) :
    ∃ (action : GroundAction) (held prop : GroundAtom) (k : Nat) (p : PropId),
      problem.actions[id]? = some action ∧ action.slots[slot.slot]? = some held ∧
        (problem.gatherIndices slot.schema slot.slot)[m]? = some k ∧
          (problem.predicateProps pred)[k]? = some p ∧ problem.props[p]? = some prop ∧
            prop.ident = held.ident := by
  have mem := List.mem_of_getElem? hid
  obtain ⟨p, read, listed⟩ := exists_slotProp hslot mem
  obtain ⟨k, hk⟩ := List.getElem?_of_mem listed
  obtain ⟨action, haction⟩ : ∃ action, problem.actions[id]? = some action :=
    ⟨_, List.getElem?_eq_getElem (mem_schemaActions.1 mem).1⟩
  have gather := (gatherIndices_getElem? hslot).2 ⟨id, p, hid, hk, read⟩
  rw [slotProps_eq haction, List.getElem?_map, Option.map_eq_some_iff] at read
  obtain ⟨held, hheld, rfl⟩ := read
  have inside := (mem_predicateProps.1 listed).1
  refine ⟨action, held, _, k, _, haction, hheld, gather, hk, List.getElem?_eq_getElem inside, ?_⟩
  simpa using List.findIdx_getElem (w := inside)

/-- The tables of every slot of every predicate are transposes, and no adjacency is lost or
listed twice. -/
theorem slot_tables_transposed {pred : PredId} {slots : List Slot} {j : Nat} {slot : Slot}
    (known : problem.domain.relevantSlots pred = .ok slots) (place : slots[j]? = some slot) :
    problem.Transposed pred j slot ∧ problem.TwoSided := by
  obtain ⟨rfl, -⟩ := Domain.relevantSlots_eq_ok.1 known
  have mem := List.mem_of_getElem? place
  refine ⟨⟨gatherIndices_length _ _, fun m id hid => gathers_held mem hid,
    poolIndices_length problem pred j, fun pool h => pool_pairwise place h,
    fun k m => mem_pool_iff place, flatten_pools_perm place⟩, problem.twoSided⟩

theorem walk_targets_transposed :
    WalkDomain.problem.domain.relevantSlots 0 = .ok [⟨0, 0⟩, ⟨0, 1⟩, ⟨1, 0⟩, ⟨2, 0⟩] ∧
      ([⟨0, 0⟩, ⟨0, 1⟩, ⟨1, 0⟩, ⟨2, 0⟩] : List Slot)[1]? = some ⟨0, 1⟩ ∧
        WalkDomain.problem.Transposed 0 1 ⟨0, 1⟩ ∧ WalkDomain.problem.TwoSided :=
  have known : WalkDomain.problem.domain.relevantSlots 0 =
    .ok [⟨0, 0⟩, ⟨0, 1⟩, ⟨1, 0⟩, ⟨2, 0⟩] := by decide
  ⟨known, rfl, slot_tables_transposed known rfl⟩

end SchemaNet.Problem
