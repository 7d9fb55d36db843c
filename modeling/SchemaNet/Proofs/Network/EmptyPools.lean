import Mathlib.Data.Set.Card
import SchemaNet.Proofs.Network.Capacity
import SchemaNet.Proofs.Network.WalkDomain

/-!
The empty pools of an evaluation. They are counted while the slots of the wiring are pooled, layer
by layer, and what is counted is a relation: the propositions and the slots that their predicates
fill between which no ground action stands, apart for schemas with ground actions and without.
-/

namespace SchemaNet
open Memory (bind_eq_ok)

theorem countP_of_forall₂ {β γ : Type} {p : β → Bool} {q : γ → Bool} {xs : List β} {ys : List γ}
    (h : List.Forall₂ (fun x y => p x = q y) xs ys) : xs.countP p = ys.countP q := by
  induction h with
  | nil => rfl
  | cons first _ ih => rw [List.countP_cons, List.countP_cons, ih, first]

/-- A loop that adds to each of two counts leaves both sums. -/
theorem foldl_counts {β : Type} {step : Nat × Nat → β → Nat × Nat} {f g : β → Nat}
    (adds : ∀ counts x, step counts x = (counts.1 + f x, counts.2 + g x)) (xs : List β)
    (counts : Nat × Nat) :
    xs.foldl step counts =
      (counts.1 + Size.total (xs.map f), counts.2 + Size.total (xs.map g)) := by
  induction xs generalizing counts with
  | nil => rfl
  | cons x rest ih =>
    rw [List.foldl_cons, ih, adds, List.map_cons, List.map_cons, Size.total_cons, Size.total_cons,
      Nat.add_assoc, Nat.add_assoc]

/-- A list without repetitions has as many elements of a kind as there are. -/
theorem ncard_eq_countP {β : Type} {xs : List β} {p : β → Bool} {kind : Set β}
    (distinct : xs.Nodup) (same : ∀ x, x ∈ kind ↔ x ∈ xs ∧ p x = true) :
    kind.ncard = xs.countP p := by
  classical
  have listed : kind = ((xs.filter p).toFinset : Set β) := by
    ext x
    simp [same]
  rw [listed, Set.ncard_coe_finset, List.toFinset_card_of_nodup (distinct.filter p),
    List.countP_eq_length_filter]

namespace Problem

/-- A proposition of the problem and a slot of a schema that its predicate fills. -/
def Meets (problem : Problem) (prop : GroundAtom) (slot : Slot) : Prop :=
  prop ∈ problem.props ∧ ∃ schema atom, problem.domain.schemas[slot.schema]? = some schema ∧
    schema.relevant[slot.slot]? = some atom ∧ atom.predicate = prop.predicate

/-- The schema has a ground action. -/
def HasInstance (problem : Problem) (s : SchemaId) : Prop :=
  ∃ schema, problem.domain.schemas[s]? = some schema ∧
    ∃ action ∈ problem.actions, action.schema = schema.name

/-- A ground action of the slot's schema holds the proposition in that slot. -/
def IsHeld (problem : Problem) (prop : GroundAtom) (slot : Slot) : Prop :=
  ∃ schema, problem.domain.schemas[slot.schema]? = some schema ∧
    ∃ action ∈ problem.actions, action.schema = schema.name ∧
      ∃ held, action.slots[slot.slot]? = some held ∧ held.ident = prop.ident

/-- The pools over schemas without ground actions. -/
def absentPools (problem : Problem) : Set (GroundAtom × Slot) :=
  { pair | problem.Meets pair.1 pair.2 ∧ ¬problem.HasInstance pair.2.schema }

/-- The empty pools over schemas with ground actions. -/
def vacantPools (problem : Problem) : Set (GroundAtom × Slot) :=
  { pair | problem.Meets pair.1 pair.2 ∧ problem.HasInstance pair.2.schema ∧
    ¬problem.IsHeld pair.1 pair.2 }

variable {problem : Problem}

/-! ## The pairs in the order of the tables -/

def meetingsOf (problem : Problem) (pred : PredId) : List (GroundAtom × Slot) :=
  (problem.domain.actionSlots pred).flatMap fun slot =>
    (problem.propsOf pred).map fun prop => (prop, slot)

def meetings (problem : Problem) : List (GroundAtom × Slot) :=
  (List.range problem.domain.numPredicates).flatMap problem.meetingsOf

theorem mem_meetingsOf {pred : PredId} {prop : GroundAtom} {slot : Slot} :
    (prop, slot) ∈ problem.meetingsOf pred ↔
      slot ∈ problem.domain.actionSlots pred ∧ prop ∈ problem.propsOf pred := by
  simp [meetingsOf]

theorem mem_propsOf {pred : PredId} {prop : GroundAtom} : prop ∈ problem.propsOf pred ↔
    prop ∈ problem.props ∧ problem.domain.predicatePosition prop.predicate = pred := by
  simp [propsOf]

theorem mem_meetings {pair : GroundAtom × Slot} :
    pair ∈ problem.meetings ↔ problem.Meets pair.1 pair.2 := by
  obtain ⟨prop, slot⟩ := pair
  simp only [meetings, List.mem_flatMap, List.mem_range, mem_meetingsOf, mem_propsOf,
    Domain.mem_actionSlots, Meets]
  constructor
  · rintro ⟨_, -, ⟨predicate, schema, atom, hp, hs, hatom, rfl⟩, hprop, rfl⟩
    have found := Domain.getElem?_predicatePosition (predicate_known hprop)
    exact ⟨hprop, schema, atom, hs, hatom, Option.some.inj (hp.symm.trans found)⟩
  · rintro ⟨hprop, schema, atom, hs, hatom, same⟩
    have known := predicate_known hprop
    exact ⟨_, Domain.predicatePosition_lt known,
      ⟨_, schema, atom, Domain.getElem?_predicatePosition known, hs, hatom, same⟩, hprop, rfl⟩

theorem meetings_nodup (problem : Problem) : problem.meetings.Nodup := by
  refine List.nodup_flatMap.2 ⟨fun pred _ => List.nodup_flatMap.2 ⟨fun slot _ => ?_, ?_⟩, ?_⟩
  · exact (problem.propsOf_nodup pred).map fun _ _ same => (Prod.mk.inj same).1
  · refine (problem.domain.actionSlots_nodup pred).imp fun {slot other} apart pair mem mem' => ?_
    obtain ⟨_, -, rfl⟩ := List.mem_map.1 mem
    obtain ⟨_, -, same⟩ := List.mem_map.1 mem'
    exact apart (Prod.mk.inj same).2.symm
  · refine List.pairwise_lt_range.imp fun {pred other} before pair mem mem' => ?_
    have own := (mem_propsOf.1 (mem_meetingsOf.1 mem).2).2
    have another := (mem_propsOf.1 (mem_meetingsOf.1 mem').2).2
    exact Nat.ne_of_lt before (own.symm.trans another)

/-! ## The kinds of pools -/

def isPresent (problem : Problem) (s : SchemaId) : Bool := !(problem.instances s).isEmpty

def isVacant (problem : Problem) (pair : GroundAtom × Slot) : Bool :=
  (problem.holders (problem.domain.schemaName pair.2.schema) pair.2.slot pair.1).isEmpty

theorem isPresent_iff {s : SchemaId} : problem.isPresent s = true ↔ problem.HasInstance s := by
  rw [isPresent, Bool.not_eq_true', List.isEmpty_eq_false_iff_exists_mem]
  simp only [instances, List.mem_filter, beq_iff_eq]
  constructor
  · rintro ⟨action, mem, rfl⟩
    obtain ⟨schema, hschema, inst⟩ := exists_schema mem
    refine ⟨schema, ?_, action, mem, inst.name.symm⟩
    rw [← inst.name]
    exact Domain.getElem?_schemaPosition hschema
  · rintro ⟨schema, hs, action, mem, name⟩
    exact ⟨action, mem, by rw [name, Domain.schemaPosition_of_getElem? hs]⟩

theorem isVacant_iff {prop : GroundAtom} {slot : Slot} (h : problem.Meets prop slot) :
    problem.isVacant (prop, slot) = true ↔ ¬problem.IsHeld prop slot := by
  obtain ⟨-, schema, -, hs, -⟩ := h
  rw [isVacant, Domain.schemaName_of_getElem? hs, List.isEmpty_iff, holders, List.filter_eq_nil_iff]
  simp only [GroundAction.fills, Bool.and_eq_true, beq_iff_eq, Option.any_eq_true, IsHeld, hs,
    Option.some.injEq, exists_eq_left', not_exists, not_and]

/-- A schema without ground actions has only empty pools. -/
theorem IsHeld.hasInstance {prop : GroundAtom} {slot : Slot} (h : problem.IsHeld prop slot) :
    problem.HasInstance slot.schema := by
  obtain ⟨schema, hs, action, mem, name, -⟩ := h
  exact ⟨schema, hs, action, mem, name⟩

theorem absentPools_ncard (problem : Problem) : problem.absentPools.ncard =
    problem.meetings.countP fun pair => !problem.isPresent pair.2.schema && problem.isVacant pair := by
  refine ncard_eq_countP problem.meetings_nodup fun pair => ?_
  rw [mem_meetings, Bool.and_eq_true, Bool.not_eq_true', ← Bool.not_eq_true, isPresent_iff]
  refine and_congr_right fun meets => ?_
  rw [isVacant_iff meets]
  exact ⟨fun absent => ⟨absent, fun held => absent held.hasInstance⟩, And.left⟩

theorem vacantPools_ncard (problem : Problem) : problem.vacantPools.ncard =
    problem.meetings.countP fun pair => problem.isPresent pair.2.schema && problem.isVacant pair := by
  refine ncard_eq_countP problem.meetings_nodup fun pair => ?_
  rw [mem_meetings, Bool.and_eq_true, isPresent_iff]
  exact and_congr_right fun meets => by rw [isVacant_iff meets]

end Problem

/-! ## The tables -/

namespace Wiring

variable {problem : Problem}

/-- What a slot adds to one of the counts. -/
def slotPools (wiring : Wiring) (present : Bool) (slot : SlotPool) : Nat :=
  if (0 < wiring.numInstances slot.schema) = present then Tensor.emptyPools slot.pools else 0

/-- The number of empty pools over schemas with ground actions if `present` holds, and
over schemas without any if it does not. -/
def emptyPools (wiring : Wiring) (present : Bool) : Nat :=
  Size.total (wiring.props.map fun entry => Size.total (entry.slots.map (wiring.slotPools present)))

theorem countPools_eq (wiring : Wiring) (counts : Nat × Nat) (slot : SlotPool) :
    wiring.countPools counts slot =
      (counts.1 + wiring.slotPools true slot, counts.2 + wiring.slotPools false slot) := by
  cases count : wiring.numInstances slot.schema <;> simp [countPools, slotPools, count]

/-- The pair that the pass records for a layer sums the counts of the pools themselves. -/
theorem layerPools_eq (wiring : Wiring) :
    wiring.layerPools = (wiring.emptyPools true, wiring.emptyPools false) := by
  rw [layerPools, foldl_counts fun counts (entry : PropWiring) =>
    foldl_counts wiring.countPools_eq entry.slots counts, Nat.zero_add, Nat.zero_add]
  rfl

theorem numInstances_ofProblem {s : SchemaId} (inside : s < problem.domain.numSchemas) :
    (ofProblem problem).numInstances s = (problem.instances s).length := by
  rw [numInstances, ofProblem, List.getElem?_map, List.getElem?_range inside, Option.map_some,
    Option.map_some, Option.getD_some, PolicyNetwork.ofSchema_length]

theorem emptyPools_poolIndices {pred j : Nat} {slot : Slot}
    (hslot : (problem.domain.actionSlots pred)[j]? = some slot) :
    Tensor.emptyPools (problem.poolIndices pred j) =
      (problem.propsOf pred).countP fun prop => problem.isVacant (prop, slot) := by
  obtain ⟨_, schema, _, -, hs, -⟩ := Domain.mem_actionSlots.1 (List.mem_of_getElem? hslot)
  refine countP_of_forall₂ ((Problem.poolIndices_beside hslot hs).imp fun pool prop picks => ?_)
  rw [Problem.isVacant, Domain.schemaName_of_getElem? hs, Bool.eq_iff_iff,
    List.isEmpty_iff_length_eq_zero, List.isEmpty_iff_length_eq_zero, picks.length_eq]

/-- What is counted in the tables of one predicate, for the slots of some schemas. -/
theorem total_slots (pred : PredId) (counts : SchemaId → Bool) :
    Size.total ((ofPredicate problem pred).slots.map fun slot =>
        if counts slot.schema then Tensor.emptyPools slot.pools else 0) =
      (problem.meetingsOf pred).countP fun pair =>
        counts pair.2.schema && problem.isVacant pair := by
  rw [Problem.meetingsOf, List.countP_flatMap, ofPredicate, List.map_map]
  conv_rhs => rw [← List.zipIdx_map_fst 0 (problem.domain.actionSlots pred), List.map_map]
  refine congrArg Size.total (List.map_congr_left ?_)
  rintro ⟨slot, j⟩ mem
  have hslot := List.mk_mem_zipIdx_iff_getElem?.1 mem
  simp only [Function.comp_apply, List.countP_map]
  cases counted : counts slot.schema with
  | true =>
    rw [if_pos rfl, emptyPools_poolIndices hslot]
    simp [Function.comp_def, counted]
  | false => simp [Function.comp_def, counted]

theorem total_props (counts : SchemaId → Bool) :
    Size.total ((ofProblem problem).props.map fun entry => Size.total (entry.slots.map fun slot =>
        if counts slot.schema then Tensor.emptyPools slot.pools else 0)) =
      problem.meetings.countP fun pair => counts pair.2.schema && problem.isVacant pair := by
  rw [Problem.meetings, List.countP_flatMap, ofProblem, List.map_map]
  exact congrArg Size.total (List.map_congr_left fun pred _ => total_slots pred counts)

/-- What is counted for schemas with ground actions, or for schemas without any. -/
theorem emptyPools_ofProblem (present : Bool) :
    (ofProblem problem).emptyPools present =
      problem.meetings.countP fun pair =>
        (problem.isPresent pair.2.schema == present) && problem.isVacant pair := by
  rw [← total_props fun s => problem.isPresent s == present, emptyPools]
  refine congrArg Size.total (List.map_congr_left fun entry hentry => ?_)
  obtain ⟨pred, -, rfl⟩ := List.mem_map.1 hentry
  refine congrArg Size.total (List.map_congr_left fun slot hslot => ?_)
  obtain ⟨⟨filled, j⟩, mem, rfl⟩ := List.mem_map.1 hslot
  have table := List.mem_of_getElem? (List.mk_mem_zipIdx_iff_getElem?.1 mem)
  obtain ⟨_, schema, _, -, hs, -⟩ := Domain.mem_actionSlots.1 table
  have inside : filled.schema < problem.domain.numSchemas := (List.getElem?_eq_some_iff.1 hs).1
  have counted : 0 < (ofProblem problem).numInstances filled.schema ↔
      problem.isPresent filled.schema = true := by
    rw [numInstances_ofProblem inside, Problem.isPresent, Bool.not_eq_true',
      List.isEmpty_eq_false_iff, List.length_pos_iff]
  simp only [slotPools, counted, Bool.beq_eq_decide_eq]
  cases present <;> simp

/-- The number of all empty pools of a layer. -/
def numEmpty (wiring : Wiring) : Nat :=
  Size.total (wiring.props.map fun entry => Size.total (entry.slots.map fun slot =>
    Tensor.emptyPools slot.pools))

theorem emptyPools_present (problem : Problem) :
    (ofProblem problem).emptyPools true = problem.vacantPools.ncard := by
  rw [emptyPools_ofProblem, Problem.vacantPools_ncard]
  simp only [beq_true]

theorem emptyPools_absent (problem : Problem) :
    (ofProblem problem).emptyPools false = problem.absentPools.ncard := by
  rw [emptyPools_ofProblem, Problem.absentPools_ncard]
  simp only [beq_false]

/-- Every empty pool is counted once. -/
theorem emptyPools_add (wiring : Wiring) :
    wiring.emptyPools true + wiring.emptyPools false = wiring.numEmpty := by
  refine List.sum_map_add.symm.trans (congrArg Size.total (List.map_congr_left fun entry _ => ?_))
  refine List.sum_map_add.symm.trans (congrArg Size.total (List.map_congr_left fun slot _ => ?_))
  by_cases counted : 0 < wiring.numInstances slot.schema <;> simp [slotPools, counted]

end Wiring

/-! ## The counts of a pass -/

namespace PolicyNetwork

variable {α : Type} [Scalar α] {net : PolicyNetwork α} {weights : Weights α}

/-- Every hidden layer pools in the same tables. -/
theorem layersFrom_emptyPools {input : PolicyInput α} {hidden layer : Nat}
    {acts props : List (Tensor α)} {evaluation : Evaluation α}
    (h : net.layersFrom weights input hidden layer acts props = .ok evaluation) :
    evaluation.emptyPools = List.replicate hidden net.wiring.layerPools := by
  induction hidden generalizing layer acts props evaluation with
  | zero =>
    obtain ⟨_, -, h⟩ := bind_eq_ok.1 h
    obtain ⟨_, -, h⟩ := bind_eq_ok.1 h
    obtain rfl := Except.ok.inj h
    rfl
  | succ hidden ih =>
    obtain ⟨_, -, h⟩ := bind_eq_ok.1 h
    obtain ⟨_, -, h⟩ := bind_eq_ok.1 h
    obtain ⟨rest, hrest, h⟩ := bind_eq_ok.1 h
    obtain rfl := Except.ok.inj h
    rw [ih hrest]
    rfl

theorem traced_emptyPools {input : MaskedInput α} {evaluation : Evaluation α}
    {probabilities : Grid α} (h : net.traced weights input = .ok (evaluation, probabilities)) :
    evaluation.emptyPools = List.replicate net.arch.numHidden
      (net.wiring.emptyPools true, net.wiring.emptyPools false) := by
  obtain ⟨_, -, h⟩ := bind_eq_ok.1 h
  obtain ⟨other, ran, h⟩ := bind_eq_ok.1 h
  obtain ⟨_, -, h⟩ := bind_eq_ok.1 h
  obtain ⟨rfl, -⟩ := Prod.mk.inj (Except.ok.inj h)
  rw [evaluate_eq] at ran
  obtain ⟨_, -, layers⟩ := bind_eq_ok.1 ran
  rw [layersFrom_emptyPools layers, Wiring.layerPools_eq]

/-- A traced pass counts, once for each hidden layer, the pairs of a proposition and a slot
between which no ground action stands: apart those for schemas that have ground actions and
those for schemas without, and together all empty pools of the tables. -/
theorem empty_pools_exact {input : MaskedInput α} {evaluation : Evaluation α}
    {probabilities : Grid α}
    (h : (Memory.traced net weights input).outcome.1 = .ok (evaluation, probabilities)) :
    evaluation.numAbsentPools = net.arch.numHidden * net.problem.absentPools.ncard ∧
      evaluation.numEmptyPools = net.arch.numHidden * net.problem.vacantPools.ncard ∧
      evaluation.numEmptyPools + evaluation.numAbsentPools =
        net.arch.numHidden * net.wiring.numEmpty := by
  have counts := traced_emptyPools (Memory.traced_eq_ok h)
  have absent : evaluation.numAbsentPools = net.arch.numHidden * net.wiring.emptyPools false := by
    rw [Evaluation.numAbsentPools, counts, List.map_replicate]
    exact List.sum_replicate_nat
  have vacant : evaluation.numEmptyPools = net.arch.numHidden * net.wiring.emptyPools true := by
    rw [Evaluation.numEmptyPools, counts, List.map_replicate]
    exact List.sum_replicate_nat
  refine ⟨?_, ?_, ?_⟩
  · rw [absent, net.wiring_eq, Wiring.emptyPools_absent]
  · rw [vacant, net.wiring_eq, Wiring.emptyPools_present]
  · rw [absent, vacant, ← Nat.mul_add, Wiring.emptyPools_add]

end PolicyNetwork

namespace WalkDomain

def unmasked : MaskedInput Whole :=
  { input with mask := ⟨2, 3, List.replicate 6 ⟨1⟩, rfl⟩ }

/-- Nobody waits at any of the four places, and seven times nobody walks or rings at one. -/
theorem eleven_empty_pools : ∃ net evaluation probabilities,
    PolicyNetwork.assemble problem arch config = .ok net ∧
      (Memory.traced net weights unmasked).outcome.1 = .ok (evaluation, probabilities) ∧
      evaluation.numAbsentPools = 1 * problem.absentPools.ncard ∧
      evaluation.numEmptyPools = 1 * problem.vacantPools.ncard ∧
      problem.absentPools.ncard = 4 ∧ problem.vacantPools.ncard = 7 ∧
      evaluation.numEmptyPools + evaluation.numAbsentPools = 11 := by
  have ran : (PolicyNetwork.assemble problem arch config >>= fun net =>
      (Memory.traced net weights unmasked).outcome.1).isOk = true := by decide +kernel
  cases hnet : PolicyNetwork.assemble problem arch config with
  | error fault => rw [hnet] at ran; cases ran
  | ok net =>
    rw [hnet, ok_bind] at ran
    obtain ⟨own, layers, -⟩ := PolicyNetwork.assemble_fields hnet
    cases h : (Memory.traced net weights unmasked).outcome.1 with
    | error fault => rw [h] at ran; cases ran
    | ok result =>
      obtain ⟨absent, vacant, all⟩ := PolicyNetwork.empty_pools_exact h
      rw [net.wiring_eq] at all
      rw [own, layers] at absent vacant all
      refine ⟨net, result.1, result.2, rfl, h, absent, vacant, ?_, ?_, all⟩
      · exact (Wiring.emptyPools_absent problem).symm
      · exact (Wiring.emptyPools_present problem).symm

end WalkDomain

end SchemaNet
