import SchemaNet.Network.Store
import SchemaNet.Proofs.Network.Relational

/-!
The widths of what the modules see. They are computed twice: here from the outputs of the
modules that are seen, as an evaluation puts them together, and in the shapes of the blocks
from the architecture. For blocks of the right shapes both agree.
-/

namespace SchemaNet
open Memory (bind_eq_ok)

namespace Weights

variable {α : Type}

/-- The channels of a proposition before a layer: at first its truth and its goal flag. -/
def propsBefore (weights : Weights α) : Nat → PredId → Nat
  | 0, _ => 2
  | layer + 1, pred => weights.outputsOf (.predicate layer pred)

/-- The channels of an action before a layer. -/
def actsBefore (weights : Weights α) : Nat → SchemaId → Nat
  | 0, _ => 0
  | layer + 1, schema => weights.outputsOf (.action layer schema)

/-- The number of channels that a module sees. -/
def viewWidth (weights : Weights α) (key : BlockKey) : Nat :=
  match key.kind with
  | .action id =>
    Size.total ((weights.domain.relevantPredicates id).map (weights.propsBefore key.layer))
      + (if key.layer = 0 then weights.arch.extraDim else 0)
      + (if 0 < key.layer ∧ weights.arch.skip then weights.actsBefore key.layer id else 0)
  | .predicate id =>
    Size.total ((weights.domain.actionSlots id).map fun slot =>
        weights.outputsOf (.action key.layer slot.schema))
      + (if 0 < key.layer ∧ weights.arch.skip then weights.propsBefore key.layer id else 0)

/-- The block of a key can be applied to what its module sees. -/
def Accepts (weights : Weights α) (key : BlockKey) : Prop :=
  ∃ block, weights.get? key = some block ∧ block.inputs = weights.viewWidth key ∧ block.Biased

/-- Every module can be run, and every score is a single number. -/
structure Coherent (weights : Weights α) : Prop where
  accepts : ∀ key ∈ weights.keys, weights.Accepts key
  scores : ∀ id < weights.domain.numSchemas,
    weights.outputsOf (.action weights.arch.final id) = 1

/-- Weights of a valid architecture and domain whose blocks have the shapes of their keys. -/
structure WellShaped (weights : Weights α) : Prop where
  arch_valid : (weights.arch.validate : Except (NetworkError α) Unit) = .ok ()
  domain_valid : weights.domain.validate = .ok ()
  shaped : ∀ key block, weights.get? key = some block →
    (key.shape weights.domain weights.arch : Except (NetworkError α) (Nat × Nat))
        = .ok (block.inputs, block.outputs) ∧
      block.b.length = block.outputs

/-- The shapes can be checked block by block. -/
theorem wellShaped_of_entries {weights : Weights α}
    (arch_valid : (weights.arch.validate : Except (NetworkError α) Unit) = .ok ())
    (domain_valid : weights.domain.validate = .ok ())
    (shaped : ∀ entry ∈ weights.entries,
      (entry.1.shape weights.domain weights.arch : Except (NetworkError α) (Nat × Nat))
          = .ok (entry.2.inputs, entry.2.outputs) ∧
        entry.2.b.length = entry.2.outputs) : weights.WellShaped :=
  ⟨arch_valid, domain_valid, fun _ _ h => shaped _ (mem_entries_of_get? h)⟩

theorem outputsOf_eq {weights : Weights α} {key : BlockKey} {block : WeightBlock α}
    (h : weights.get? key = some block) : weights.outputsOf key = block.outputs := by
  rw [outputsOf, h, Option.map_some, Option.getD_some]

theorem image_eq [Scalar α] {weights : Weights α} {key : BlockKey} {block : WeightBlock α}
    (h : weights.get? key = some block) (activation : Activation) (entity : List α) :
    weights.image key activation entity = block.image activation entity := by
  rw [image, h, Option.map_some, Option.getD_some]

end Weights

/-! ## The keys -/

/-- The domain has this schema or this predicate. -/
def BlockKind.KnownTo (domain : Domain) : BlockKind → Prop
  | .action id => id < domain.numSchemas
  | .predicate id => id < domain.numPredicates

/-- The layer has modules of this kind. -/
def BlockKind.InLayer (arch : Architecture) (layer : Nat) : BlockKind → Prop
  | .action _ => layer ≤ arch.final
  | .predicate _ => layer < arch.final

namespace BlockKey

variable {α : Type} {domain : Domain} {arch : Architecture} {layer id : Nat}

theorem position?_action : (action layer id).position? domain arch =
    if layer ≤ arch.final ∧ id < domain.numSchemas then some (perLayer domain * layer + id)
    else none := rfl

theorem position?_predicate : (predicate layer id).position? domain arch =
    if layer < arch.final ∧ id < domain.numPredicates then
      some (perLayer domain * layer + (domain.numSchemas + id))
    else none := rfl

theorem action_mem_all :
    action layer id ∈ all domain arch ↔ layer ≤ arch.final ∧ id < domain.numSchemas := by
  rw [mem_all, position?_action]
  split_ifs with h <;> simp [h]

theorem predicate_mem_all :
    predicate layer id ∈ all domain arch ↔ layer < arch.final ∧ id < domain.numPredicates := by
  rw [mem_all, position?_predicate]
  split_ifs with h <;> simp [h]

theorem orOutOfRange_eq_ok {β : Type} {value? : Option β} {value : β} :
    (orOutOfRange value? : Except (NetworkError α) β) = .ok value ↔ value? = some value := by
  cases value? <;> simp [orOutOfRange]

theorem mem_all_iff_known {key : BlockKey} :
    key ∈ all domain arch ↔ key.kind.InLayer arch key.layer ∧ key.kind.KnownTo domain := by
  obtain ⟨layer, kind⟩ := key
  cases kind with
  | action id => exact action_mem_all
  | predicate id => exact predicate_mem_all

theorem exists_name_of_known {key : BlockKey} (known : key.kind.KnownTo domain) :
    ∃ name, (key.name domain arch : Except (NetworkError α) String) = .ok name := by
  obtain ⟨layer, kind⟩ := key
  cases kind with
  | action id =>
    have own : domain.schemas[id]? = some domain.schemas[id] := List.getElem?_eq_getElem known
    simp [name, own]
  | predicate id =>
    have own : domain.predicates[id]? = some domain.predicates[id] := List.getElem?_eq_getElem known
    simp [name, own]

theorem exists_name {key : BlockKey} (h : key ∈ all domain arch) :
    ∃ name, (key.name domain arch : Except (NetworkError α) String) = .ok name :=
  exists_name_of_known (mem_all_iff_known.1 h).2

/-! ## The shapes of the blocks -/

theorem skipWidth_zero {width? : Nat → Option Nat} :
    (skipWidth arch width? 0 : Except (NetworkError α) Nat) = .ok 0 :=
  if_neg (by simp)

theorem skipWidth_eq_ok {width? : Nat → Option Nat} {width : Nat}
    (h : (skipWidth arch width? (layer + 1) : Except (NetworkError α) Nat) = .ok width) :
    if arch.skip then width? layer = some width else width = 0 := by
  rw [skipWidth] at h
  cases hskip : arch.skip with
  | true => simpa [hskip, orOutOfRange_eq_ok] using h
  | false => simpa [hskip, eq_comm] using h

theorem firstShape_eq_ok {inputs outputs : Nat} (inside : id < domain.numSchemas)
    (h : (shape domain arch (action 0 id) : Except (NetworkError α) _) = .ok (inputs, outputs)) :
    inputs = 2 * (domain.relevantPredicates id).length + arch.extraDim ∧
      arch.actWidth? 0 = some outputs := by
  simp only [shape, action, Nat.not_lt_zero, Nat.not_le.2 inside, if_false, if_true, ok_bind,
    pure_eq_ok] at h
  obtain ⟨width, hwidth, h⟩ := bind_eq_ok.1 h
  obtain ⟨own, hown, h⟩ := bind_eq_ok.1 h
  cases h
  exact ⟨(Size.word_eq_ok.1 hwidth).2.symm, orOutOfRange_eq_ok.1 hown⟩

theorem laterShape_eq_ok {inputs outputs : Nat} (final : layer + 1 ≤ arch.final)
    (inside : id < domain.numSchemas)
    (h : (shape domain arch (action (layer + 1) id) : Except (NetworkError α) _)
      = .ok (inputs, outputs)) :
    ∃ props skip, arch.propWidth? layer = some props ∧
      (if arch.skip then arch.actWidth? layer = some skip else skip = 0) ∧
      inputs = (domain.relevantPredicates id).length * props + skip ∧
      arch.actWidth? (layer + 1) = some outputs := by
  simp only [shape, action, Nat.not_lt.2 final, Nat.not_le.2 inside, if_false, Nat.succ_ne_zero,
    Nat.add_sub_cancel, pure_eq_ok, ok_bind] at h
  obtain ⟨skip, hskip, h⟩ := bind_eq_ok.1 h
  obtain ⟨props, hprops, h⟩ := bind_eq_ok.1 h
  obtain ⟨width, hwidth, h⟩ := bind_eq_ok.1 h
  obtain ⟨own, hown, h⟩ := bind_eq_ok.1 h
  cases h
  exact ⟨props, skip, orOutOfRange_eq_ok.1 hprops, skipWidth_eq_ok hskip,
    (Size.word_eq_ok.1 hwidth).2.symm, orOutOfRange_eq_ok.1 hown⟩

theorem predicateShape_eq_ok {inputs outputs : Nat} (hidden : layer < arch.final)
    (inside : id < domain.numPredicates)
    (h : (shape domain arch (predicate layer id) : Except (NetworkError α) _)
      = .ok (inputs, outputs)) :
    ∃ acts skip, arch.actWidth? layer = some acts ∧
      skipWidth arch arch.propWidth? layer = (.ok skip : Except (NetworkError α) Nat) ∧
      inputs = (domain.actionSlots id).length * acts + skip ∧
      arch.propWidth? layer = some outputs := by
  simp only [shape, predicate, Nat.not_le.2 hidden, Nat.not_le.2 inside, if_false, pure_eq_ok] at h
  obtain ⟨slots, hslots, h⟩ := bind_eq_ok.1 h
  obtain ⟨skip, hskip, h⟩ := bind_eq_ok.1 h
  obtain ⟨acts, hacts, h⟩ := bind_eq_ok.1 h
  obtain ⟨width, hwidth, h⟩ := bind_eq_ok.1 h
  obtain ⟨own, hown, h⟩ := bind_eq_ok.1 h
  cases h
  obtain ⟨rfl, -⟩ := Domain.relevantSlots_eq_ok.1 (mapError_eq_ok.1 hslots)
  exact ⟨acts, skip, orOutOfRange_eq_ok.1 hacts, hskip, (Size.word_eq_ok.1 hwidth).2.symm,
    orOutOfRange_eq_ok.1 hown⟩

end BlockKey

theorem total_map_of_eq {β : Type} {f : β → Nat} {n : Nat} {xs : List β} (h : ∀ x ∈ xs, f x = n) :
    Size.total (xs.map f) = xs.length * n := by
  induction xs with
  | nil => simp
  | cons x rest ih =>
    rw [List.map_cons, Size.total_cons, h x List.mem_cons_self,
      ih fun y hy => h y (List.mem_cons_of_mem _ hy), List.length_cons, Nat.succ_mul, Nat.add_comm]

namespace Weights

variable {α : Type} {weights : Weights α} {layer id : Nat}

theorem WellShaped.exists_block (h : weights.WellShaped) {key : BlockKey}
    (hkey : key ∈ weights.keys) :
    ∃ block, weights.get? key = some block ∧
      (key.shape weights.domain weights.arch : Except (NetworkError α) _)
        = .ok (block.inputs, weights.outputsOf key) ∧
      block.b.length = block.outputs := by
  obtain ⟨block, hblock⟩ := Option.isSome_iff_exists.1 (get?_isSome_iff.2 hkey)
  rw [outputsOf_eq hblock]
  exact ⟨block, hblock, h.shaped key block hblock⟩

theorem WellShaped.actWidth? (h : weights.WellShaped) (hlayer : layer ≤ weights.arch.final)
    (inside : id < weights.domain.numSchemas) :
    weights.arch.actWidth? layer = some (weights.outputsOf (.action layer id)) := by
  obtain ⟨block, -, shape, -⟩ := h.exists_block (BlockKey.action_mem_all.2 ⟨hlayer, inside⟩)
  cases layer with
  | zero => exact (BlockKey.firstShape_eq_ok inside shape).2
  | succ layer =>
    obtain ⟨_, _, -, -, -, own⟩ := BlockKey.laterShape_eq_ok hlayer inside shape
    exact own

theorem WellShaped.propWidth? (h : weights.WellShaped) (hidden : layer < weights.arch.final)
    (inside : id < weights.domain.numPredicates) :
    weights.arch.propWidth? layer = some (weights.outputsOf (.predicate layer id)) := by
  obtain ⟨block, -, shape, -⟩ := h.exists_block (BlockKey.predicate_mem_all.2 ⟨hidden, inside⟩)
  obtain ⟨_, _, -, -, -, own⟩ := BlockKey.predicateShape_eq_ok hidden inside shape
  exact own

theorem WellShaped.outputsOf_final (h : weights.WellShaped)
    (inside : id < weights.domain.numSchemas) :
    weights.outputsOf (.action weights.arch.final id) = 1 := by
  have own := h.actWidth? (Nat.le_refl _) inside
  rw [Architecture.actWidth?, if_pos rfl] at own
  exact (Option.some.inj own).symm

theorem WellShaped.outputsOf_action (h : weights.WellShaped) {sizes : LayerSizes}
    (hsizes : weights.arch.hidden[layer]? = some sizes) (inside : id < weights.domain.numSchemas) :
    weights.outputsOf (.action layer id) = sizes.act := by
  have hidden : layer < weights.arch.final := (List.getElem?_eq_some_iff.1 hsizes).1
  have own := h.actWidth? (Nat.le_of_lt hidden) inside
  rw [Architecture.actWidth?, if_neg (Nat.ne_of_lt hidden), hsizes] at own
  exact (Option.some.inj own).symm

theorem WellShaped.outputsOf_predicate (h : weights.WellShaped) {sizes : LayerSizes}
    (hsizes : weights.arch.hidden[layer]? = some sizes)
    (inside : id < weights.domain.numPredicates) :
    weights.outputsOf (.predicate layer id) = sizes.prop := by
  have own := h.propWidth? (List.getElem?_eq_some_iff.1 hsizes).1 inside
  rw [Architecture.propWidth?, hsizes] at own
  exact (Option.some.inj own).symm

theorem relevantPredicates_lt {domain : Domain} (inside : id < domain.numSchemas) {pred : Nat}
    (h : pred ∈ domain.relevantPredicates id) : pred < domain.numPredicates := by
  have hschema := List.getElem?_eq_getElem (l := domain.schemas) inside
  rw [Domain.relevantPredicates_of_getElem? hschema] at h
  obtain ⟨atom, hatom, rfl⟩ := List.mem_map.1 h
  exact Domain.predicatePosition_lt (Domain.relevant_listed (List.getElem_mem inside) hatom)

theorem actionSlots_lt {domain : Domain} {slot : Slot} (h : slot ∈ domain.actionSlots id) :
    slot.schema < domain.numSchemas := by
  obtain ⟨_, _, _, -, hschema, -⟩ := Domain.mem_actionSlots.1 h
  exact (List.getElem?_eq_some_iff.1 hschema).1

/-- What a module of an action sees has the width in the shape of its block. -/
theorem WellShaped.viewWidth_action (h : weights.WellShaped) (hlayer : layer ≤ weights.arch.final)
    (inside : id < weights.domain.numSchemas) {inputs outputs : Nat}
    (shape : ((BlockKey.action layer id).shape weights.domain weights.arch :
      Except (NetworkError α) _) = .ok (inputs, outputs)) :
    inputs = weights.viewWidth (.action layer id) := by
  rw [viewWidth, BlockKey.action]
  cases layer with
  | zero =>
    have each : ∀ pred ∈ weights.domain.relevantPredicates id, weights.propsBefore 0 pred = 2 :=
      fun _ _ => rfl
    simp [(BlockKey.firstShape_eq_ok inside shape).1, total_map_of_eq each, Nat.mul_comm]
  | succ layer =>
    obtain ⟨props, skip, hprops, hskip, rfl, -⟩ := BlockKey.laterShape_eq_ok hlayer inside shape
    have each : ∀ pred ∈ weights.domain.relevantPredicates id,
        weights.propsBefore (layer + 1) pred = props := by
      intro pred hpred
      have own := h.propWidth? hlayer (relevantPredicates_lt inside hpred)
      exact Option.some.inj (own.symm.trans hprops)
    have own := h.actWidth? (Nat.le_of_succ_le hlayer) inside
    cases hflag : weights.arch.skip with
    | true =>
      rw [hflag, if_pos rfl, own] at hskip
      simp [total_map_of_eq each, actsBefore, Option.some.inj hskip]
    | false =>
      rw [hflag, if_neg (by simp)] at hskip
      simp [total_map_of_eq each, hskip]

theorem WellShaped.viewWidth_predicate (h : weights.WellShaped)
    (hidden : layer < weights.arch.final) (inside : id < weights.domain.numPredicates)
    {inputs outputs : Nat}
    (shape : ((BlockKey.predicate layer id).shape weights.domain weights.arch :
      Except (NetworkError α) _) = .ok (inputs, outputs)) :
    inputs = weights.viewWidth (.predicate layer id) := by
  rw [viewWidth, BlockKey.predicate]
  obtain ⟨acts, skip, hacts, hskip, rfl, -⟩ := BlockKey.predicateShape_eq_ok hidden inside shape
  have each : ∀ slot ∈ weights.domain.actionSlots id,
      weights.outputsOf (.action layer slot.schema) = acts := by
    intro slot hslot
    have own := h.actWidth? (Nat.le_of_lt hidden) (actionSlots_lt hslot)
    exact Option.some.inj (own.symm.trans hacts)
  cases layer with
  | zero =>
    obtain rfl := Except.ok.inj (BlockKey.skipWidth_zero.symm.trans hskip)
    simp [total_map_of_eq each]
  | succ layer =>
    have own := h.propWidth? (Nat.lt_of_succ_lt hidden) inside
    have hskip := BlockKey.skipWidth_eq_ok hskip
    cases hflag : weights.arch.skip with
    | true =>
      rw [hflag, if_pos rfl, own] at hskip
      simp [total_map_of_eq each, propsBefore, Option.some.inj hskip]
    | false =>
      rw [hflag, if_neg (by simp)] at hskip
      simp [total_map_of_eq each, hskip]

/-- The shape of a block is the width of what its module sees and the number of its outputs. -/
theorem WellShaped.shape_eq (h : weights.WellShaped) {key : BlockKey} (hkey : key ∈ weights.keys) :
    (key.shape weights.domain weights.arch : Except (NetworkError α) _)
      = .ok (weights.viewWidth key, weights.outputsOf key) := by
  obtain ⟨block, -, shape, -⟩ := h.exists_block hkey
  obtain ⟨layer, kind⟩ := key
  cases kind with
  | action id =>
    obtain ⟨hlayer, inside⟩ := BlockKey.action_mem_all.1 hkey
    rw [shape, h.viewWidth_action hlayer inside shape]
    rfl
  | predicate id =>
    obtain ⟨hidden, inside⟩ := BlockKey.predicate_mem_all.1 hkey
    rw [shape, h.viewWidth_predicate hidden inside shape]
    rfl

theorem WellShaped.coherent (h : weights.WellShaped) : weights.Coherent where
  accepts key hkey := by
    obtain ⟨block, hblock, shape, biased⟩ := h.exists_block hkey
    rw [h.shape_eq hkey] at shape
    have inputs := (Prod.mk.inj (Except.ok.inj shape)).1
    exact ⟨block, hblock, inputs.symm, .inl biased⟩
  scores _ inside := h.outputsOf_final inside

end Weights

end SchemaNet
