import SchemaNet.Proofs.Draws
import SchemaNet.Proofs.Network.Capacity
import SchemaNet.Proofs.Network.SnapshotMatching
import SchemaNet.Proofs.Scalar.Extended

/-!
What an allocation draws. The blocks are cut, key by key, from one stream of words, and every
entry lies in the range of its own block. An allocation fails only for an architecture or a domain
that is not valid and for blocks that no memory can hold.
-/

namespace SchemaNet
open Memory (bind_eq_ok)
open WordSource (words after)

section Allocation

variable {α σ : Type} {domain : Domain} {arch : Architecture}

/-! ## Widths -/

namespace Architecture

/-- The width of the actions after a layer; there is none after the last one. -/
def actsAfter (arch : Architecture) (layer : Nat) : Nat := (arch.actWidth? layer).getD 0

def propsAfter (arch : Architecture) (layer : Nat) : Nat := (arch.propWidth? layer).getD 0

/-- What a module sees of its own entity, if the widths after the layers are `widths`. -/
def ownWidth (arch : Architecture) (widths : Nat → Nat) : (layer : Nat) → Nat
  | 0 => 0
  | layer + 1 => if arch.skip then widths layer else 0

theorem actWidth?_eq_some {layer : Nat} (inside : layer ≤ arch.final) :
    arch.actWidth? layer = some (arch.actsAfter layer) := by
  rcases Nat.lt_or_eq_of_le inside with hidden | rfl
  · rw [actsAfter, actWidth?, if_neg (Nat.ne_of_lt hidden), List.getElem?_eq_getElem hidden]
    rfl
  · rw [actsAfter, actWidth?, if_pos rfl, Option.getD_some]

theorem propWidth?_eq_some {layer : Nat} (hidden : layer < arch.final) :
    arch.propWidth? layer = some (arch.propsAfter layer) := by
  rw [propsAfter, propWidth?, List.getElem?_eq_getElem hidden]
  rfl

end Architecture

namespace BlockKey

/-- The number of inputs of a block, however many there are. -/
def numInputs (domain : Domain) (arch : Architecture) (key : BlockKey) : Nat :=
  match key.kind with
  | .action id =>
    let slots := (domain.relevantPredicates id).length
    match key.layer with
    | 0 => 2 * slots + arch.extraDim
    | layer + 1 => slots * arch.propsAfter layer + arch.ownWidth arch.actsAfter (layer + 1)
  | .predicate id =>
    (domain.actionSlots id).length * arch.actsAfter key.layer
      + arch.ownWidth arch.propsAfter key.layer

def numOutputs (arch : Architecture) (key : BlockKey) : Nat :=
  match key.kind with
  | .action _ => arch.actsAfter key.layer
  | .predicate _ => arch.propsAfter key.layer

theorem skipWidth_eq (arch : Architecture) {width? : Nat → Option Nat} {widths : Nat → Nat}
    {layer : Nat} (known : ∀ before < layer, width? before = some (widths before)) :
    (skipWidth arch width? layer : Except (NetworkError α) Nat) =
      .ok (arch.ownWidth widths layer) := by
  cases layer with
  | zero => exact skipWidth_zero
  | succ layer =>
    rw [skipWidth, Nat.add_sub_cancel, known layer (Nat.lt_succ_self layer), Architecture.ownWidth]
    cases arch.skip <;> rfl

/-- In a valid domain the shape of a block is refused only if its width is no word. -/
theorem shape_eq (valid : domain.validate = .ok ()) {key : BlockKey} (mem : key ∈ all domain arch) :
    (key.shape domain arch : Except (NetworkError α) _) =
      Size.word (key.numInputs domain arch) >>= fun inputs => .ok (inputs, key.numOutputs arch) := by
  obtain ⟨layer, kind⟩ := key
  cases kind with
  | action id =>
    obtain ⟨inside, known⟩ := action_mem_all.1 mem
    have own := Architecture.actWidth?_eq_some inside
    cases layer with
    | zero =>
      simp [shape, numInputs, numOutputs, Nat.not_le.2 known, own, orOutOfRange, pure_eq_ok, ok_bind]
    | succ layer =>
      have props := Architecture.propWidth?_eq_some inside
      have before : ∀ before < layer + 1, arch.actWidth? before = some (arch.actsAfter before) :=
        fun _ earlier => Architecture.actWidth?_eq_some (by omega)
      have skip := skipWidth_eq (α := α) arch before
      simp [shape, numInputs, numOutputs, Nat.not_le.2 known, Nat.not_lt.2 inside, own, props, skip,
        orOutOfRange, pure_eq_ok, ok_bind]
  | predicate id =>
    obtain ⟨hidden, known⟩ := predicate_mem_all.1 mem
    have filled := Domain.validate_eq_ok.1 valid _ (List.getElem_mem known)
    have slots : (domain.relevantSlots id).mapError .planning =
        (.ok (domain.actionSlots id) : Except (NetworkError α) _) :=
      mapError_eq_ok.2 (Domain.relevantSlots_eq_ok.2
        ⟨rfl, (Domain.actionSlots_ne_nil (List.getElem?_eq_getElem known)).2 filled⟩)
    have acts := Architecture.actWidth?_eq_some (Nat.le_of_lt hidden)
    have own := Architecture.propWidth?_eq_some hidden
    have before : ∀ before < layer, arch.propWidth? before = some (arch.propsAfter before) :=
      fun _ earlier => Architecture.propWidth?_eq_some (Nat.lt_trans earlier hidden)
    have skip := skipWidth_eq (α := α) arch before
    simp [shape, numInputs, numOutputs, Nat.not_le.2 known, Nat.not_le.2 hidden, slots, acts, own,
      skip, orOutOfRange, pure_eq_ok, ok_bind]

/-- The number of weights of a block. -/
def numEntries (domain : Domain) (arch : Architecture) (key : BlockKey) : Nat :=
  key.numInputs domain arch * key.numOutputs arch

def limit (α : Type) [Scalar α] (domain : Domain) (arch : Architecture) (key : BlockKey) : α :=
  WeightBlock.glorotLimit (key.numInputs domain arch) (key.numOutputs arch)

/-- The weights and the biases of the block can be held in memory. -/
def Fits (domain : Domain) (arch : Architecture) (key : BlockKey) : Prop :=
  Size.isStorable [key.numInputs domain arch, key.numOutputs arch] ∧
    Size.isStorable [key.numOutputs arch]

instance (domain : Domain) (arch : Architecture) (key : BlockKey) :
    Decidable (key.Fits domain arch) :=
  inferInstanceAs (Decidable (_ ∧ _))

theorem Fits.shape_eq_ok (valid : domain.validate = .ok ()) {key : BlockKey}
    (mem : key ∈ all domain arch) (fits : key.Fits domain arch) :
    (key.shape domain arch : Except (NetworkError α) _) =
      .ok (key.numInputs domain arch, key.numOutputs arch) := by
  have word : key.numInputs domain arch < Size.wordLimit :=
    Nat.lt_of_le_of_lt (Nat.le_add_right _ _) (Size.add_lt_wordLimit fits.1)
  rw [shape_eq valid mem, Size.word_eq_ok.2 ⟨word, rfl⟩, ok_bind]

end BlockKey

/-! ## Blocks -/

/-- A block of the shape of its key with weights from its own range and no biases. -/
structure BlockKey.Drawn [Scalar α] (domain : Domain) (arch : Architecture) (key : BlockKey)
    (block : WeightBlock α) : Prop where
  dims_eq : block.dims = [key.numInputs domain arch, key.numOutputs arch, key.numOutputs arch]
  weights : ∀ x ∈ block.w.flat, ∃ word, x = Uniform.inRange (key.limit α domain arch) word
  biases : ∀ x ∈ block.b, x = Scalar.zero

theorem BlockKey.Drawn.sizes [Scalar α] {key : BlockKey} {block : WeightBlock α}
    (drawn : key.Drawn domain arch block) :
    block.inputs = key.numInputs domain arch ∧ block.outputs = key.numOutputs arch ∧
      block.b.length = key.numOutputs arch := by
  simpa only [WeightBlock.dims, List.cons.injEq, and_true] using drawn.dims_eq

theorem WeightBlock.run_glorot [Scalar α] [WordSource σ] (inputs outputs : Nat) (before : σ) :
    ∃ block : WeightBlock α,
      (WeightBlock.glorot inputs outputs).run before = (block, after (inputs * outputs) before) ∧
      block.w.flat = (words (inputs * outputs) before).map
        (Uniform.inRange (WeightBlock.glorotLimit inputs outputs)) ∧
      block.dims = [inputs, outputs, outputs] ∧ block.b = List.replicate outputs Scalar.zero := by
  obtain ⟨drawn, last⟩ := (Uniform.symmetric_takes (α := α)
    (WeightBlock.glorotLimit inputs outputs)).many (inputs * outputs) before
  rw [← last]
  refine ⟨_, rfl, drawn, ?_, rfl⟩
  rw [dims, List.length_replicate]
  rfl

/-- A block that fits is drawn with one word for each of its weights. -/
theorem BlockKey.run_glorot [Scalar α] [WordSource σ] {key : BlockKey}
    (fits : key.Fits domain arch) (before : σ) : ∃ block : WeightBlock α,
      (Memory.glorot (key.numInputs domain arch) (key.numOutputs arch)).run.run before =
          (.ok block, after (key.numEntries domain arch) before) ∧
        block.w.flat = (words (key.numEntries domain arch) before).map
          (Uniform.inRange (key.limit α domain arch)) ∧
        key.Drawn domain arch block := by
  obtain ⟨block, ran, drawn, dims, biases⟩ := WeightBlock.run_glorot (α := α)
    (key.numInputs domain arch) (key.numOutputs arch) before
  have word := Size.word_eq_ok (α := α) |>.2 ⟨Size.add_lt_wordLimit fits.1, rfl⟩
  have held := Memory.checkBlock_eq_ok (α := α) |>.2 fits
  refine ⟨block, ?_, drawn, dims, fun x mem => ?_, fun x mem => ?_⟩
  · rw [Memory.glorot, word, held]
    refine (Stateful.run_bind_ok Stateful.run_ofExcept _).trans ?_
    refine (Stateful.run_bind_ok Stateful.run_ofExcept _).trans ?_
    exact Stateful.run_lift_eq_ok.2 ran
  · rw [drawn] at mem
    obtain ⟨word, -, rfl⟩ := List.mem_map.1 mem
    exact ⟨word, rfl⟩
  · rw [biases] at mem
    exact List.eq_of_mem_replicate mem

/-! ## The stream of an allocation -/

namespace Weights

variable [Scalar α]

def drawBlock [WordSource σ] (_ : BlockKey) (shape : Nat × Nat) : Stateful α σ (WeightBlock α) :=
  Memory.glorot shape.1 shape.2

/-- The limit of the range of each weight of the blocks of some keys. -/
def limits (α : Type) [Scalar α] (domain : Domain) (arch : Architecture) (keys : List BlockKey) :
    List α :=
  keys.flatMap fun key => List.replicate (key.numEntries domain arch) (key.limit α domain arch)

def totalEntries (domain : Domain) (arch : Architecture) (keys : List BlockKey) : Nat :=
  Size.total (keys.map fun key => key.numEntries domain arch)

theorem map_inRange (limit : α) (drawn : List UInt32) :
    drawn.map (Uniform.inRange limit) =
      List.zipWith Uniform.inRange (List.replicate drawn.length limit) drawn := by
  induction drawn with
  | nil => rfl
  | cons word rest ih => rw [List.map_cons, ih]; rfl

/-- The blocks of some keys are cut from one stream, one after another. -/
theorem run_collect_drawBlock [WordSource σ] (valid : domain.validate = .ok ())
    {keys : List BlockKey} (known : ∀ key ∈ keys, key ∈ BlockKey.all domain arch)
    (fits : ∀ key ∈ keys, key.Fits domain arch) (before : σ) :
    ∃ results, (collect (ofShape domain arch (drawBlock (α := α))) keys).run.run before =
        (.ok results, after (totalEntries domain arch keys) before) ∧
      List.Forall₂ (BlockKey.Drawn domain arch) keys results.1 ∧
      (results.1.flatMap fun block => block.w.flat) = List.zipWith Uniform.inRange
        (limits α domain arch keys) (words (totalEntries domain arch keys) before) := by
  induction keys generalizing before with
  | nil => exact ⟨⟨[], rfl⟩, rfl, .nil, rfl⟩
  | cons key rest ih =>
    have shape := (fits key List.mem_cons_self).shape_eq_ok (α := α) valid
      (known key List.mem_cons_self)
    obtain ⟨block, ran, flat, drawn⟩ :=
      BlockKey.run_glorot (α := α) (fits key List.mem_cons_self) before
    obtain ⟨results, later, others, entries⟩ := ih
      (fun other mem => known other (List.mem_cons_of_mem _ mem))
      (fun other mem => fits other (List.mem_cons_of_mem _ mem))
      (after (key.numEntries domain arch) before)
    have first : (ofShape domain arch (drawBlock (α := α)) key).run.run before =
        (.ok block, after (key.numEntries domain arch) before) := (run_ofShape shape).trans ran
    have total : totalEntries domain arch (key :: rest) =
        key.numEntries domain arch + totalEntries domain arch rest := rfl
    rw [← WordSource.after_add, ← total] at later
    refine ⟨_, run_collect_cons first later, .cons drawn others, ?_⟩
    rw [List.flatMap_cons, entries, flat, map_inRange, WordSource.length_words, total,
      WordSource.words_add, limits, limits, List.flatMap_cons,
      List.zipWith_append (by rw [List.length_replicate, WordSource.length_words])]

/-- Weights that are cut from the stream of a seed. -/
structure CutFrom (seed : UInt64) (weights : Weights α) : Prop where
  drawn : List.Forall₂ (BlockKey.Drawn weights.domain weights.arch) weights.keys weights.blocks
  entries : (weights.blocks.flatMap fun block => block.w.flat) =
    List.zipWith Uniform.inRange (limits α weights.domain weights.arch weights.keys)
      (words (totalEntries weights.domain weights.arch weights.keys) (Generator.ofSeed seed))

theorem allocate_of_fits (seed : UInt64)
    (arch_valid : (arch.validate : Except (NetworkError α) Unit) = .ok ())
    (valid : domain.validate = .ok ())
    (fits : ∀ key ∈ BlockKey.all domain arch, key.Fits domain arch) :
    ∃ weights : Weights α, allocate domain arch seed = .ok weights ∧ weights.CutFrom seed ∧
      weights.domain = domain ∧ weights.arch = arch := by
  obtain ⟨results, ran, drawn, entries⟩ := run_collect_drawBlock (α := α) valid
    (fun _ mem => mem) fits (Generator.ofSeed seed)
  have built := run_build arch_valid valid ran
  exact ⟨_, (Prod.mk.inj built).1, ⟨drawn, entries⟩, rfl, rfl⟩

theorem fits_of_allocate {seed : UInt64} {weights : Weights α}
    (h : allocate domain arch seed = .ok weights) :
    ∀ key ∈ BlockKey.all domain arch, key.Fits domain arch := by
  have each : domain.validate = .ok () → ∀ key ∈ BlockKey.all domain arch, ∀ shape,
      (key.shape domain arch : Except (NetworkError α) _) = .ok shape →
        (drawBlock key shape : Stateful α Generator _).Ensures fun _ => key.Fits domain arch := by
    intro valid key mem shape hshape
    rw [BlockKey.shape_eq valid mem] at hshape
    obtain ⟨inputs, word, same⟩ := bind_eq_ok.1 hshape
    obtain ⟨-, rfl⟩ := Size.word_eq_ok.1 word
    obtain rfl := Except.ok.inj same
    refine .bind (.any _) fun _ _ => .bind (.ofExcept fun _ h => h) fun _ checked => ?_
    exact (Stateful.Ensures.any _).imp fun _ _ => Memory.checkBlock_eq_ok.1 checked
  obtain ⟨-, -, -, -, all⟩ :=
    build_ensures_each each (Generator.ofSeed seed) weights _ (Prod.ext h rfl)
  intro key mem
  obtain ⟨_, -, fits⟩ := forall₂_mem_left all mem
  exact fits

/-- Whether an allocation succeeds does not depend on the seed. -/
theorem exists_allocate_iff {seed : UInt64} :
    (∃ weights : Weights α, allocate domain arch seed = .ok weights) ↔
      (∀ sizes ∈ arch.hidden, sizes.act ≠ 0 ∧ sizes.prop ≠ 0) ∧
        (∀ predicate ∈ domain.predicates, domain.Fills predicate) ∧
        ∀ key ∈ BlockKey.all domain arch, key.Fits domain arch := by
  constructor
  · rintro ⟨weights, h⟩
    obtain ⟨rfl, rfl, shaped⟩ := allocate_wellShaped h
    exact ⟨Architecture.validate_eq_ok.1 shaped.arch_valid,
      Domain.validate_eq_ok.1 shaped.domain_valid, fits_of_allocate h⟩
  · rintro ⟨widths, slots, fits⟩
    obtain ⟨weights, h, -⟩ := allocate_of_fits (α := α) seed
      (Architecture.validate_eq_ok.2 widths) (Domain.validate_eq_ok.2 slots) fits
    exact ⟨weights, h⟩

theorem allocate_cutFrom {seed : UInt64} {weights : Weights α}
    (h : allocate domain arch seed = .ok weights) :
    weights.CutFrom seed ∧ weights.domain = domain ∧ weights.arch = arch := by
  obtain ⟨rfl, rfl, shaped⟩ := allocate_wellShaped h
  obtain ⟨other, same, cut, -⟩ := allocate_of_fits (α := α) seed shaped.arch_valid
    shaped.domain_valid (fits_of_allocate h)
  obtain rfl := Except.ok.inj (h.symm.trans same)
  exact ⟨cut, rfl, rfl⟩

theorem CutFrom.numParams_eq {seed : UInt64} {weights : Weights α} (h : weights.CutFrom seed) :
    weights.numParams = Size.total (weights.keys.map fun key =>
      (key.numInputs weights.domain weights.arch + 1) * key.numOutputs weights.arch) := by
  refine congrArg Size.total (map_eq_map_of_forall₂ h.drawn fun key block drawn => ?_).symm
  obtain ⟨inputs, outputs, biases⟩ := drawn.sizes
  rw [WeightBlock.numParams, biases, block.w.size, Nat.add_mul, Nat.one_mul, ← inputs, ← outputs]
  rfl

end Weights

/-! ## Ranges -/

namespace Extended

theorem isFinite_glorotLimit {inputs outputs : Nat} (some : 0 < inputs + outputs) :
    (WeightBlock.glorotLimit inputs outputs : Extended).isFinite = true ∧
      (WeightBlock.glorotLimit inputs outputs : Extended).toReal =
        √(6 / (inputs + outputs : Nat)) := by
  have apart : ((inputs + outputs : Nat) : NNReal) ≠ 0 := Nat.cast_ne_zero.2 some.ne'
  have quotient : (Scalar.ofNat 6 / Scalar.ofNat (inputs + outputs) : Extended) =
      ofNNReal (6 / (inputs + outputs : Nat)) := ofNNReal_div _ apart
  rw [WeightBlock.glorotLimit, quotient]
  refine ⟨rfl, ?_⟩
  show (sqrt (ofNNReal _)).toReal = _
  simp [sqrt, ofNNReal, toReal]

/-- The leading bits of a word are a fraction of one. -/
theorem isFinite_fraction {bits : Nat} (most : bits ≤ 32) (word : UInt32) :
    (Uniform.fraction bits word : Extended).isFinite = true ∧
      0 ≤ (Uniform.fraction bits word : Extended).toReal ∧
      (Uniform.fraction bits word : Extended).toReal ≤ 1 := by
  have apart : ((2 ^ bits : Nat) : NNReal) ≠ 0 := Nat.cast_ne_zero.2 (by positivity)
  have quotient : (Uniform.fraction bits word : Extended) =
      ofNNReal ((word.toNat >>> (32 - bits) : Nat) / (2 ^ bits : Nat)) := ofNNReal_div _ apart
  have below : word.toNat >>> (32 - bits) ≤ 2 ^ bits := by
    rw [Nat.shiftRight_eq_div_pow]
    refine Nat.div_le_of_le_mul ?_
    rw [← pow_add, Nat.sub_add_cancel most]
    exact word.toNat_lt.le
  rw [quotient]
  refine ⟨rfl, NNReal.coe_nonneg _, ?_⟩
  rw [toReal_ofNNReal, NNReal.coe_le_one]
  exact div_le_one_of_le₀ (Nat.cast_le.2 below) zero_le

/-- A draw lies in the closed range around zero. -/
theorem inRange_bounds {limit : Extended} (finite : limit.isFinite = true)
    (nonneg : 0 ≤ limit.toReal) (word : UInt32) :
    (Uniform.inRange limit word).isFinite = true ∧
      |(Uniform.inRange limit word).toReal| ≤ limit.toReal := by
  have short : 23 ≤ 32 := by decide
  obtain ⟨fraction, least, most⟩ := isFinite_fraction short word
  have negative := isFinite_neg finite
  obtain ⟨width, width_eq⟩ := isFinite_sub finite negative
  obtain ⟨product, product_eq⟩ := isFinite_mul fraction width
  obtain ⟨sum, sum_eq⟩ := isFinite_add product negative
  refine ⟨sum, ?_⟩
  rw [Uniform.inRange, sum_eq, product_eq, width_eq, toReal_neg, abs_le]
  constructor <;> nlinarith

theorem bounds_of_drawn {domain : Domain} {arch : Architecture} {key : BlockKey}
    {block : WeightBlock Extended} (drawn : key.Drawn domain arch block) :
    ∀ x ∈ block.w.flat, x.isFinite = true ∧
      |x.toReal| ≤ √(6 / (key.numInputs domain arch + key.numOutputs arch : Nat)) := by
  intro x mem
  obtain ⟨inputs, outputs, -⟩ := drawn.sizes
  have size : 0 < key.numInputs domain arch * key.numOutputs arch := by
    rw [← inputs, ← outputs]
    exact block.w.size ▸ List.length_pos_of_mem mem
  have some : 0 < key.numInputs domain arch + key.numOutputs arch :=
    Nat.add_pos_left (Nat.pos_of_mul_pos_right size) _
  obtain ⟨finite, limit_eq⟩ := isFinite_glorotLimit some
  obtain ⟨word, rfl⟩ := drawn.weights x mem
  have nonneg : 0 ≤ (key.limit Extended domain arch).toReal := by
    rw [BlockKey.limit, limit_eq]
    exact Real.sqrt_nonneg _
  have bounds := inRange_bounds finite nonneg word
  rwa [limit_eq] at bounds

end Extended

/-- An allocation succeeds for positive widths and filled predicates, as long as the blocks can be
held. Its blocks then hold, key by key and in row-major order, the first words of the seed's stream
in the ranges of their own shapes, and no biases; in exact arithmetic every weight lies in the
closed range of its block. -/
theorem Weights.allocation_draws (α : Type) [Scalar α] (domain : Domain) (arch : Architecture)
    (seed : UInt64) :
    ((∃ weights : Weights α, allocate domain arch seed = .ok weights) ↔
      (∀ sizes ∈ arch.hidden, sizes.act ≠ 0 ∧ sizes.prop ≠ 0) ∧
        (∀ predicate ∈ domain.predicates, domain.Fills predicate) ∧
        ∀ key ∈ BlockKey.all domain arch, key.Fits domain arch) ∧
    (∀ weights : Weights α, allocate domain arch seed = .ok weights →
      weights.domain = domain ∧ weights.arch = arch ∧
      List.Forall₂ (fun key block =>
          (key.shape domain arch : Except (NetworkError α) (Nat × Nat)) =
              .ok (key.numInputs domain arch, key.numOutputs arch) ∧
            block.dims = [key.numInputs domain arch, key.numOutputs arch, key.numOutputs arch] ∧
            ∀ x ∈ block.b, x = Scalar.zero)
        weights.keys weights.blocks ∧
      (weights.blocks.flatMap fun block => block.w.flat) =
        List.zipWith Uniform.inRange
          (weights.keys.flatMap fun key =>
            List.replicate (key.numInputs domain arch * key.numOutputs arch)
              (WeightBlock.glorotLimit (key.numInputs domain arch) (key.numOutputs arch)))
          (words (Size.total (weights.keys.map fun key =>
              key.numInputs domain arch * key.numOutputs arch)) (Generator.ofSeed seed)) ∧
      weights.numParams = Size.total (weights.keys.map fun key =>
        (key.numInputs domain arch + 1) * key.numOutputs arch)) ∧
    ∀ weights : Weights Extended, allocate domain arch seed = .ok weights →
      List.Forall₂ (fun key block => ∀ x ∈ block.w.flat, x.isFinite = true ∧
          |x.toReal| ≤ √(6 / (key.numInputs domain arch + key.numOutputs arch : Nat)))
        weights.keys weights.blocks := by
  refine ⟨exists_allocate_iff, fun weights h => ?_, fun weights h => ?_⟩
  · obtain ⟨cut, rfl, rfl⟩ := allocate_cutFrom h
    obtain ⟨-, -, shaped⟩ := allocate_wellShaped h
    refine ⟨rfl, rfl, ?_, cut.entries, cut.numParams_eq⟩
    refine forall₂_imp_mem cut.drawn fun key mem block drawn => ⟨?_, drawn.dims_eq, drawn.biases⟩
    exact (fits_of_allocate h key mem).shape_eq_ok shaped.domain_valid mem
  · obtain ⟨cut, rfl, rfl⟩ := allocate_cutFrom h
    exact cut.drawn.imp fun key block => Extended.bounds_of_drawn

end Allocation

namespace WalkDomain

/-- The seven blocks take the first 22 words. -/
theorem walks_drawn :
    (∀ predicate ∈ domain.predicates, domain.Fills predicate) ∧
      (∀ key ∈ BlockKey.all domain arch, key.Fits domain arch) ∧
      ∃ weights : Weights Whole, Weights.allocate domain arch 7 = .ok weights ∧
        (weights.blocks.flatMap fun block => block.w.flat) = List.zipWith Uniform.inRange
          (weights.keys.flatMap fun key =>
            List.replicate (key.numInputs domain arch * key.numOutputs arch)
              (WeightBlock.glorotLimit (key.numInputs domain arch) (key.numOutputs arch)))
          (words 22 (Generator.ofSeed 7)) ∧
        weights.numParams = 29 := by
  have filled : ∀ predicate ∈ domain.predicates, domain.Fills predicate :=
    Domain.validate_eq_ok.1 (by decide)
  have fits : ∀ key ∈ BlockKey.all domain arch, key.Fits domain arch := by decide
  obtain ⟨allocated, cut, -⟩ := Weights.allocation_draws Whole domain arch 7
  obtain ⟨weights, h⟩ := allocated.2 ⟨by decide, filled, fits⟩
  obtain ⟨own, layers, -, entries, params⟩ := cut weights h
  have keys : weights.keys = BlockKey.all domain arch := by rw [Weights.keys, own, layers]
  rw [keys] at entries params
  refine ⟨filled, fits, weights, h, ?_, params⟩
  rw [keys]
  exact entries

end WalkDomain

end SchemaNet
