import SchemaNet.Proofs.Network.AllocationDraws
import SchemaNet.Proofs.Network.BlockLookup
import SchemaNet.Proofs.Network.ForeignSnapshots

/-!
Weights kept in rows, as they are made: a row of action blocks for each layer and a row of predicate
blocks for each layer but the last. The keys, the rows, the shapes and the names are four
enumerations with range conditions of their own. They all enumerate the blocks of the weights, each
block once.
-/

namespace SchemaNet

structure LayeredBlocks (α : Type) where
  acts : List (List (WeightBlock α))
  props : List (List (WeightBlock α))

namespace LayeredBlocks

variable {α σ : Type} {m : Type → Type} {domain : Domain} {arch : Architecture}

def get? (layered : LayeredBlocks α) (key : BlockKey) : Option (WeightBlock α) :=
  match key.kind with
  | .action id => layered.acts[key.layer]?.bind (·[id]?)
  | .predicate id => layered.props[key.layer]?.bind (·[id]?)

/-- The blocks with their keys; a key without a block is skipped. -/
def entries (layered : LayeredBlocks α) (keys : List BlockKey) : List (BlockKey × WeightBlock α) :=
  keys.filterMap fun key => (layered.get? key).map (key, ·)

def numBlocks (layered : LayeredBlocks α) : Nat :=
  Size.total ((layered.acts ++ layered.props).map List.length)

/-- Makes the blocks of one more layer; the output layer has no predicates. -/
def makeLayer [Monad m] (domain : Domain) (arch : Architecture) (make : BlockKey → m (WeightBlock α))
    (layered : LayeredBlocks α) (layer : Nat) : m (LayeredBlocks α) := do
  let acts ← ((List.range domain.numSchemas).map (.action layer)).mapM make
  if layer < arch.final then
    let props ← ((List.range domain.numPredicates).map (.predicate layer)).mapM make
    return ⟨layered.acts ++ [acts], layered.props ++ [props]⟩
  else
    return ⟨layered.acts ++ [acts], layered.props⟩

def makeLayers [Monad m] (domain : Domain) (arch : Architecture)
    (make : BlockKey → m (WeightBlock α)) (count : Nat) : m (LayeredBlocks α) :=
  (List.range count).foldlM (makeLayer domain arch make) ⟨[], []⟩

def build (domain : Domain) (arch : Architecture)
    (make : BlockKey → Nat × Nat → Stateful α σ (WeightBlock α)) :
    Stateful α σ (LayeredBlocks α) := do
  Stateful.ofExcept arch.validate
  Stateful.ofExcept (domain.validate.mapError .planning)
  makeLayers domain arch (Weights.ofShape domain arch make) (arch.final + 1)

def allocate [Scalar α] (domain : Domain) (arch : Architecture) (seed : UInt64) :
    Except (NetworkError α) (LayeredBlocks α) :=
  ((build domain arch Weights.drawBlock).run (Generator.ofSeed seed)).1

def restore (snapshot : Snapshot α) (domain : Domain) (arch : Architecture) :
    Except (NetworkError α) (LayeredBlocks α) := do
  if snapshot.domain ≠ domain then
    throw (.domainMismatch domain.name snapshot.domain.name)
  match (build domain arch (Snapshot.takeBlock domain arch)).run snapshot.blocks with
  | (.error fault, _) => throw fault
  | (.ok layered, remaining) =>
    match remaining.names with
    | [] => return layered
    | name :: _ => throw (.unexpectedBlock name)

/-! ## Rows cut out of a list -/

/-- The same part of each stretch of `width` blocks. -/
def cut (width offset count layers : Nat) (blocks : List (WeightBlock α)) :
    List (List (WeightBlock α)) :=
  (List.range layers).map fun layer => (blocks.drop (width * layer + offset)).take count

variable {blocks acts props : List (WeightBlock α)} {width offset count layers layer : Nat}

theorem cut_append (more : List (WeightBlock α)) (size : blocks.length = width * layers)
    (inside : offset + count ≤ width) :
    cut width offset count layers (blocks ++ more) = cut width offset count layers blocks := by
  refine List.map_congr_left fun layer before => ?_
  have next : width * layer + width ≤ width * layers := by
    rw [← Nat.mul_succ]
    exact Nat.mul_le_mul_left _ (List.mem_range.1 before)
  rw [List.drop_append_of_le_length (by omega), List.take_append_of_le_length]
  rw [List.length_drop]
  omega

theorem cut_succ (more : List (WeightBlock α)) (size : blocks.length = width * layers)
    (inside : offset + count ≤ width) :
    cut width offset count (layers + 1) (blocks ++ more) =
      cut width offset count layers blocks ++ [(more.drop offset).take count] := by
  have behind : (blocks ++ more).drop (width * layers + offset) = more.drop offset := by
    rw [← size, List.drop_length_add_append]
  rw [← cut_append more size inside, cut, cut, List.range_succ, List.map_append, List.map_singleton,
    behind]

theorem cut_getElem? (blocks : List (WeightBlock α)) (layers layer id : Nat) :
    (cut width offset count layers blocks)[layer]?.bind (·[id]?) =
      if layer < layers ∧ id < count then blocks[width * layer + (offset + id)]? else none := by
  by_cases before : layer < layers
  · have row : (cut width offset count layers blocks)[layer]? =
        some ((blocks.drop (width * layer + offset)).take count) := by
      rw [cut, List.getElem?_map, List.getElem?_range before, Option.map_some]
    rw [row, Option.bind_some, List.getElem?_take, List.getElem?_drop, Nat.add_assoc]
    exact if_congr (and_iff_right before).symm rfl rfl
  · have none : (cut width offset count layers blocks)[layer]? = none :=
      List.getElem?_eq_none (by rw [cut, List.length_map, List.length_range]; omega)
    rw [none, if_neg fun inside => before inside.1]
    rfl

theorem cut_total (room : ∀ layer < layers, width * layer + offset + count ≤ blocks.length) :
    Size.total ((cut width offset count layers blocks).map List.length) = layers * count := by
  have each : ∀ row ∈ cut width offset count layers blocks, row.length = count := by
    intro row mem
    obtain ⟨layer, before, rfl⟩ := List.mem_map.1 mem
    have fits := room layer (List.mem_range.1 before)
    rw [List.length_take, List.length_drop]
    omega
  rw [total_map_of_eq each, cut, List.length_map, List.length_range]

/-! ## The rows of weights -/

/-- The rows of the first layers, with the blocks in the order of their keys. -/
def rows (domain : Domain) (arch : Architecture) (layers : Nat) (blocks : List (WeightBlock α)) :
    LayeredBlocks α where
  acts := cut (BlockKey.perLayer domain) 0 domain.numSchemas layers blocks
  props := cut (BlockKey.perLayer domain) domain.numSchemas domain.numPredicates
    (min layers arch.final) blocks

def ofWeights (weights : Weights α) : LayeredBlocks α :=
  rows weights.domain weights.arch (weights.arch.final + 1) weights.blocks

theorem acts_fit (domain : Domain) : 0 + domain.numSchemas ≤ BlockKey.perLayer domain := by
  rw [BlockKey.perLayer]
  omega

theorem rows_hidden (hidden : layer < arch.final)
    (size : blocks.length = BlockKey.perLayer domain * layer)
    (acts_size : acts.length = domain.numSchemas) (props_size : props.length = domain.numPredicates) :
    rows domain arch (layer + 1) (blocks ++ (acts ++ props)) =
      ⟨(rows domain arch layer blocks).acts ++ [acts],
        (rows domain arch layer blocks).props ++ [props]⟩ := by
  have acts_row : ((acts ++ props).drop 0).take domain.numSchemas = acts := by
    rw [List.drop_zero, ← acts_size, List.take_left]
  have props_row : ((acts ++ props).drop domain.numSchemas).take domain.numPredicates = props := by
    rw [← acts_size, List.drop_left, ← props_size, List.take_length]
  rw [rows, rows, Nat.min_eq_left hidden, Nat.min_eq_left (Nat.le_of_lt hidden),
    cut_succ _ size (acts_fit domain), cut_succ _ size (Nat.le_refl _), acts_row, props_row]

theorem rows_final (size : blocks.length = BlockKey.perLayer domain * arch.final)
    (acts_size : acts.length = domain.numSchemas) :
    rows domain arch (arch.final + 1) (blocks ++ acts) =
      ⟨(rows domain arch arch.final blocks).acts ++ [acts],
        (rows domain arch arch.final blocks).props⟩ := by
  have acts_row : (acts.drop 0).take domain.numSchemas = acts := by
    rw [List.drop_zero, ← acts_size, List.take_length]
  rw [rows, rows, Nat.min_eq_right (Nat.le_succ _), Nat.min_self, cut_succ _ size (acts_fit domain),
    cut_append _ size (Nat.le_refl _), acts_row]

theorem get?_ofWeights (weights : Weights α) (key : BlockKey) :
    (ofWeights weights).get? key = weights.get? key := by
  obtain ⟨layer, kind⟩ := key
  cases kind with
  | action id =>
    show (cut _ _ _ _ weights.blocks)[layer]?.bind (·[id]?) =
      (BlockKey.position? weights.domain weights.arch (.action layer id)).bind (weights.blocks[·]?)
    rw [cut_getElem?, BlockKey.position?_action, Nat.zero_add]
    simp only [Nat.lt_succ_iff]
    split <;> rfl
  | predicate id =>
    show (cut _ _ _ _ weights.blocks)[layer]?.bind (·[id]?) =
      (BlockKey.position? weights.domain weights.arch (.predicate layer id)).bind
        (weights.blocks[·]?)
    rw [cut_getElem?, BlockKey.position?_predicate, Nat.min_eq_right (Nat.le_succ _)]
    split <;> rfl

theorem numBlocks_ofWeights (weights : Weights α) :
    (ofWeights weights).numBlocks = weights.keys.length := by
  obtain ⟨domain, arch, blocks, aligned⟩ := weights
  have size : blocks.length = BlockKey.perLayer domain * arch.final + domain.numSchemas := by
    rw [aligned, BlockKey.all_length, Nat.mul_comm]
  have acts : Size.total ((cut (BlockKey.perLayer domain) 0 domain.numSchemas (arch.final + 1)
      blocks).map List.length) = (arch.final + 1) * domain.numSchemas := by
    refine cut_total fun layer inside => ?_
    have before := Nat.mul_le_mul_left (BlockKey.perLayer domain) (Nat.lt_succ_iff.1 inside)
    omega
  have props : Size.total ((cut (BlockKey.perLayer domain) domain.numSchemas domain.numPredicates
      arch.final blocks).map List.length) = arch.final * domain.numPredicates := by
    refine cut_total fun layer inside => ?_
    have before : BlockKey.perLayer domain * layer + BlockKey.perLayer domain ≤
        BlockKey.perLayer domain * arch.final := Nat.mul_le_mul_left (BlockKey.perLayer domain) inside
    have both : BlockKey.perLayer domain = domain.numSchemas + domain.numPredicates := rfl
    omega
  show Size.total (List.map List.length (cut _ _ _ _ blocks ++ cut _ _ _ _ blocks)) =
    (BlockKey.all domain arch).length
  rw [Nat.min_eq_right (Nat.le_succ _), List.map_append, Size.total_append, acts, props,
    BlockKey.all_length, BlockKey.perLayer, Nat.succ_mul, Nat.mul_add]
  omega

/-! ## Making the blocks -/

section Lawful

variable [Monad m] [LawfulMonad m] (make : BlockKey → m (WeightBlock α))

/-- One layer, when the layers before it lie in their rows. -/
theorem makeLayer_rows (size : blocks.length = BlockKey.perLayer domain * layer)
    (inside : layer ≤ arch.final) :
    makeLayer domain arch make (rows domain arch layer blocks) layer =
      (fun more => rows domain arch (layer + 1) (blocks ++ more)) <$>
        (BlockKey.ofLayer domain arch layer).mapM make := by
  have acts_made := Weights.mapM_eq_collect make
    ((List.range domain.numSchemas).map (BlockKey.action layer))
  have props_made := Weights.mapM_eq_collect make
    ((List.range domain.numPredicates).map (BlockKey.predicate layer))
  rcases Nat.lt_or_eq_of_le inside with hidden | rfl
  · simp only [makeLayer, BlockKey.ofLayer, if_pos hidden, List.mapM_append, acts_made, props_made,
      bind_map_left, map_bind, map_pure]
    refine bind_congr fun acts => bind_congr fun props => congrArg pure ?_
    rw [rows_hidden hidden size]
    · simpa using acts.2
    · simpa using props.2
  · simp only [makeLayer, BlockKey.ofLayer, if_neg (Nat.lt_irrefl _), List.append_nil, acts_made,
      bind_map_left]
    rw [← bind_pure_comp, bind_map_left]
    refine bind_congr fun acts => congrArg pure ?_
    rw [rows_final size]
    simpa using acts.2

/-- The rows hold the blocks that are made for the keys one after another. -/
theorem makeLayers_eq {layers : Nat} (inside : layers ≤ arch.final + 1) :
    makeLayers domain arch make layers = rows domain arch layers <$>
      ((List.range layers).flatMap (BlockKey.ofLayer domain arch)).mapM make := by
  induction layers with
  | zero =>
    show pure (⟨[], []⟩ : LayeredBlocks α) = rows domain arch 0 <$> pure []
    rw [map_pure, rows, Nat.zero_min]
    rfl
  | succ layers ih =>
    have hidden : layers ≤ arch.final := Nat.le_of_succ_le_succ inside
    have before := Weights.mapM_eq_collect make
      ((List.range layers).flatMap (BlockKey.ofLayer domain arch))
    have last : makeLayers domain arch make (layers + 1) =
        makeLayers domain arch make layers >>= (makeLayer domain arch make · layers) := by
      simp only [makeLayers, List.range_succ, List.foldlM_append, List.foldlM_cons,
        List.foldlM_nil, bind_pure]
    rw [last, ih (Nat.le_succ_of_le hidden), List.range_succ, List.flatMap_append,
      List.flatMap_singleton, List.mapM_append, before, Functor.map_map, bind_map_left, map_bind,
      bind_map_left]
    refine bind_congr fun made => ?_
    have size := (made.2.trans (BlockKey.hidden_length hidden)).trans (Nat.mul_comm _ _)
    rw [makeLayer_rows make size hidden, map_bind, ← bind_pure_comp]
    simp only [map_pure]

end Lawful

/-- A build succeeds and fails as one without rows, with the same error. -/
theorem build_eq (make : BlockKey → Nat × Nat → Stateful α σ (WeightBlock α)) :
    build domain arch make = ofWeights <$> Weights.build domain arch make := by
  unfold build Weights.build
  rw [map_bind, makeLayers_eq _ (Nat.le_refl _), Weights.mapM_eq_collect, Functor.map_map]
  refine bind_congr fun _ => ?_
  rw [map_bind]
  refine bind_congr fun _ => ?_
  rw [map_bind, ← bind_pure_comp]
  rfl

theorem allocate_eq [Scalar α] (domain : Domain) (arch : Architecture) (seed : UInt64) :
    (allocate domain arch seed : Except (NetworkError α) _) =
      (Weights.allocate domain arch seed).map ofWeights := by
  rw [allocate, build_eq]
  exact congrArg Prod.fst
    (Stateful.run_map ofWeights (Weights.build domain arch Weights.drawBlock) _)

theorem restore_eq (snapshot : Snapshot α) (domain : Domain) (arch : Architecture) :
    restore snapshot domain arch = (snapshot.restore domain arch).map ofWeights := by
  have ran : (build domain arch (Snapshot.takeBlock domain arch)).run snapshot.blocks =
      (((Weights.build domain arch (Snapshot.takeBlock domain arch)).run snapshot.blocks).1.map
          ofWeights,
        ((Weights.build domain arch (Snapshot.takeBlock domain arch)).run snapshot.blocks).2) := by
    rw [build_eq]
    exact Stateful.run_map ofWeights _ _
  unfold restore Snapshot.restore
  dsimp only
  split
  · rfl
  · rw [ran]
    rcases (Weights.build domain arch (Snapshot.takeBlock domain arch)).run snapshot.blocks
      with ⟨fault | weights, remaining⟩
    · rfl
    · show (match remaining.names with | [] => _ | name :: _ => _) =
        Except.map ofWeights (match remaining.names with | [] => _ | name :: _ => _)
      rcases remaining.names with _ | ⟨name, _⟩ <;> rfl

end LayeredBlocks

/-! ## The enumerations -/

theorem BlockKey.mem_all_of_shape {α : Type} {domain : Domain} {arch : Architecture}
    {key : BlockKey} {widths : Nat × Nat}
    (h : (key.shape domain arch : Except (NetworkError α) (Nat × Nat)) = .ok widths) :
    key ∈ all domain arch := by
  obtain ⟨layer, kind⟩ := key
  cases kind with
  | action id =>
    rw [BlockKey.shape] at h
    dsimp only at h
    split at h
    · cases h
    · next inside =>
      refine action_mem_all.2 ⟨Nat.not_lt.1 inside, Nat.not_le.1 fun unknown => ?_⟩
      rw [if_pos unknown] at h
      cases h
  | predicate id =>
    rw [BlockKey.shape] at h
    dsimp only at h
    split at h
    · cases h
    · next inside =>
      refine predicate_mem_all.2 ⟨Nat.not_le.1 inside, Nat.not_le.1 fun unknown => ?_⟩
      rw [if_pos unknown] at h
      cases h

namespace Weights

variable {α : Type} {weights : Weights α} {layered : LayeredBlocks α}

/-- The keys, the rows, the shapes and the names enumerate the same blocks. -/
structure EnumeratedBy (weights : Weights α) (layered : LayeredBlocks α) : Prop where
  keys_nodup : weights.keys.Nodup
  key_iff : ∀ key, key ∈ weights.keys ↔
    key.kind.InLayer weights.arch key.layer ∧ key.kind.KnownTo weights.domain
  found_iff : ∀ key, (layered.get? key).isSome ↔ key ∈ weights.keys
  shape_iff : ∀ key, (∃ shape, (key.shape weights.domain weights.arch :
    Except (NetworkError α) (Nat × Nat)) = .ok shape) ↔ key ∈ weights.keys
  shaped : ∀ key block, layered.get? key = some block →
    (key.shape weights.domain weights.arch : Except (NetworkError α) (Nat × Nat)) =
        .ok (block.inputs, block.outputs) ∧
      block.b.length = block.outputs
  same_block : ∀ key, layered.get? key = weights.get? key
  same_entries : layered.entries weights.keys = weights.entries
  none_skipped : (layered.entries weights.keys).map (·.1) = weights.keys
  numBlocks_eq : layered.numBlocks = weights.keys.length ∧ weights.numBlocks = weights.keys.length
  named : ∀ key, key.kind.KnownTo weights.domain → ∃ name, weights.nameOf key = .ok name
  names_apart : ∀ key other name, weights.nameOf key = .ok name → weights.nameOf other = .ok name →
    key = other

theorem entries_ofWeights (weights : Weights α) :
    (LayeredBlocks.ofWeights weights).entries weights.keys = weights.entries := by
  have each : ∀ entry ∈ weights.entries,
      ((LayeredBlocks.ofWeights weights).get? entry.1).map (entry.1, ·) = some entry := by
    intro entry mem
    rw [LayeredBlocks.get?_ofWeights, get?_of_mem_entries mem]
    rfl
  rw [LayeredBlocks.entries, ← entries_keys, List.filterMap_map]
  exact (List.filterMap_congr each).trans List.filterMap_some

theorem WellShaped.enumeratedBy (shaped : weights.WellShaped) :
    weights.EnumeratedBy (LayeredBlocks.ofWeights weights) where
  keys_nodup := BlockKey.all_nodup _ _
  key_iff _ := BlockKey.mem_all_iff_known
  found_iff key := by rw [LayeredBlocks.get?_ofWeights, get?_isSome_iff]
  shape_iff key := by
    refine ⟨fun ⟨_, h⟩ => BlockKey.mem_all_of_shape h, fun mem => ?_⟩
    obtain ⟨block, -, shape, -⟩ := shaped.exists_block mem
    exact ⟨_, shape⟩
  shaped key block found := shaped.shaped key block (LayeredBlocks.get?_ofWeights weights key ▸ found)
  same_block := LayeredBlocks.get?_ofWeights weights
  same_entries := entries_ofWeights weights
  none_skipped := by rw [entries_ofWeights, entries_keys]
  numBlocks_eq := ⟨LayeredBlocks.numBlocks_ofWeights weights, weights.aligned⟩
  named _ := BlockKey.exists_name_of_known
  names_apart _ _ _ := BlockKey.name_inj

theorem enumeratedBy_of_restore {snapshot : Snapshot α} {domain : Domain} {arch : Architecture}
    (h : snapshot.restore domain arch = .ok weights) :
    weights.domain = domain ∧ weights.arch = arch ∧ ∃ layered,
      LayeredBlocks.restore snapshot domain arch = .ok layered ∧ weights.EnumeratedBy layered := by
  obtain ⟨own, layers, shaped⟩ := Snapshot.restore_wellShaped h
  exact ⟨own, layers, _, by rw [LayeredBlocks.restore_eq, h]; rfl, shaped.enumeratedBy⟩

/-- Weights that are allocated, restored for some domain and architecture, or restored for those
of their snapshot, have their blocks in rows that the same run makes layer by layer. -/
theorem keys_enumerate_blocks [Scalar α] (domain : Domain) (arch : Architecture) :
    (∀ seed (weights : Weights α), allocate domain arch seed = .ok weights →
      weights.domain = domain ∧ weights.arch = arch ∧ ∃ layered,
        LayeredBlocks.allocate domain arch seed = .ok layered ∧ weights.EnumeratedBy layered) ∧
    (∀ (snapshot : Snapshot α) weights, snapshot.restore domain arch = .ok weights →
      weights.domain = domain ∧ weights.arch = arch ∧ ∃ layered,
        LayeredBlocks.restore snapshot domain arch = .ok layered ∧
          weights.EnumeratedBy layered) ∧
    ∀ (snapshot : Snapshot α) weights, snapshot.weights = .ok weights →
      weights.domain = snapshot.domain ∧ weights.arch = snapshot.arch ∧ ∃ layered,
        LayeredBlocks.restore snapshot snapshot.domain snapshot.arch = .ok layered ∧
          weights.EnumeratedBy layered := by
  refine ⟨fun seed weights h => ?_, fun _ _ => enumeratedBy_of_restore,
    fun _ _ => enumeratedBy_of_restore⟩
  obtain ⟨own, layers, shaped⟩ := allocate_wellShaped h
  exact ⟨own, layers, _, by rw [LayeredBlocks.allocate_eq, h]; rfl, shaped.enumeratedBy⟩

end Weights

namespace WalkDomain

/-- Drawn walks have their blocks in two rows of actions and one of predicates, and so have the
walks that come out of a snapshot. -/
theorem walks_in_rows :
    (∃ (drawn : Weights Whole) (layered : LayeredBlocks Whole),
      Weights.allocate domain arch 11 = .ok drawn ∧
        LayeredBlocks.allocate domain arch 11 = .ok layered ∧ layered.numBlocks = 7 ∧
          (layered.get? (.action 1 0)).isSome ∧ ¬(layered.get? (.predicate 1 0)).isSome) ∧
    (∃ layered : LayeredBlocks Whole,
      (Snapshot.ofWeights weights).restore domain arch = .ok weights ∧
        LayeredBlocks.restore (.ofWeights weights) domain arch = .ok layered ∧
          layered.numBlocks = 7) ∧
    ∃ layered : LayeredBlocks Whole, (Snapshot.ofWeights weights).weights = .ok weights ∧
      LayeredBlocks.restore (.ofWeights weights) weights.domain weights.arch = .ok layered ∧
        layered.entries weights.keys = weights.entries := by
  obtain ⟨drawn, allocated⟩ := exists_drawn arch 11 (by decide +kernel)
  have restored : (Snapshot.ofWeights weights).restore domain arch = .ok weights :=
    Snapshot.restore_ofWeights weights_wellShaped
  obtain ⟨fresh, imported, recorded⟩ := Weights.keys_enumerate_blocks (α := Whole) domain arch
  obtain ⟨own, layers, layered, made, enumerated⟩ := fresh 11 drawn allocated
  obtain ⟨-, -, taken, came, same⟩ := imported (.ofWeights weights) weights restored
  obtain ⟨-, -, read, back, all⟩ := recorded (.ofWeights weights) weights restored
  have keys : drawn.keys = BlockKey.all domain arch := by rw [Weights.keys, own, layers]
  refine ⟨⟨drawn, layered, allocated, made, ?_, ?_, ?_⟩, ⟨taken, restored, came,
    same.numBlocks_eq.1⟩, ⟨read, restored, back, all.same_entries⟩⟩
  · rw [enumerated.numBlocks_eq.1, keys]
    rfl
  · rw [enumerated.found_iff, keys]
    exact BlockKey.action_mem_all.2 ⟨Nat.le_refl 1, Nat.succ_pos 2⟩
  · rw [enumerated.found_iff, keys]
    exact fun mem => Nat.lt_irrefl 1 (BlockKey.predicate_mem_all.1 mem).1

end WalkDomain

end SchemaNet
