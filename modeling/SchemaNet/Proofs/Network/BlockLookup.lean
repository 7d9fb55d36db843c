import SchemaNet.Proofs.Network.Modules
import SchemaNet.Proofs.Network.SnapshotRoundTrip
import SchemaNet.Proofs.Network.WalkDomain

/-!
Looking up the block of a key, to read it or to change it. Exactly the keys of the weights have a
block. Any other key is reported under the name that its block would have, and this takes a schema
or a predicate of the domain: the lookup goes out of range if there is none of this number.
-/

namespace SchemaNet

variable {α : Type} {domain : Domain} {arch : Architecture} {key : BlockKey}

namespace BlockKey

theorem name_of_unknown (unknown : ¬key.kind.KnownTo domain) :
    (key.name domain arch : Except (NetworkError α) String) = .error .outOfRange := by
  obtain ⟨layer, kind⟩ := key
  cases kind with
  | action id =>
    have none : domain.schemas[id]? = none := List.getElem?_eq_none (Nat.le_of_not_lt unknown)
    simp [name, none]
  | predicate id =>
    have none : domain.predicates[id]? = none := List.getElem?_eq_none (Nat.le_of_not_lt unknown)
    simp [name, none]

end BlockKey

namespace Weights

variable {weights : Weights α} {block : WeightBlock α} {i : Nat}

/-! ## Keys with a block -/

theorem position?_of_key (h : weights.keys[i]? = some key) :
    key.position? weights.domain weights.arch = some i :=
  BlockKey.position?_of_getElem? h

theorem get?_of_key (h : weights.keys[i]? = some key) :
    weights.get? key = weights.blocks[i]? := by
  rw [get?, position?_of_key h, Option.bind_some]

theorem set_blocks (h : weights.keys[i]? = some key) (block : WeightBlock α) :
    (weights.set key block).domain = weights.domain ∧ (weights.set key block).arch = weights.arch ∧
      (weights.set key block).blocks = weights.blocks.set i block := by
  unfold set
  split
  · next place found =>
    obtain rfl := Option.some.inj ((position?_of_key h).symm.trans found)
    exact ⟨rfl, rfl, rfl⟩
  · next none => exact nomatch (position?_of_key h).symm.trans none

theorem modify_of_get? (found : weights.get? key = some block) (f : WeightBlock α → WeightBlock α) :
    weights.modify key f = .ok (weights.set key (f block)) := by
  have mem : key ∈ weights.keys := get?_isSome_iff.1 (Option.isSome_of_eq_some found)
  obtain ⟨name, named⟩ : ∃ name, weights.nameOf key = .ok name := BlockKey.exists_name mem
  rw [modify, named, ok_bind, found]
  rfl

/-! ## Keys without a block -/

theorem get?_of_absent (absent : key ∉ weights.keys) : weights.get? key = none := by
  rw [← Option.not_isSome_iff_eq_none, get?_isSome_iff]
  exact absent

/-- Reading and changing report the same. -/
theorem lookup_of_absent (absent : key ∉ weights.keys) {named : Except (NetworkError α) String}
    (looked : weights.nameOf key = named) :
    (weights.block key = named >>= fun name => .error (.missingBlock name)) ∧
      ∀ f, weights.modify key f = named >>= fun name => .error (.missingBlock name) := by
  simp only [Weights.block, modify, get?_of_absent absent, looked]
  exact ⟨rfl, fun _ => rfl⟩

/-- What the lookup of a key gives, to read its block and to change it. A panic is a lookup that
goes out of range. -/
theorem lookup_by_key (weights : Weights α) (key : BlockKey) :
    (key ∈ weights.keys ↔
      key.kind.InLayer weights.arch key.layer ∧ key.kind.KnownTo weights.domain) ∧
    (key ∈ weights.keys → ∃ i block, weights.keys[i]? = some key ∧ weights.blocks[i]? = some block ∧
      weights.block key = .ok block ∧ ∀ f, ∃ changed, weights.modify key f = .ok changed ∧
        changed.domain = weights.domain ∧ changed.arch = weights.arch ∧
          changed.blocks = weights.blocks.set i (f block)) ∧
    (key ∉ weights.keys → key.kind.KnownTo weights.domain → ∃ name,
      weights.nameOf key = .ok name ∧ weights.block key = .error (.missingBlock name) ∧
        ∀ f, weights.modify key f = .error (.missingBlock name)) ∧
    (¬key.kind.KnownTo weights.domain →
      weights.block key = .error .outOfRange ∧ ∀ f, weights.modify key f = .error .outOfRange) := by
  refine ⟨BlockKey.mem_all_iff_known, fun mem => ?_, fun absent known => ?_, fun unknown => ?_⟩
  · obtain ⟨i, place⟩ := List.getElem?_of_mem mem
    obtain ⟨block, found⟩ := Option.isSome_iff_exists.1 (get?_isSome_iff.2 mem)
    exact ⟨i, block, place, (get?_of_key place).symm.trans found, block_eq_ok.2 found,
      fun f => ⟨_, modify_of_get? found f, set_blocks place (f block)⟩⟩
  · obtain ⟨name, named⟩ : ∃ name, weights.nameOf key = .ok name :=
      BlockKey.exists_name_of_known known
    exact ⟨name, named, lookup_of_absent absent named⟩
  · have absent : key ∉ weights.keys := fun mem => unknown (BlockKey.mem_all_iff_known.1 mem).2
    exact lookup_of_absent absent (BlockKey.name_of_unknown unknown)

end Weights

namespace WalkDomain

/-- The walks have a block at the output layer, the propositions have none there, and there is no
fourth schema. -/
theorem output_blocks_looked_up :
    (BlockKey.action 1 0 ∈ weights.keys ∧ ∃ block, weights.block (.action 1 0) = .ok block) ∧
    (BlockKey.predicate 1 0 ∉ weights.keys ∧ (BlockKind.predicate 0).KnownTo weights.domain ∧
      weights.block (.predicate 1 0) = .error (.missingBlock "hid_1_prop_at")) ∧
    ¬(BlockKind.action 3).KnownTo weights.domain ∧
      weights.block (.action 1 3) = .error .outOfRange := by
  have held : BlockKey.action 1 0 ∈ weights.keys := by decide
  have absent : BlockKey.predicate 1 0 ∉ weights.keys := by decide
  have known : (BlockKind.predicate 0).KnownTo weights.domain := Nat.one_pos
  have unknown : ¬(BlockKind.action 3).KnownTo weights.domain := Nat.lt_irrefl 3
  obtain ⟨_, block, -, -, read, -⟩ := (weights.lookup_by_key (.action 1 0)).2.1 held
  obtain ⟨name, named, missing, -⟩ := (weights.lookup_by_key (.predicate 1 0)).2.2.1 absent known
  obtain rfl : "hid_1_prop_at" = name := Except.ok.inj named
  exact ⟨⟨held, block, read⟩, ⟨absent, known, missing⟩, unknown,
    ((weights.lookup_by_key (.action 1 3)).2.2.2 unknown).1⟩

/-- The fourth schema has no block, which is not what the lookup reports. -/
theorem unknown_schema_out_of_range : BlockKey.action 1 3 ∉ weights.keys ∧
    weights.block (.action 1 3) = .error .outOfRange ∧
      weights.modify (.action 1 3) id = .error .outOfRange ∧
        ¬∃ name, weights.block (.action 1 3) = .error (.missingBlock name) := by
  refine ⟨by decide, rfl, rfl, ?_⟩
  rintro ⟨name, ⟨⟩⟩

end WalkDomain

end SchemaNet
