import SchemaNet.Network.BlockKey
import SchemaNet.Network.Memory

/-!
The weights of a domain for one architecture. They hold exactly one block for each
key, in the order of the keys.
-/

namespace SchemaNet

/-- A computation with a state that it keeps when it fails. -/
abbrev Stateful (α σ β : Type) := ExceptT (NetworkError α) (StateM σ) β

def Stateful.ofExcept {α σ β : Type} (result : Except (NetworkError α) β) : Stateful α σ β :=
  ExceptT.mk (pure result)

structure Weights (α : Type) where
  domain : Domain
  arch : Architecture
  blocks : List (WeightBlock α)
  aligned : blocks.length = (BlockKey.all domain arch).length

namespace Weights

variable {α σ ε : Type}

def keys (weights : Weights α) : List BlockKey := BlockKey.all weights.domain weights.arch

def entries (weights : Weights α) : List (BlockKey × WeightBlock α) :=
  weights.keys.zip weights.blocks

def get? (weights : Weights α) (key : BlockKey) : Option (WeightBlock α) :=
  (key.position? weights.domain weights.arch).bind (weights.blocks[·]?)

theorem mem_entries_of_get? {weights : Weights α} {key : BlockKey} {block : WeightBlock α}
    (h : weights.get? key = some block) : (key, block) ∈ weights.entries := by
  obtain ⟨i, place, found⟩ := Option.bind_eq_some_iff.1 h
  refine List.mem_of_getElem? (i := i) ?_
  rw [entries, List.getElem?_zip_eq_some]
  exact ⟨BlockKey.all_getElem?_of_position place, found⟩

theorem get?_isSome_iff {weights : Weights α} {key : BlockKey} :
    (weights.get? key).isSome ↔ key ∈ weights.keys := by
  constructor
  · intro h
    obtain ⟨block, h⟩ := Option.isSome_iff_exists.1 h
    exact (List.of_mem_zip (mem_entries_of_get? h)).1
  · intro h
    obtain ⟨i, place⟩ := Option.isSome_iff_exists.1 (BlockKey.mem_all.1 h)
    have bound : i < weights.blocks.length := by
      rw [weights.aligned]
      exact (List.getElem?_eq_some_iff.1 (BlockKey.all_getElem?_of_position place)).1
    rw [get?, place, Option.bind_some, List.getElem?_eq_getElem bound, Option.isSome_some]

def nameOf (weights : Weights α) (key : BlockKey) : Except (NetworkError α) String :=
  key.name weights.domain weights.arch

def block (weights : Weights α) (key : BlockKey) : Except (NetworkError α) (WeightBlock α) :=
  match weights.get? key with
  | some block => .ok block
  | none => do throw (.missingBlock (← weights.nameOf key))

def set (weights : Weights α) (key : BlockKey) (block : WeightBlock α) : Weights α :=
  match key.position? weights.domain weights.arch with
  | some place =>
    { weights with
      blocks := weights.blocks.set place block
      aligned := by rw [List.length_set, weights.aligned] }
  | none => weights

/-- Changes one block; its name is looked up first. -/
def modify (weights : Weights α) (key : BlockKey) (f : WeightBlock α → WeightBlock α) :
    Except (NetworkError α) (Weights α) := do
  let name ← weights.nameOf key
  match weights.get? key with
  | some block => return weights.set key (f block)
  | none => throw (.missingBlock name)

def numBlocks (weights : Weights α) : Nat := weights.blocks.length

def numParams (weights : Weights α) : Nat := Size.total (weights.blocks.map WeightBlock.numParams)

/-- One result for each key, from the first to the last; the first failure ends it. -/
def collect {β : Type} {m : Type → Type} [Monad m] (f : BlockKey → m β) :
    (keys : List BlockKey) → m { results : List β // results.length = keys.length }
  | [] => return ⟨[], rfl⟩
  | key :: rest => do
    let first ← f key
    let others ← collect f rest
    return ⟨first :: others.1, by simp [others.2]⟩

/-- Makes the blocks of all keys from their shapes, after checking the architecture and
the domain. -/
def build (domain : Domain) (arch : Architecture)
    (make : BlockKey → Nat × Nat → Stateful α σ (WeightBlock α)) : Stateful α σ (Weights α) := do
  Stateful.ofExcept arch.validate
  Stateful.ofExcept (domain.validate.mapError .planning)
  let makeShaped (key : BlockKey) : Stateful α σ (WeightBlock α) := do
    make key (← Stateful.ofExcept (key.shape domain arch))
  let blocks ← collect makeShaped (BlockKey.all domain arch)
  return ⟨domain, arch, blocks.1, blocks.2⟩

/-- Initial weights, drawn in the order of the keys from one generator. Every block must fit
into memory. -/
def allocate [Scalar α] (domain : Domain) (arch : Architecture) (seed : UInt64) :
    Except (NetworkError α) (Weights α) :=
  let draw (_ : BlockKey) (shape : Nat × Nat) : Stateful α Generator (WeightBlock α) :=
    Memory.glorot shape.1 shape.2
  ((build domain arch draw).run (Generator.ofSeed seed)).1

def notices (weights : Weights α) : List Event :=
  [.debug s!"allocated {weights.numBlocks} weight blocks ({weights.numParams} parameters)"]

/-- Left-aligned in a field, by the number of characters. -/
def padRight (width : Nat) (text : String) : String :=
  text ++ String.ofList (List.replicate (width - text.length) ' ')

def padLeft (width : Nat) (text : String) : String :=
  String.ofList (List.replicate (width - text.length) ' ') ++ text

def line (name : String) (block : WeightBlock α) : String :=
  padRight 40 name ++ " " ++ padLeft 5 (toString block.inputs) ++ " -> "
    ++ padRight 5 (toString block.outputs) ++ "\n"

def named (weights : Weights α) : List (String × WeightBlock α) :=
  weights.entries.filterMap fun (key, block) =>
    match (weights.nameOf key) with
    | .ok name => some (name, block)
    | .error _ => none

def table (weights : Weights α) : String :=
  String.join (weights.named.map fun (name, block) => line name block)

end Weights

end SchemaNet
