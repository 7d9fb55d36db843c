import SchemaNet.Network.Weights

/-!
Snapshots: the blocks of some weights under their names, with the domain and the
architecture that they belong to. Names stand in increasing order, each one once.
-/

namespace SchemaNet

structure NamedBlocks (α : Type) where
  entries : List (String × WeightBlock α)
  sorted : entries.Pairwise fun a b => a.1 < b.1
  deriving Repr

namespace NamedBlocks

variable {α : Type}

/-- Puts a block under a name, in place of the one that was there. -/
def put (name : String) (block : WeightBlock α) :
    List (String × WeightBlock α) → List (String × WeightBlock α)
  | [] => [(name, block)]
  | (other, old) :: rest =>
    if name < other then (name, block) :: (other, old) :: rest
    else if other < name then (other, old) :: put name block rest
    else (name, block) :: rest

theorem mem_put {name : String} {block : WeightBlock α} {entries : List (String × WeightBlock α)}
    {entry : String × WeightBlock α} (h : entry ∈ put name block entries) :
    entry = (name, block) ∨ entry ∈ entries := by
  induction entries with
  | nil => exact .inl (List.mem_singleton.1 h)
  | cons head rest ih =>
    unfold put at h
    split at h
    · rcases List.mem_cons.1 h with h | h
      · exact .inl h
      · exact .inr h
    · split at h
      · rcases List.mem_cons.1 h with h | h
        · exact .inr (h ▸ List.mem_cons_self)
        · rcases ih h with h | h
          · exact .inl h
          · exact .inr (List.mem_cons_of_mem _ h)
      · rcases List.mem_cons.1 h with h | h
        · exact .inl h
        · exact .inr (List.mem_cons_of_mem _ h)

theorem put_pairwise {name : String} {block : WeightBlock α}
    {entries : List (String × WeightBlock α)} (sorted : entries.Pairwise fun a b => a.1 < b.1) :
    (put name block entries).Pairwise fun a b => a.1 < b.1 := by
  induction entries with
  | nil => simp [put]
  | cons head rest ih =>
    rw [List.pairwise_cons] at sorted
    unfold put
    split
    · next before =>
      refine List.pairwise_cons.2 ⟨fun entry h => ?_, List.pairwise_cons.2 sorted⟩
      rcases List.mem_cons.1 h with rfl | h
      · exact before
      · exact String.lt_trans before (sorted.1 entry h)
    · split
      · next before =>
        refine List.pairwise_cons.2 ⟨fun entry h => ?_, ih sorted.2⟩
        rcases mem_put h with rfl | h
        · exact before
        · exact sorted.1 entry h
      · next notBefore notAfter =>
        have same : head.1 = name := String.le_antisymm
          (String.not_lt.1 notBefore) (String.not_lt.1 notAfter)
        refine List.pairwise_cons.2 ⟨fun entry h => ?_, sorted.2⟩
        have after := sorted.1 entry h
        rw [same] at after
        exact after

def empty : NamedBlocks α := ⟨[], .nil⟩

def insert (blocks : NamedBlocks α) (name : String) (block : WeightBlock α) : NamedBlocks α :=
  ⟨put name block blocks.entries, put_pairwise blocks.sorted⟩

/-- Of several blocks under one name the last one stays. -/
def ofList (entries : List (String × WeightBlock α)) : NamedBlocks α :=
  entries.foldl (fun blocks (name, block) => blocks.insert name block) empty

def names (blocks : NamedBlocks α) : List String := blocks.entries.map (·.1)

def find? (blocks : NamedBlocks α) (name : String) : Option (WeightBlock α) :=
  blocks.entries.lookup name

def erase (blocks : NamedBlocks α) (name : String) : NamedBlocks α :=
  ⟨blocks.entries.filter fun entry => entry.1 ≠ name, blocks.sorted.filter _⟩

def equal [Scalar α] (left right : NamedBlocks α) : Bool :=
  left.names == right.names
    && (left.entries.zip right.entries).all fun (a, b) => a.2.equal b.2

end NamedBlocks

structure Snapshot (α : Type) where
  domain : Domain
  arch : Architecture
  blocks : NamedBlocks α

namespace Snapshot

variable {α : Type}

def ofWeights (weights : Weights α) : Snapshot α :=
  ⟨weights.domain, weights.arch, .ofList weights.named⟩

def equal [Scalar α] (left right : Snapshot α) : Bool :=
  decide (left.domain = right.domain) && decide (left.arch = right.arch)
    && left.blocks.equal right.blocks

/-- Takes the block of a key out of those that remain. It must have the expected shape. -/
def takeBlock (domain : Domain) (arch : Architecture) (key : BlockKey) (shape : Nat × Nat) :
    Stateful α (NamedBlocks α) (WeightBlock α) := do
  let name ← Stateful.ofExcept (key.name domain arch)
  let remaining ← get
  match remaining.find? name with
  | none => throw (.missingBlock name)
  | some block =>
    set (remaining.erase name)
    let expected := [shape.1, shape.2, shape.2]
    if block.dims ≠ expected then
      throw (.shapeMismatch name expected block.dims)
    return block

/-- The weights of a domain for an architecture. The snapshot must belong to an equal
domain and hold the blocks of all keys, in their shapes, and no other block. -/
def restore (snapshot : Snapshot α) (domain : Domain) (arch : Architecture) :
    Except (NetworkError α) (Weights α) := do
  if snapshot.domain ≠ domain then
    throw (.domainMismatch domain.name snapshot.domain.name)
  match (Weights.build domain arch (takeBlock domain arch)).run snapshot.blocks with
  | (.error fault, _) => throw fault
  | (.ok weights, remaining) =>
    match remaining.names with
    | [] => return weights
    | name :: _ => throw (.unexpectedBlock name)

def weights (snapshot : Snapshot α) : Except (NetworkError α) (Weights α) :=
  snapshot.restore snapshot.domain snapshot.arch

def notices (weights : Weights α) : List Event :=
  [.debug s!"restored {weights.numBlocks} weight blocks"]

def savingNotices (snapshot : Snapshot α) (path : String) : List Event :=
  [.debug s!"saving {snapshot.blocks.names.length} weight blocks to {path}"]

end Snapshot

end SchemaNet
