import SchemaNet.Network.Error
import SchemaNet.Network.Grid
import SchemaNet.Network.Size

/-!
Batches of entities with channels. A row of the batch lists the entities, which are
the instances of one schema or the propositions of one predicate; an entity lists its
channels. The operations that wire modules together act on each row alone.
-/

namespace SchemaNet

/-- A batch of rows, each of which lists so many entities with so many channels. -/
structure HasDims {α : Type} (batch entities channels : Nat) (rows : List (List (List α))) :
    Prop where
  count : rows.length = batch
  each : ∀ row ∈ rows, HasShape entities channels row

/-- The shape, and the entries row by row and entity by entity. -/
structure Tensor (α : Type) where
  batch : Nat
  entities : Nat
  channels : Nat
  flat : List α
  size : flat.length = batch * (entities * channels)
  deriving Repr

namespace Tensor

variable {α β : Type}

def dims (tensor : Tensor α) : List Nat := [tensor.batch, tensor.entities, tensor.channels]

def rows (tensor : Tensor α) : List (List (List α)) :=
  (chunks (tensor.entities * tensor.channels) tensor.batch tensor.flat).map
    (chunks tensor.channels tensor.entities)

theorem rows_dims (tensor : Tensor α) :
    HasDims tensor.batch tensor.entities tensor.channels tensor.rows := by
  refine ⟨by rw [rows, List.length_map, chunks_length], fun row h => ?_⟩
  obtain ⟨piece, hpiece, rfl⟩ := List.mem_map.1 h
  exact ⟨chunks_length _ _ _,
    fun _ => length_of_mem_chunks (length_of_mem_chunks tensor.size hpiece)⟩

def ofFlat? (batch entities channels : Nat) (flat : List α) : Option (Tensor α) :=
  if size : flat.length = batch * (entities * channels) then
    some ⟨batch, entities, channels, flat, size⟩
  else
    none

def flatRows (rows : List (List (List α))) : List (List α) := rows.map List.flatten

theorem flatRows_shape {batch entities channels : Nat} {rows : List (List (List α))}
    (dims : HasDims batch entities channels rows) :
    HasShape batch (entities * channels) (flatRows rows) := by
  refine ⟨by rw [flatRows, List.length_map, dims.count], fun row h => ?_⟩
  obtain ⟨source, hsource, rfl⟩ := List.mem_map.1 h
  have shape := dims.each source hsource
  rw [flatten_length shape.each, shape.count]

/-- The tensor with these rows. They are not looked at if they have no entries. -/
def build (batch entities channels : Nat) (rows : Unit → List (List (List α)))
    (dims : HasDims batch entities channels (rows ())) : Tensor α :=
  let grid := Grid.build batch (entities * channels) (fun _ => flatRows (rows ()))
    (flatRows_shape dims)
  ⟨batch, entities, channels, grid.flat, grid.size⟩

@[simp] theorem rows_build {batch entities channels : Nat} {rows : Unit → List (List (List α))}
    (dims : HasDims batch entities channels (rows ())) :
    (build batch entities channels rows dims).rows = rows () := by
  have cut : chunks (entities * channels) batch (build batch entities channels rows dims).flat
      = flatRows (rows ()) :=
    @Grid.rows_build α batch (entities * channels) (fun _ => flatRows (rows ())) (flatRows_shape dims)
  show (chunks (entities * channels) batch _).map (chunks channels entities) = rows ()
  rw [cut, flatRows, List.map_map]
  refine (List.map_congr_left fun row h => ?_).trans (List.map_id _)
  have shape := dims.each row h
  rw [Function.comp_apply, id, ← shape.count, chunks_flatten shape.each]

/-- Applies a function to every row that keeps the shape of rows. -/
def mapRows (tensor : Tensor α) (entities channels : Nat)
    (f : List (List α) → List (List β))
    (shape : ∀ row, HasShape tensor.entities tensor.channels row → HasShape entities channels (f row)) :
    Tensor β :=
  build tensor.batch entities channels (fun _ => tensor.rows.map f)
    ⟨by rw [List.length_map, tensor.rows_dims.count], fun row h => by
      obtain ⟨source, hsource, rfl⟩ := List.mem_map.1 h
      exact shape source (tensor.rows_dims.each source hsource)⟩

@[simp] theorem rows_mapRows {tensor : Tensor α} {entities channels : Nat}
    {f : List (List α) → List (List β)}
    (shape : ∀ row, HasShape tensor.entities tensor.channels row → HasShape entities channels (f row)) :
    (tensor.mapRows entities channels f shape).rows = tensor.rows.map f := by
  rw [mapRows, rows_build]

/-- The channels of an entity of a row. -/
def entityAt (row : List (List α)) (i : Nat) : List α := row.getD i []

theorem entityAt_length {entities channels i : Nat} {row : List (List α)}
    (shape : HasShape entities channels row) (h : i < entities) :
    (entityAt row i).length = channels := by
  have bound : i < row.length := by rw [shape.count]; exact h
  rw [entityAt, List.getD_eq_getElem?_getD, List.getElem?_eq_getElem bound, Option.getD_some]
  exact shape.each _ (List.getElem_mem bound)

def map (f : α → β) (tensor : Tensor α) : Tensor β :=
  ⟨tensor.batch, tensor.entities, tensor.channels, tensor.flat.map f, by
    rw [List.length_map, tensor.size]⟩

/-- The entities at the given positions, in that order. -/
def gather (tensor : Tensor α) (indices : List Nat) : Except (NetworkError α) (Tensor α) :=
  if inRange : ∀ i ∈ indices, i < tensor.entities then
    .ok <| tensor.mapRows indices.length tensor.channels (fun row => indices.map (entityAt row))
      fun row shape => by
        refine ⟨List.length_map _, fun entity h => ?_⟩
        obtain ⟨i, hi, rfl⟩ := List.mem_map.1 h
        exact entityAt_length shape (inRange i hi)
  else
    .error .outOfRange

def empty (batch entities : Nat) : Tensor α :=
  ⟨batch, entities, 0, [], by rw [Nat.mul_zero, Nat.mul_zero]; rfl⟩

/-- The entities of a batch with the channels of all parts, part by part. -/
def joinChannels (batch entities : Nat) : List (Tensor α) → List (List (List α))
  | [] => List.replicate batch (List.replicate entities [])
  | part :: rest =>
    List.zipWith (List.zipWith (· ++ ·)) part.rows (joinChannels batch entities rest)

def totalChannels (parts : List (Tensor α)) : Nat := Size.total (parts.map channels)

theorem totalChannels_cons (part : Tensor α) (rest : List (Tensor α)) :
    totalChannels (part :: rest) = part.channels + totalChannels rest := by
  rw [totalChannels, List.map_cons, Size.total_cons, totalChannels]

theorem joinChannels_dims {batch entities : Nat} {parts : List (Tensor α)}
    (same : ∀ part ∈ parts, part.batch = batch ∧ part.entities = entities) :
    HasDims batch entities (totalChannels parts) (joinChannels batch entities parts) := by
  induction parts with
  | nil =>
    refine ⟨List.length_replicate, fun row h => ?_⟩
    rw [List.eq_of_mem_replicate h]
    exact ⟨List.length_replicate, fun entity h => by rw [List.eq_of_mem_replicate h]; rfl⟩
  | cons part rest ih =>
    have first := same part List.mem_cons_self
    have others := ih fun other h => same other (List.mem_cons_of_mem _ h)
    refine ⟨?_, forall_mem_zipWith fun x hx y hy => ⟨?_, forall_mem_zipWith fun a ha b hb => ?_⟩⟩
    · rw [joinChannels, List.length_zipWith, part.rows_dims.count, others.count, first.1,
        Nat.min_self]
    · rw [List.length_zipWith, (part.rows_dims.each x hx).count, (others.each y hy).count, first.2,
        Nat.min_self]
    · rw [List.length_append, (part.rows_dims.each x hx).each a ha, (others.each y hy).each b hb,
        totalChannels_cons]

/-- The channels of all parts, which must have the same entities; without a part, entities
without channels. -/
def concat (batch entities : Nat) : List (Tensor α) → Except (NetworkError α) (Tensor α)
  | [] => .ok (empty batch entities)
  | first :: rest =>
    if same : ∀ part ∈ first :: rest, part.batch = first.batch ∧ part.entities = first.entities then
      .ok <| build first.batch first.entities (totalChannels (first :: rest))
        (fun _ => joinChannels first.batch first.entities (first :: rest)) (joinChannels_dims same)
    else
      .error .incompatibleShapes

section Pool

variable [Scalar α]

/-- The greatest value of each channel over a pool of entities. -/
def poolEntity (channels : Nat) (pad : α) (row : List (List α)) : List Nat → List α
  | [] => List.replicate channels pad
  | first :: rest =>
    rest.foldl (fun greatest i => List.zipWith Scalar.max greatest (entityAt row i))
      (entityAt row first)

theorem poolEntity_length {entities channels : Nat} (pad : α) {row : List (List α)}
    (shape : HasShape entities channels row) {pool : List Nat}
    (inRange : ∀ i ∈ pool, i < entities) : (poolEntity channels pad row pool).length = channels := by
  have fold : ∀ (rest : List Nat) (greatest : List α), (∀ i ∈ rest, i < entities) →
      greatest.length = channels →
      (rest.foldl (fun greatest i => List.zipWith Scalar.max greatest (entityAt row i))
        greatest).length = channels := by
    intro rest
    induction rest with
    | nil => intro _ _ size; exact size
    | cons i rest ih =>
      intro greatest inRange size
      refine ih _ (fun j hj => inRange j (List.mem_cons_of_mem _ hj)) ?_
      rw [List.length_zipWith, size, entityAt_length shape (inRange i List.mem_cons_self),
        Nat.min_self]
  cases pool with
  | nil => exact List.length_replicate
  | cons first rest =>
    exact fold rest _ (fun j hj => inRange j (List.mem_cons_of_mem _ hj))
      (entityAt_length shape (inRange first List.mem_cons_self))

/-- One entity for each pool; an empty pool has the value `pad` in every channel. -/
def maxPool (tensor : Tensor α) (pools : List (List Nat)) (pad : α) :
    Except (NetworkError α) (Tensor α) :=
  if inRange : ∀ pool ∈ pools, ∀ i ∈ pool, i < tensor.entities then
    .ok <| tensor.mapRows pools.length tensor.channels
      (fun row => pools.map (poolEntity tensor.channels pad row)) fun row shape => by
        refine ⟨List.length_map _, fun entity h => ?_⟩
        obtain ⟨pool, hpool, rfl⟩ := List.mem_map.1 h
        exact poolEntity_length pad shape (inRange pool hpool)
  else
    .error .outOfRange

end Pool

/-- How many of the pools `maxPool` fills with the value `pad`. -/
def emptyPools (pools : List (List Nat)) : Nat := pools.countP List.isEmpty

/-- The rows of a batch with the entities of all parts, part by part. -/
def joinEntities (batch : Nat) : List (Tensor α) → List (List (List α))
  | [] => List.replicate batch []
  | part :: rest => List.zipWith (· ++ ·) part.rows (joinEntities batch rest)

def totalEntities (parts : List (Tensor α)) : Nat := Size.total (parts.map entities)

theorem totalEntities_cons (part : Tensor α) (rest : List (Tensor α)) :
    totalEntities (part :: rest) = part.entities + totalEntities rest := by
  rw [totalEntities, List.map_cons, Size.total_cons, totalEntities]

theorem joinEntities_dims {batch channels : Nat} {parts : List (Tensor α)}
    (same : ∀ part ∈ parts, part.batch = batch ∧ part.channels = channels) :
    HasDims batch (totalEntities parts) channels (joinEntities batch parts) := by
  induction parts with
  | nil =>
    refine ⟨List.length_replicate, fun row h => ?_⟩
    rw [List.eq_of_mem_replicate h]
    exact ⟨rfl, fun entity h => by cases h⟩
  | cons part rest ih =>
    have first := same part List.mem_cons_self
    have others := ih fun other h => same other (List.mem_cons_of_mem _ h)
    refine ⟨?_, forall_mem_zipWith fun x hx y hy => ⟨?_, fun entity h => ?_⟩⟩
    · rw [joinEntities, List.length_zipWith, part.rows_dims.count, others.count, first.1,
        Nat.min_self]
    · rw [List.length_append, (part.rows_dims.each x hx).count, (others.each y hy).count,
        totalEntities_cons]
    · rcases List.mem_append.1 h with h | h
      · rw [(part.rows_dims.each x hx).each entity h, first.2]
      · exact (others.each y hy).each entity h

/-- The entities of all parts, which must have the same channels; without a part, no entity of
the given number of channels. -/
def stack (batch channels : Nat) : List (Tensor α) → Except (NetworkError α) (Tensor α)
  | [] => .ok ⟨batch, 0, channels, [], by rw [Nat.zero_mul, Nat.mul_zero]; rfl⟩
  | first :: rest =>
    if same : ∀ part ∈ first :: rest, part.batch = first.batch ∧ part.channels = first.channels then
      .ok <| build first.batch (totalEntities (first :: rest)) first.channels
        (fun _ => joinEntities first.batch (first :: rest)) (joinEntities_dims same)
    else
      .error .incompatibleShapes

end Tensor

end SchemaNet
