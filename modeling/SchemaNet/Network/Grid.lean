/-!
Matrices: a shape and the row-major list of the entries. The rows are a view of that list,
so a matrix without entries takes no room, whatever its shape is.
-/

namespace SchemaNet

/-- A list cut into `count` pieces of one width. -/
def chunks {α : Type} (width : Nat) : (count : Nat) → List α → List (List α)
  | 0, _ => []
  | count + 1, flat => flat.take width :: chunks width count (flat.drop width)

@[simp] theorem chunks_length {α : Type} (width count : Nat) (flat : List α) :
    (chunks width count flat).length = count := by
  induction count generalizing flat with
  | zero => rfl
  | succ count ih => simp [chunks, ih]

theorem length_of_mem_chunks {α : Type} {width count : Nat} {flat piece : List α}
    (size : flat.length = count * width) (h : piece ∈ chunks width count flat) :
    piece.length = width := by
  induction count generalizing flat with
  | zero => simp [chunks] at h
  | succ count ih =>
    rw [Nat.succ_mul] at size
    rw [chunks, List.mem_cons] at h
    rcases h with h | h
    · rw [h, List.length_take]
      omega
    · exact ih (by rw [List.length_drop]; omega) h

theorem flatten_chunks {α : Type} {width count : Nat} {flat : List α}
    (size : flat.length = count * width) : (chunks width count flat).flatten = flat := by
  induction count generalizing flat with
  | zero =>
    rw [Nat.zero_mul] at size
    simp [chunks, List.eq_nil_of_length_eq_zero size]
  | succ count ih =>
    rw [Nat.succ_mul] at size
    rw [chunks, List.flatten_cons, ih (by rw [List.length_drop]; omega), List.take_append_drop]

theorem flatten_length {α : Type} {width : Nat} {rows : List (List α)}
    (fits : ∀ row ∈ rows, row.length = width) : rows.flatten.length = rows.length * width := by
  induction rows with
  | nil => simp
  | cons row rest ih =>
    rw [List.flatten_cons, List.length_append, fits row List.mem_cons_self,
      ih fun row h => fits row (List.mem_cons_of_mem _ h), List.length_cons, Nat.succ_mul]
    omega

theorem chunks_flatten {α : Type} {width : Nat} {rows : List (List α)}
    (fits : ∀ row ∈ rows, row.length = width) : chunks width rows.length rows.flatten = rows := by
  induction rows with
  | nil => rfl
  | cons row rest ih =>
    have size := fits row List.mem_cons_self
    rw [List.length_cons, chunks, List.flatten_cons, List.take_left' size, List.drop_left' size,
      ih fun row h => fits row (List.mem_cons_of_mem _ h)]

theorem flatten_eq_nil {α : Type} {width : Nat} {rows : List (List α)}
    (fits : ∀ row ∈ rows, row.length = width) (none : rows.length * width = 0) :
    rows.flatten = [] :=
  List.eq_nil_of_length_eq_zero ((flatten_length fits).trans none)

theorem forall_mem_zipWith {α β γ : Type} {f : α → β → γ} {P : γ → Prop} {xs : List α}
    {ys : List β} (h : ∀ x ∈ xs, ∀ y ∈ ys, P (f x y)) : ∀ z ∈ List.zipWith f xs ys, P z := by
  induction xs generalizing ys with
  | nil => simp
  | cons x xs ih =>
    cases ys with
    | nil => simp
    | cons y ys =>
      intro z hz
      rw [List.zipWith_cons_cons, List.mem_cons] at hz
      rcases hz with rfl | hz
      · exact h x List.mem_cons_self y List.mem_cons_self
      · exact ih (fun x hx y hy => h x (List.mem_cons_of_mem _ hx) y (List.mem_cons_of_mem _ hy)) z hz

/-- Rows of one width: so many rows with so many entries each. -/
structure HasShape {α : Type} (height width : Nat) (rows : List (List α)) : Prop where
  count : rows.length = height
  each : ∀ row ∈ rows, row.length = width

structure Grid (α : Type) where
  height : Nat
  width : Nat
  flat : List α
  size : flat.length = height * width
  deriving DecidableEq, Repr

namespace Grid

variable {α β : Type}

def dims (grid : Grid α) : List Nat := [grid.height, grid.width]

def rows (grid : Grid α) : List (List α) := chunks grid.width grid.height grid.flat

theorem rows_shape (grid : Grid α) : HasShape grid.height grid.width grid.rows :=
  ⟨chunks_length _ _ _, fun _ => length_of_mem_chunks grid.size⟩

@[simp] theorem flatten_rows (grid : Grid α) : grid.rows.flatten = grid.flat :=
  flatten_chunks grid.size

def ofFlat? (height width : Nat) (flat : List α) : Option (Grid α) :=
  if size : flat.length = height * width then some ⟨height, width, flat, size⟩ else none

/-- The matrix with these rows. They are not looked at if they have no entries. -/
def build (height width : Nat) (rows : Unit → List (List α))
    (shape : HasShape height width (rows ())) : Grid α :=
  ⟨height, width, if height * width = 0 then [] else (rows ()).flatten, by
    split
    · next none => rw [none, List.length_nil]
    · rw [flatten_length shape.each, shape.count]⟩

theorem flat_build {height width : Nat} {rows : Unit → List (List α)}
    (shape : HasShape height width (rows ())) :
    (build height width rows shape).flat = (rows ()).flatten := by
  unfold build
  dsimp only
  split
  · next none => rw [flatten_eq_nil shape.each (by rw [shape.count, none])]
  · rfl

@[simp] theorem rows_build {height width : Nat} {rows : Unit → List (List α)}
    (shape : HasShape height width (rows ())) : (build height width rows shape).rows = rows () := by
  rw [Grid.rows, flat_build]
  show chunks width height (rows ()).flatten = rows ()
  rw [← shape.count, chunks_flatten shape.each]

def replicate (height width : Nat) (x : α) : Grid α :=
  ⟨height, width, List.replicate (height * width) x, List.length_replicate⟩

def map (f : α → β) (grid : Grid α) : Grid β :=
  ⟨grid.height, grid.width, grid.flat.map f, by rw [List.length_map, grid.size]⟩

def column (values : List α) : Grid α := ⟨values.length, 1, values, (Nat.mul_one _).symm⟩

/-- The columns of both matrices; rows that one of them lacks are dropped. -/
def append (left right : Grid α) : Grid α :=
  build (min left.height right.height) (left.width + right.width)
    (fun _ => List.zipWith (· ++ ·) left.rows right.rows)
    ⟨by rw [List.length_zipWith, left.rows_shape.count, right.rows_shape.count],
      forall_mem_zipWith fun x hx y hy => by
        rw [List.length_append, left.rows_shape.each x hx, right.rows_shape.each y hy]⟩

/-- The columns from `start` on, `count` of them as far as there are so many. -/
def columns (start count : Nat) (grid : Grid α) : Grid α :=
  build grid.height (min count (grid.width - start))
    (fun _ => grid.rows.map fun row => (row.drop start).take count)
    ⟨by rw [List.length_map, grid.rows_shape.count], fun row h => by
      obtain ⟨source, hsource, rfl⟩ := List.mem_map.1 h
      rw [List.length_take, List.length_drop, grid.rows_shape.each source hsource]⟩

/-- Whether the shapes are the same and all entries are equal. -/
def equal (eq : List α → List α → Bool) (left right : Grid α) : Bool :=
  left.dims == right.dims && eq left.flat right.flat

end Grid

end SchemaNet
