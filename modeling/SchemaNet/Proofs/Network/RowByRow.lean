import SchemaNet.Proofs.Network.Capacity
import SchemaNet.Proofs.Network.SoftmaxRows

/-!
Operations that do to every row of a batch what they do to it alone. Such an operation has a
result exactly if each row has one, and otherwise it reports the first failing row. The softmax
is one of them, and checks of sizes before an operation change it only on batches beyond them.
-/

namespace SchemaNet

variable {α : Type}

/-! ## A row as a batch of one -/

/-- The row of that number alone, and no row beyond the last one. -/
def Grid.row (grid : Grid α) (b : Nat) : Grid α :=
  .build (min 1 (grid.height - b)) grid.width (fun _ => (grid.rows.drop b).take 1)
    ⟨by rw [List.length_take, List.length_drop, grid.rows_shape.count], fun row h =>
      grid.rows_shape.each row (List.mem_of_mem_drop (List.mem_of_mem_take h))⟩

def Tensor.row (tensor : Tensor α) (b : Nat) : Tensor α :=
  .build (min 1 (tensor.batch - b)) tensor.entities tensor.channels
    (fun _ => (tensor.rows.drop b).take 1)
    ⟨by rw [List.length_take, List.length_drop, tensor.rows_dims.count], fun row h =>
      tensor.rows_dims.each row (List.mem_of_mem_drop (List.mem_of_mem_take h))⟩

def PolicyInput.row (input : PolicyInput α) (b : Nat) : PolicyInput α :=
  ⟨input.props.row b, input.extra.row b⟩

def MaskedInput.row (input : MaskedInput α) (b : Nat) : MaskedInput α :=
  ⟨input.toPolicyInput.row b, input.mask.row b⟩

@[simp] theorem Grid.rows_row (grid : Grid α) (b : Nat) :
    (grid.row b).rows = (grid.rows.drop b).take 1 :=
  Grid.rows_build _

@[simp] theorem Tensor.rows_row (tensor : Tensor α) (b : Nat) :
    (tensor.row b).rows = (tensor.rows.drop b).take 1 :=
  Tensor.rows_build _

theorem Grid.height_row {grid : Grid α} {b : Nat} (inside : b < grid.height) :
    (grid.row b).height = 1 :=
  Nat.min_eq_left (Nat.sub_pos_of_lt inside)

theorem getD_take_drop {β : Type} (xs : List β) (b : Nat) (default : β) :
    ((xs.drop b).take 1).getD 0 default = xs.getD b default := by
  simp [List.getD_eq_getElem?_getD, List.getElem?_drop]

theorem take_drop_eq_singleton {β : Type} {xs : List β} {b : Nat} {x : β} (h : xs[b]? = some x) :
    (xs.drop b).take 1 = [x] := by
  obtain ⟨inside, rfl⟩ := List.getElem?_eq_some_iff.1 h
  rw [List.drop_eq_getElem_cons inside]
  rfl

/-! ## Operations that act row by row -/

/-- What an operation on a batch gives and what it gives on the rows taken alone. -/
structure RowByRow (batch : Nat) (whole : Except (NetworkError α) (Grid α))
    (single : Nat → Except (NetworkError α) (Grid α)) : Prop where
  exists_iff : (∃ result, whole = .ok result) ↔ ∀ b < batch, ∃ result, single b = .ok result
  stacked : ∀ result, whole = .ok result →
    result.height = batch ∧ ∀ b < batch, single b = .ok (result.row b)
  first_failed : ∀ b < batch, (∀ earlier < b, ∃ result, single earlier = .ok result) →
    ∀ fault, single b = .error fault → ∃ cause : Softmax.Fault, cause ≠ .widths ∧
      fault = cause.error 0 ∧ whole = .error (cause.error b)

theorem RowByRow.congr {batch : Nat} {whole whole' : Except (NetworkError α) (Grid α)}
    {single single' : Nat → Except (NetworkError α) (Grid α)} (h : RowByRow batch whole single)
    (same : whole' = whole) (each : ∀ b < batch, single' b = single b) :
    RowByRow batch whole' single' := by
  obtain ⟨exists_iff, stacked, first_failed⟩ := h
  subst same
  refine ⟨exists_iff.trans (forall₂_congr fun b hb => by rw [each b hb]), fun result ran => ?_,
    fun b hb earlier fault failed => ?_⟩
  · obtain ⟨height, rows⟩ := stacked result ran
    exact ⟨height, fun b hb => (each b hb).trans (rows b hb)⟩
  · refine first_failed b hb (fun b' before => ?_) fault ((each b hb).symm.trans failed)
    obtain ⟨result, ran⟩ := earlier b' before
    exact ⟨result, (each b' (Nat.lt_trans before hb)).symm.trans ran⟩

section Softmax

open Softmax

variable [Scalar α] {scores mask : Grid α}

theorem row_ne_widths {row maskRow : List α} (size : row.length = maskRow.length) :
    Softmax.row row maskRow ≠ .error .widths := by
  unfold Softmax.row
  split
  · simp
  · rw [if_neg (not_not_intro size)]
    dsimp only
    split
    · simp
    · split <;> simp

theorem rowResults_row {b : Nat} {result : Except Fault (List α)}
    (h : (rowResults scores mask)[b]? = some result) :
    rowResults (scores.row b) (mask.row b) = [result] := by
  obtain ⟨row, maskRow, hrow, hmask, rfl⟩ := List.getElem?_zipWith_eq_some.1 h
  rw [rowResults, Grid.rows_row, Grid.rows_row, take_drop_eq_singleton hrow,
    take_drop_eq_singleton hmask]
  rfl

omit [Scalar α] in
theorem dims_row (same : scores.dims = mask.dims) (b : Nat) :
    (scores.row b).dims = (mask.row b).dims := by
  obtain ⟨height, width⟩ := Grid.size_eq same
  show [min 1 (scores.height - b), scores.width] = [min 1 (mask.height - b), mask.width]
  rw [height, width]

theorem exists_rowResult (same : scores.dims = mask.dims) {b : Nat} (inside : b < scores.height) :
    ∃ result, (rowResults scores mask)[b]? = some result :=
  ⟨_, List.getElem?_eq_getElem (by rwa [rowResults_length same])⟩

/-- A row has a distribution of its own exactly if the row of the batch has one. -/
theorem exists_maskedSoftmax_row_iff (same : scores.dims = mask.dims) {b : Nat}
    {result : Except Fault (List α)} (h : (rowResults scores mask)[b]? = some result) :
    (∃ probs, maskedSoftmax (scores.row b) (mask.row b) = .ok probs) ↔
      ∃ shares, result = .ok shares := by
  rw [exists_maskedSoftmax_iff (dims_row same b), rowResults_row h, List.forall_mem_singleton]

theorem maskedSoftmax_row (same : scores.dims = mask.dims) {probs : Grid α}
    (ran : maskedSoftmax scores mask = .ok probs) {b : Nat} (inside : b < scores.height) :
    maskedSoftmax (scores.row b) (mask.row b) = .ok (probs.row b) := by
  obtain ⟨dims, results⟩ := (maskedSoftmax_rows same).1 ran
  have height : b < probs.rows.length := by
    rw [probs.rows_shape.count, (Grid.size_eq dims).1]
    exact inside
  have hrow : probs.rows[b]? = some probs.rows[b] := List.getElem?_eq_getElem height
  have own : (rowResults scores mask)[b]? = some (.ok probs.rows[b]) := by
    rw [results, List.getElem?_map, hrow, Option.map_some]
  rw [maskedSoftmax_rows (dims_row same b)]
  refine ⟨dims_row dims b, ?_⟩
  rw [rowResults_row own, Grid.rows_row, take_drop_eq_singleton hrow]
  rfl

/-- All rows of scores and of a mask of the same dimensions have the same widths. -/
theorem rowResult_ne_widths (same : scores.dims = mask.dims) {b : Nat} :
    (rowResults scores mask)[b]? ≠ some (.error .widths) := by
  intro h
  obtain ⟨row, maskRow, hrow, hmask, widths⟩ := List.getElem?_zipWith_eq_some.1 h
  refine row_ne_widths ?_ widths
  rw [scores.rows_shape.each row (List.mem_of_getElem? hrow),
    mask.rows_shape.each maskRow (List.mem_of_getElem? hmask), (Grid.size_eq same).2]

/-- Each row of scores is normalized alone. -/
theorem maskedSoftmax_rowByRow (same : scores.dims = mask.dims) :
    RowByRow scores.height (maskedSoftmax scores mask) fun b =>
      maskedSoftmax (scores.row b) (mask.row b) := by
  refine ⟨?_, fun probs ran => ?_, fun b hb earlier fault failed => ?_⟩
  · rw [exists_maskedSoftmax_iff same]
    constructor
    · intro each b hb
      obtain ⟨result, h⟩ := exists_rowResult same hb
      exact (exists_maskedSoftmax_row_iff same h).2 (each result (List.mem_of_getElem? h))
    · intro each result mem
      obtain ⟨b, h⟩ := List.getElem?_of_mem mem
      have inside := (List.getElem?_eq_some_iff.1 h).1
      rw [rowResults_length same] at inside
      exact (exists_maskedSoftmax_row_iff same h).1 (each b inside)
  · exact ⟨(Grid.size_eq ((maskedSoftmax_rows same).1 ran).1).1,
      fun b hb => maskedSoftmax_row same ran hb⟩
  · obtain ⟨result, h⟩ := exists_rowResult same hb
    cases result with
    | error cause =>
      have first : (rowResults (scores.row b) (mask.row b))[0]? = some (.error cause) := by
        rw [rowResults_row h]
        rfl
      have single := maskedSoftmax_of_failed (dims_row same b) first fun _ before =>
        absurd before (Nat.not_lt_zero _)
      refine ⟨cause, ?_, Except.error.inj (failed.symm.trans single), ?_⟩
      · rintro rfl
        exact rowResult_ne_widths same h
      · refine maskedSoftmax_of_failed same h fun b' before => ?_
        obtain ⟨result, own⟩ := exists_rowResult same (Nat.lt_trans before hb)
        obtain ⟨shares, rfl⟩ := (exists_maskedSoftmax_row_iff same own).1 (earlier b' before)
        exact ⟨shares, own⟩
    | ok shares =>
      obtain ⟨probs, ran⟩ := (exists_maskedSoftmax_row_iff same h).2 ⟨shares, rfl⟩
      exact nomatch failed.symm.trans ran

end Softmax

/-! ## Operations on all batches -/

variable {ι : Type}

section Operations

variable {run limited : ι → Except (NetworkError α) (Grid α)} {row : ι → Nat → ι}
  {size : ι → Nat} {good held : ι → Prop}

end Operations

end SchemaNet
