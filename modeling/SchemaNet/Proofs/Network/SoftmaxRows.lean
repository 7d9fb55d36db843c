import SchemaNet.Network.Softmax
import SchemaNet.Proofs.KeyedList
import SchemaNet.Proofs.Traversal

/-!
The rows of a matrix of scores are normalized one by one. There is a result if every row has
one, and it consists of these; otherwise the first row without a result is reported.
-/

namespace SchemaNet
open Memory (bind_eq_ok)

variable {α : Type}

theorem Grid.size_eq {left right : Grid α} (same : left.dims = right.dims) :
    left.height = right.height ∧ left.width = right.width := by
  obtain ⟨height, rest⟩ := List.cons.inj same
  exact ⟨height, (List.cons.inj rest).1⟩

variable [Scalar α]

namespace Softmax

/-- The results of rows behind each other, from row number `start` on. -/
def gather (start : Nat) : List (Except Fault (List α)) → Except (NetworkError α) (List α)
  | [] => .ok []
  | result :: rest => do
    let first ← result.mapError (Fault.error start)
    return first ++ (← gather (start + 1) rest)

theorem rows_eq_gather (width start n : Nat) (scores mask : List α) :
    rows width width start n n scores mask =
      gather start (List.zipWith row (chunks width n scores) (chunks width n mask)) := by
  induction n generalizing start scores mask with
  | zero => rfl
  | succ n ih =>
    rw [rows, ih]
    rfl

omit [Scalar α] in
theorem gather_eq_ok {start : Nat} {results : List (Except Fault (List α))} {shares : List α} :
    gather start results = .ok shares ↔
      ∃ parts : List (List α), results = parts.map .ok ∧ parts.flatten = shares := by
  induction results generalizing start shares with
  | nil => simp [gather]
  | cons result rest ih =>
    rw [gather]
    simp only [bind_eq_ok, mapError_eq_ok, ih, pure_eq_ok]
    constructor
    · rintro ⟨first, rfl, others, ⟨parts, rfl, rfl⟩, h⟩
      exact ⟨first :: parts, rfl, Except.ok.inj h⟩
    · rintro ⟨_ | ⟨first, parts⟩, same, rfl⟩
      · cases same
      · obtain ⟨rfl, rfl⟩ := List.cons.inj same
        exact ⟨first, rfl, _, ⟨parts, rfl, rfl⟩, rfl⟩

omit [Scalar α] in
/-- The first row without a result is reported. -/
theorem gather_eq_error {start i : Nat} {results : List (Except Fault (List α))} {cause : Fault}
    (failed : results[i]? = some (.error cause))
    (before : ∀ j < i, ∃ shares, results[j]? = some (.ok shares)) :
    gather start results = .error (cause.error (start + i)) := by
  induction results generalizing start i with
  | nil => cases failed
  | cons result rest ih =>
    cases i with
    | zero =>
      obtain rfl := Option.some.inj failed
      rfl
    | succ i =>
      obtain ⟨shares, first⟩ := before 0 (Nat.zero_lt_succ i)
      obtain rfl := Option.some.inj first
      have later : gather (start + 1) rest = .error (cause.error (start + 1 + i)) :=
        ih failed fun j hj => before (j + 1) (Nat.succ_lt_succ hj)
      rw [gather, later, Nat.add_right_comm, Nat.add_assoc]
      rfl

end Softmax

open Softmax

variable {scores mask probs : Grid α}

/-- What becomes of each row of scores under the row of the mask beside it. -/
def rowResults (scores mask : Grid α) : List (Except Fault (List α)) :=
  List.zipWith row scores.rows mask.rows

theorem rows_eq_results (same : scores.dims = mask.dims) :
    rows scores.width mask.width 0 scores.height mask.height scores.flat mask.flat =
      gather 0 (rowResults scores mask) := by
  obtain ⟨height, width⟩ := Grid.size_eq same
  rw [rowResults, Grid.rows, Grid.rows, ← height, ← width, rows_eq_gather]

theorem maskedSoftmax_eq_ok : maskedSoftmax scores mask = .ok probs ↔
    probs.height = scores.height ∧ probs.width = scores.width ∧
      rows scores.width mask.width 0 scores.height mask.height scores.flat mask.flat =
        .ok probs.flat := by
  unfold maskedSoftmax
  split
  · next shares ran =>
    constructor
    · intro h
      obtain rfl := Except.ok.inj h
      exact ⟨rfl, rfl, ran⟩
    · obtain ⟨height, width, flat, size⟩ := probs
      rintro ⟨rfl, rfl, h⟩
      obtain rfl := Except.ok.inj (ran.symm.trans h)
      rfl
  · next fault ran =>
    exact ⟨(fun h => nomatch h), fun h => nomatch ran.symm.trans h.2.2⟩

theorem maskedSoftmax_eq_error {fault : NetworkError α} : maskedSoftmax scores mask = .error fault ↔
    rows scores.width mask.width 0 scores.height mask.height scores.flat mask.flat =
      .error fault := by
  unfold maskedSoftmax
  split
  · next shares ran => exact ⟨(fun h => nomatch h), fun h => nomatch ran.symm.trans h⟩
  · next other ran =>
    exact ⟨fun h => ran.trans (congrArg _ (Except.error.inj h)),
      fun h => congrArg _ (Except.error.inj (ran.symm.trans h))⟩

theorem rowResults_length (same : scores.dims = mask.dims) :
    (rowResults scores mask).length = scores.height := by
  rw [rowResults, List.length_zipWith, scores.rows_shape.count, mask.rows_shape.count,
    (Grid.size_eq same).1, Nat.min_self]

theorem length_of_rowResults {shares : List α} (mem : .ok shares ∈ rowResults scores mask) :
    shares.length = scores.width := by
  have each : ∀ result ∈ rowResults scores mask, ∀ shares, result = .ok shares →
      shares.length = scores.width :=
    forall_mem_zipWith fun row hrow _ _ _ h =>
      (row_length h).trans (scores.rows_shape.each row hrow)
  exact each _ mem shares rfl

/-- The rows of a result are the results of the rows. -/
theorem maskedSoftmax_rows (same : scores.dims = mask.dims) :
    maskedSoftmax scores mask = .ok probs ↔
      probs.dims = scores.dims ∧ rowResults scores mask = probs.rows.map .ok := by
  rw [maskedSoftmax_eq_ok, rows_eq_results same, gather_eq_ok]
  constructor
  · rintro ⟨height, width, parts, results, flat⟩
    refine ⟨by rw [Grid.dims, Grid.dims, height, width], ?_⟩
    have count : parts.length = probs.height := by
      rw [height, ← rowResults_length same, results, List.length_map]
    have widths : ∀ part ∈ parts, part.length = probs.width := fun part mem =>
      (length_of_rowResults (results ▸ List.mem_map_of_mem mem)).trans width.symm
    rw [results, Grid.rows, ← flat, ← count, chunks_flatten widths]
  · rintro ⟨dims, results⟩
    obtain ⟨height, width⟩ := Grid.size_eq dims
    exact ⟨height, width, probs.rows, results, flatten_chunks probs.size⟩

theorem exists_maskedSoftmax_iff (same : scores.dims = mask.dims) :
    (∃ probs, maskedSoftmax scores mask = .ok probs) ↔
      ∀ result ∈ rowResults scores mask, ∃ shares, result = .ok shares := by
  constructor
  · rintro ⟨probs, h⟩ result mem
    rw [((maskedSoftmax_rows same).1 h).2] at mem
    obtain ⟨shares, -, own⟩ := List.mem_map.1 mem
    exact ⟨shares, own.symm⟩
  · intro h
    obtain ⟨parts, each⟩ := exists_forall₂ h
    have results : rowResults scores mask = parts.map .ok := by
      rwa [← List.forall₂_eq_eq_eq, List.forall₂_map_right_iff]
    have ran := (rows_eq_results same).trans (gather_eq_ok.2 ⟨parts, results, rfl⟩)
    exact ⟨⟨scores.height, scores.width, parts.flatten, rows_length ran scores.size⟩,
      maskedSoftmax_eq_ok.2 ⟨rfl, rfl, ran⟩⟩

theorem maskedSoftmax_of_failed (same : scores.dims = mask.dims) {i : Nat} {cause : Fault}
    (failed : (rowResults scores mask)[i]? = some (.error cause))
    (before : ∀ j < i, ∃ shares, (rowResults scores mask)[j]? = some (.ok shares)) :
    maskedSoftmax scores mask = .error (cause.error i) := by
  rw [maskedSoftmax_eq_error, rows_eq_results same, gather_eq_error failed before, Nat.zero_add]

/-- The rows determine the result. -/
theorem maskedSoftmax_congr {other : Grid α} (same : scores.dims = mask.dims)
    (dims : other.dims = scores.dims) (h : rowResults other mask = rowResults scores mask) :
    maskedSoftmax other mask = maskedSoftmax scores mask := by
  cases ran : maskedSoftmax scores mask with
  | ok probs =>
    obtain ⟨own, results⟩ := (maskedSoftmax_rows same).1 ran
    exact (maskedSoftmax_rows (dims.trans same)).2 ⟨own.trans dims.symm, h.trans results⟩
  | error fault =>
    rw [maskedSoftmax_eq_error, rows_eq_results same] at ran
    rw [maskedSoftmax_eq_error, rows_eq_results (dims.trans same), h, ran]

end SchemaNet
