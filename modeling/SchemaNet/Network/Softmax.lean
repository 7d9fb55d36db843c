import SchemaNet.Network.Error
import SchemaNet.Network.Grid

/-!
The distribution over the enabled actions that a row of scores stands for, and the
most probable action of a row.
-/

namespace SchemaNet

namespace Softmax

variable {α : Type} [Scalar α]

open Scalar

/-- Why a row of scores has no distribution. -/
inductive Fault where
  | allDisabled
  | nonFinite
  | widths
  deriving DecidableEq, Repr

def isEnabled (mask : α) : Bool := !eq mask zero

def enabledScores (scores mask : List α) : List α :=
  ((scores.zip mask).filter fun (_, m) => isEnabled m).map (·.1)

def greatest (scores : List α) : α := scores.foldl Scalar.max negInf

/-- The exponential of a score below the greatest one; nothing for a masked score. -/
def weight (top score mask : α) : α := if isEnabled mask then exp (score - top) else zero

def weights (scores mask : List α) : List α :=
  List.zipWith (weight (greatest (enabledScores scores mask))) scores mask

def total (weights : List α) : α := weights.foldl (· + ·) zero

/-- The weights divided by their sum, provided that they can be. -/
def row (scores mask : List α) : Except Fault (List α) :=
  if (enabledScores scores mask).isEmpty then
    .error .allDisabled
  else if scores.length ≠ mask.length then
    .error .widths
  else
    let weights := weights scores mask
    let total := total weights
    if !isFinite total || le total zero then
      .error .nonFinite
    else
      let shares := weights.map (· / total)
      if shares.all isFinite then .ok shares else .error .nonFinite

def Fault.error (row : Nat) : Fault → NetworkError α
  | .allDisabled => .allActionsDisabled row
  | .nonFinite => .nonFiniteOutput row
  | .widths => .outOfRange

/-- The entries of `count` rows of scores from row number `start` on, under as many rows of
the mask. Scores without a row of the mask get no probability. -/
def rows (width maskWidth : Nat) (start : Nat) : (count maskCount : Nat) → (scores mask : List α) →
    Except (NetworkError α) (List α)
  | 0, _, _, _ => .ok []
  | _, 0, scores, _ => .ok (scores.map fun _ => zero)
  | count + 1, maskCount + 1, scores, mask => do
    let first ← (row (scores.take width) (mask.take maskWidth)).mapError (Fault.error start)
    return first ++ (← rows width maskWidth (start + 1) count maskCount (scores.drop width)
      (mask.drop maskWidth))

theorem row_length {scores mask shares : List α} (h : row scores mask = .ok shares) :
    shares.length = scores.length := by
  unfold row at h
  split at h
  · cases h
  · split at h
    · cases h
    · next sizes =>
      dsimp only at h
      split at h
      · cases h
      · split at h
        · cases h
          rw [List.length_map, weights, List.length_zipWith]
          omega
        · cases h

theorem rows_length {width maskWidth start count maskCount : Nat} {scores mask shares : List α}
    (h : rows width maskWidth start count maskCount scores mask = .ok shares)
    (size : scores.length = count * width) : shares.length = count * width := by
  fun_induction rows width maskWidth start count maskCount scores mask generalizing shares with
  | case1 => cases h; simp
  | case2 => cases h; rw [List.length_map, size]
  | case3 start count maskCount scores mask ih =>
    rw [Nat.succ_mul] at size ⊢
    cases first : row (scores.take width) (mask.take maskWidth) with
    | error fault =>
      rw [first] at h
      cases h
    | ok share =>
      cases rest : rows width maskWidth (start + 1) count maskCount (scores.drop width)
          (mask.drop maskWidth) with
      | error fault =>
        rw [first, rest] at h
        cases h
      | ok shareRest =>
        rw [first, rest] at h
        obtain rfl := Except.ok.inj h
        rw [List.length_append, row_length first, List.length_take,
          ih rest (by rw [List.length_drop]; omega)]
        omega

end Softmax

variable {α : Type} [Scalar α]

/-- The distribution of each row of scores; the first row without one is reported. -/
def maskedSoftmax (scores mask : Grid α) : Except (NetworkError α) (Grid α) :=
  match h : Softmax.rows scores.width mask.width 0 scores.height mask.height scores.flat mask.flat with
  | .ok shares => .ok ⟨scores.height, scores.width, shares, Softmax.rows_length h scores.size⟩
  | .error fault => .error fault

namespace Greedy

open Scalar

/-- The later one of two equal probabilities is taken. -/
def better (best : Option (Nat × α)) (candidate : Nat × α) : Option (Nat × α) :=
  match best with
  | none => some candidate
  | some found => if order found.2 candidate.2 = .gt then some found else some candidate

/-- Position of the greatest positive probability of a row. -/
def choice (probs : List α) : Option ActId :=
  (((probs.zipIdx.map fun (p, id) => (id, p)).filter fun (_, p) => lt zero p).foldl better
    none).map (·.1)

end Greedy

def greedyActions (probs : Grid α) : List (Option ActId) := probs.rows.map Greedy.choice

end SchemaNet
