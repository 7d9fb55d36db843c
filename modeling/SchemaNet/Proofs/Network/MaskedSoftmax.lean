import SchemaNet.Proofs.Network.ExactSoftmax
import SchemaNet.Proofs.Network.SoftmaxRows

/-!
The masked softmax of a matrix of scores in exact arithmetic: which matrices have one and what
is reported otherwise, and that it consists of distributions over the enabled entries, whatever
the scores of the others are.
-/

namespace SchemaNet

open Extended Softmax
open scoped NNReal

/-- The entry in a row and a column. -/
def Grid.entry? {α : Type} (grid : Grid α) (i j : Nat) : Option α :=
  grid.rows[i]?.bind (·[j]?)

theorem Grid.entry?_eq_some {α : Type} {grid : Grid α} {i j : Nat} {x : α} :
    grid.entry? i j = some x ↔ ∃ row, grid.rows[i]? = some row ∧ row[j]? = some x :=
  Option.bind_eq_some_iff

theorem Grid.length_of_row {α : Type} {grid : Grid α} {i : Nat} {row : List α}
    (h : grid.rows[i]? = some row) : row.length = grid.width :=
  grid.rows_shape.each row (List.mem_of_getElem? h)

theorem Grid.exists_row {α : Type} (grid : Grid α) {i : Nat} (h : i < grid.height) :
    ∃ row, grid.rows[i]? = some row :=
  ⟨_, List.getElem?_eq_getElem (by rwa [grid.rows_shape.count])⟩

variable {scores mask probs : Grid Extended}

/-! ## Rows that can be normalized -/

/-- In a row of a matrix no enabled score is the positive infinity or no number, and one is a
real number. -/
structure NormalizableAt (scores mask : Grid Extended) (i : Nat) : Prop where
  below : ∀ j x m, scores.entry? i j = some x → mask.entry? i j = some m → ¬m.IsZero →
    x ≠ nan ∧ x ≠ infinite false
  real : ∃ j x m, scores.entry? i j = some x ∧ mask.entry? i j = some m ∧ ¬m.IsZero ∧
    x.isFinite = true

theorem mem_zip_iff {row maskRow : List Extended} {x m : Extended} :
    (x, m) ∈ row.zip maskRow ↔ ∃ j : Nat, row[j]? = some x ∧ maskRow[j]? = some m := by
  simp only [List.mem_iff_getElem?, List.getElem?_zip_eq_some]

theorem normalizableAt_iff {i : Nat} {row maskRow : List Extended}
    (hrow : scores.rows[i]? = some row) (hmask : mask.rows[i]? = some maskRow) :
    NormalizableAt scores mask i ↔ Normalizable row maskRow := by
  constructor
  · rintro ⟨below, j, x, m, hx, hm, enabled, finite⟩
    simp only [Grid.entry?, hrow, hmask, Option.bind_some] at below hx hm
    refine ⟨fun x m mem enabled => ?_, x, m, mem_zip_iff.2 ⟨j, hx, hm⟩, enabled, finite⟩
    obtain ⟨j, hx, hm⟩ := mem_zip_iff.1 mem
    exact below j x m hx hm enabled
  · rintro ⟨below, x, m, mem, enabled, finite⟩
    obtain ⟨j, hx, hm⟩ := mem_zip_iff.1 mem
    constructor <;> simp only [Grid.entry?, hrow, hmask, Option.bind_some]
    · exact fun j x m hx hm enabled => below x m (mem_zip_iff.2 ⟨j, hx, hm⟩) enabled
    · exact ⟨j, x, m, hx, hm, enabled, finite⟩

theorem rowResults_getElem? {i : Nat} {row maskRow : List Extended}
    (hrow : scores.rows[i]? = some row) (hmask : mask.rows[i]? = some maskRow) :
    (rowResults scores mask)[i]? = some (Softmax.row row maskRow) :=
  List.getElem?_zipWith_eq_some.2 ⟨row, maskRow, hrow, hmask, rfl⟩

/-- What a row without a distribution is reported as. -/
theorem rowResults_cases (same : scores.dims = mask.dims) {i : Nat} (inside : i < scores.height) :
    (NormalizableAt scores mask i → ∃ shares,
      (rowResults scores mask)[i]? = some (.ok shares)) ∧
    (¬NormalizableAt scores mask i →
      ((∀ j m, mask.entry? i j = some m → m.IsZero) →
        (rowResults scores mask)[i]? = some (.error .allDisabled)) ∧
      (∀ j m, mask.entry? i j = some m → ¬m.IsZero →
        (rowResults scores mask)[i]? = some (.error .nonFinite))) := by
  obtain ⟨height, width⟩ := Grid.size_eq same
  obtain ⟨row, hrow⟩ := scores.exists_row inside
  obtain ⟨maskRow, hmask⟩ := mask.exists_row (height ▸ inside)
  have size : row.length = maskRow.length := by
    rw [Grid.length_of_row hrow, Grid.length_of_row hmask, width]
  rw [normalizableAt_iff hrow hmask, rowResults_getElem? hrow hmask]
  refine ⟨fun good => ⟨_, congrArg some (row_of_normalizable good size)⟩, fun bad =>
    ⟨fun disabled => ?_, fun j m hm enabled => ?_⟩⟩
  · refine congrArg some (row_of_disabled fun x m mem => ?_)
    obtain ⟨j, -, hm⟩ := mem_zip_iff.1 mem
    exact disabled j m (Grid.entry?_eq_some.2 ⟨maskRow, hmask, hm⟩)
  · rw [Grid.entry?, hmask, Option.bind_some] at hm
    have bound : j < row.length := size ▸ (List.getElem?_eq_some_iff.1 hm).1
    have mem := mem_zip_iff.2 ⟨j, List.getElem?_eq_getElem bound, hm⟩
    exact congrArg some (row_of_not_normalizable bad size mem enabled)

/-! ## Scores that do not matter -/

/-- The enabled scores of a row of `other` are what a function makes of those of `scores`. -/
def EnabledImage (f : Extended → Extended) (scores other mask : Grid Extended) (i : Nat) : Prop :=
  ∀ j x y m, scores.entry? i j = some x → other.entry? i j = some y → mask.entry? i j = some m →
    ¬m.IsZero → y = f x

/-- The enabled scores of a row are the same in `other`, or one constant is added to them. -/
def ShiftedAt (scores other mask : Grid Extended) (i : Nat) : Prop :=
  EnabledImage id scores other mask i ∨
    ∃ c : ℝ, EnabledImage (· + ofReal c) scores other mask i

theorem EnabledImage.alikeRows {f : Extended → Extended} {other : Grid Extended} {i : Nat}
    (image : EnabledImage f scores other mask i) {scale : ℝ≥0} (alike : ∀ x, Alike scale x (f x))
    {row otherRow maskRow : List Extended} (hrow : scores.rows[i]? = some row)
    (hother : other.rows[i]? = some otherRow) (hmask : mask.rows[i]? = some maskRow)
    (size : row.length = maskRow.length) (size' : otherRow.length = maskRow.length) :
    AlikeRows scale row otherRow maskRow := by
  refine List.forall₂_iff_get.2 ⟨by simp [size, size'], fun j hj hj' => ?_⟩
  simp only [List.length_zip, Nat.lt_min] at hj hj'
  simp only [List.get_eq_getElem, List.getElem_zip, true_and]
  intro enabled
  have entries := image j row[j] otherRow[j] maskRow[j]
    (Grid.entry?_eq_some.2 ⟨row, hrow, List.getElem?_eq_getElem hj.1⟩)
    (Grid.entry?_eq_some.2 ⟨otherRow, hother, List.getElem?_eq_getElem hj'.1⟩)
    (Grid.entry?_eq_some.2 ⟨maskRow, hmask, List.getElem?_eq_getElem hj.2⟩) enabled
  exact entries ▸ alike row[j]

theorem ShiftedAt.exists_image {other : Grid Extended} {i : Nat}
    (shifted : ShiftedAt scores other mask i) : ∃ f scale, scale ≠ 0 ∧
      (∀ x, Alike scale x (f x)) ∧ EnabledImage f scores other mask i := by
  rcases shifted with same | ⟨c, added⟩
  · exact ⟨id, 1, one_ne_zero, .refl, same⟩
  · exact ⟨_, _, (Real.toNNReal_pos.2 (Real.exp_pos c)).ne', (.shift · c), added⟩

/-- Only the differences of the enabled scores of a row matter. -/
theorem maskedSoftmax_shifted (same : scores.dims = mask.dims) {other : Grid Extended}
    (dims : other.dims = scores.dims) (shifted : ∀ i, ShiftedAt scores other mask i) :
    maskedSoftmax other mask = maskedSoftmax scores mask := by
  obtain ⟨height, width⟩ := Grid.size_eq same
  obtain ⟨height', width'⟩ := Grid.size_eq dims
  refine maskedSoftmax_congr same dims (List.ext_getElem? fun i => ?_)
  by_cases inside : i < scores.height
  · obtain ⟨row, hrow⟩ := scores.exists_row inside
    obtain ⟨maskRow, hmask⟩ := mask.exists_row (height ▸ inside)
    obtain ⟨otherRow, hother⟩ := other.exists_row (height' ▸ inside)
    have size : row.length = maskRow.length := by
      rw [Grid.length_of_row hrow, Grid.length_of_row hmask, width]
    have size' : otherRow.length = maskRow.length := by
      rw [Grid.length_of_row hother, Grid.length_of_row hmask, width', width]
    obtain ⟨f, scale, nonzero, alike, image⟩ := (shifted i).exists_image
    have rows := image.alikeRows alike hrow hother hmask size size'
    rw [rowResults_getElem? hrow hmask, rowResults_getElem? hother hmask,
      rows.row_eq nonzero size size']
  · rw [List.getElem?_eq_none, List.getElem?_eq_none]
    · rw [rowResults_length same]
      exact Nat.le_of_not_lt inside
    · rw [rowResults_length (dims.trans same), height']
      exact Nat.le_of_not_lt inside

/-! ## What is reported -/

theorem exists_maskedSoftmax_iff_normalizableAt (same : scores.dims = mask.dims) :
    (∃ probs, maskedSoftmax scores mask = .ok probs) ↔
      ∀ i < scores.height, NormalizableAt scores mask i := by
  have size := rowResults_length same
  rw [exists_maskedSoftmax_iff same]
  constructor
  · intro good i inside
    by_contra bad
    have bound : i < (rowResults scores mask).length := size ▸ inside
    obtain ⟨shares, hshares⟩ := good _ (List.getElem_mem bound)
    have own := (List.getElem?_eq_getElem bound).trans (congrArg some hshares)
    obtain ⟨disabled, nonFinite⟩ := (rowResults_cases same inside).2 bad
    by_cases off : ∀ j m, mask.entry? i j = some m → m.IsZero
    · cases (disabled off).symm.trans own
    · simp only [not_forall] at off
      obtain ⟨j, m, hm, enabled⟩ := off
      cases (nonFinite j m hm enabled).symm.trans own
  · intro good result mem
    obtain ⟨i, hi⟩ := List.getElem?_of_mem mem
    have inside : i < scores.height := size ▸ (List.getElem?_eq_some_iff.1 hi).1
    obtain ⟨shares, hshares⟩ := (rowResults_cases same inside).1 (good i inside)
    exact ⟨shares, Option.some.inj (hi.symm.trans hshares)⟩

/-- There is a softmax if all rows can be normalized; otherwise the first row that cannot is
reported, as one without enabled scores or as one with a sum that is not finite. Disabled scores
cause no fault. The shares of a row need not be looked at again: they are finite whenever the sum
of the weights is positive and finite. -/
theorem maskedSoftmax_reports_first_row (same : scores.dims = mask.dims) :
    ((∃ probs, maskedSoftmax scores mask = .ok probs) ↔
      ∀ i < scores.height, NormalizableAt scores mask i) ∧
    (∀ i < scores.height, ¬NormalizableAt scores mask i →
      (∀ j < i, NormalizableAt scores mask j) →
        ((∀ j m, mask.entry? i j = some m → m.IsZero) →
          maskedSoftmax scores mask = .error (.allActionsDisabled i)) ∧
        ((∃ j m, mask.entry? i j = some m ∧ ¬m.IsZero) →
          maskedSoftmax scores mask = .error (.nonFiniteOutput i))) ∧
    (∀ other : Grid Extended, other.dims = scores.dims →
      (∀ i, EnabledImage id scores other mask i) →
        maskedSoftmax other mask = maskedSoftmax scores mask) ∧
    ∀ row maskRow : List Extended,
      Scalar.isFinite (total (weights row maskRow)) = true →
        Scalar.le (total (weights row maskRow)) Scalar.zero = false →
          ((weights row maskRow).map (· / total (weights row maskRow))).all Scalar.isFinite =
            true := by
  refine ⟨exists_maskedSoftmax_iff_normalizableAt same, fun i inside bad before => ?_,
    fun other dims agree => maskedSoftmax_shifted same dims fun i => .inl (agree i),
    fun row maskRow => shares_finite⟩
  have earlier : ∀ j < i, ∃ shares, (rowResults scores mask)[j]? = some (.ok shares) :=
    fun j hj => (rowResults_cases same (hj.trans inside)).1 (before j hj)
  obtain ⟨disabled, nonFinite⟩ := (rowResults_cases same inside).2 bad
  exact ⟨fun off => maskedSoftmax_of_failed same (disabled off) earlier,
    fun ⟨j, m, hm, enabled⟩ => maskedSoftmax_of_failed same (nonFinite j m hm enabled) earlier⟩

namespace GarbledScores

/-! Two rows of scores, with values that are no numbers under zeros of the mask. -/

noncomputable def garbled : Grid Extended :=
  ⟨2, 3, [finite true 1, nan, infinite true, infinite false, nan, finite false 0], rfl⟩

/-- In the first row the second entry is disabled, in the second one every entry is. -/
noncomputable def allowed : Grid Extended :=
  ⟨2, 3, [finite false 1, finite true 0, nan, finite false 0, finite true 0, finite false 0], rfl⟩

theorem first_normalizable :
    Normalizable [finite true 1, nan, infinite true] [finite false 1, finite true 0, nan] where
  below x m mem enabled := by
    simp only [List.zip_cons_cons, List.zip_nil_right, List.mem_cons, Prod.mk.injEq,
      List.not_mem_nil, or_false] at mem
    rcases mem with ⟨rfl, rfl⟩ | ⟨rfl, rfl⟩ | ⟨rfl, rfl⟩
    · exact ⟨(fun h => nomatch h), fun h => nomatch h⟩
    · exact absurd ⟨true, rfl⟩ enabled
    · exact ⟨(fun h => nomatch h), fun h => nomatch h⟩
  real := by
    refine ⟨finite true 1, finite false 1, List.mem_cons_self, ?_, rfl⟩
    rintro ⟨negative, h⟩
    simp at h

theorem second_row_reported : garbled.dims = allowed.dims ∧ NormalizableAt garbled allowed 0 ∧
    ¬NormalizableAt garbled allowed 1 ∧ (∀ j m, allowed.entry? 1 j = some m → m.IsZero) ∧
      maskedSoftmax garbled allowed = .error (.allActionsDisabled 1) := by
  have first : NormalizableAt garbled allowed 0 := (normalizableAt_iff rfl rfl).2 first_normalizable
  have disabled : ∀ j m, allowed.entry? 1 j = some m → m.IsZero := by
    intro j m h
    obtain ⟨row, hrow, hm⟩ := Grid.entry?_eq_some.1 h
    obtain rfl : [finite false 0, finite true 0, finite false 0] = row := Option.some.inj hrow
    have mem := List.mem_of_getElem? hm
    simp only [List.mem_cons, List.not_mem_nil, or_false] at mem
    rcases mem with rfl | rfl | rfl <;> exact ⟨_, rfl⟩
  have second : ¬NormalizableAt garbled allowed 1 := by
    rintro ⟨-, j, x, m, -, hm, enabled, -⟩
    exact enabled (disabled j m hm)
  have same : garbled.dims = allowed.dims := rfl
  obtain ⟨-, reports, -⟩ := maskedSoftmax_reports_first_row same
  have reported := (reports 1 (by decide) second fun j hj => by
    obtain rfl : j = 0 := by omega
    exact first).1 disabled
  exact ⟨same, first, second, disabled, reported⟩

end GarbledScores

/-! ## What the result is -/

/-- A row of the result holds the masses of its entries, divided by their sum. -/
theorem row_of_maskedSoftmax (same : scores.dims = mask.dims)
    (h : maskedSoftmax scores mask = .ok probs) {i : Nat} {shares : List Extended}
    (hshares : probs.rows[i]? = some shares) : ∃ row maskRow, scores.rows[i]? = some row ∧
      mask.rows[i]? = some maskRow ∧ Normalizable row maskRow ∧
        shares = normalized ((row.zip maskRow).map mass) := by
  obtain ⟨-, results⟩ := (maskedSoftmax_rows same).1 h
  have own : (rowResults scores mask)[i]? = some (.ok shares) := by
    rw [results, List.getElem?_map, hshares, Option.map_some]
  obtain ⟨row, maskRow, hrow, hmask, ran⟩ := List.getElem?_zipWith_eq_some.1 own
  have inside : i < scores.height := by
    rw [← scores.rows_shape.count]
    exact (List.getElem?_eq_some_iff.1 hrow).1
  have every := (exists_maskedSoftmax_iff_normalizableAt same).1 ⟨probs, h⟩
  have good := (normalizableAt_iff hrow hmask).1 (every i inside)
  have size : row.length = maskRow.length := by
    rw [Grid.length_of_row hrow, Grid.length_of_row hmask, (Grid.size_eq same).2]
  refine ⟨row, maskRow, hrow, hmask, good, ?_⟩
  exact Except.ok.inj (ran.symm.trans (row_of_normalizable good size))

theorem entry_of_maskedSoftmax (same : scores.dims = mask.dims)
    (h : maskedSoftmax scores mask = .ok probs) {i : Nat} {shares : List Extended}
    (hshares : probs.rows[i]? = some shares) : ∃ sum : ℝ≥0, 0 < sum ∧
      ∀ j x m p, scores.entry? i j = some x → mask.entry? i j = some m →
        probs.entry? i j = some p → p = ofNNReal (mass (x, m) / sum) ∧
          (¬m.IsZero → x ≠ nan ∧ x ≠ infinite false) := by
  obtain ⟨row, maskRow, hrow, hmask, good, rfl⟩ := row_of_maskedSoftmax same h hshares
  refine ⟨_, mass_sum_pos good, fun j x m p hx hm hp => ?_⟩
  simp only [Grid.entry?, hrow, hmask, hshares, Option.bind_some] at hx hm hp
  have entry : (row.zip maskRow)[j]? = some (x, m) := List.getElem?_zip_eq_some.2 ⟨hx, hm⟩
  rw [normalized, List.getElem?_map, List.getElem?_map, entry, Option.map_some,
    Option.map_some] at hp
  exact ⟨(Option.some.inj hp).symm, good.below x m (List.mem_of_getElem? entry)⟩

theorem expScore_mono {x y : Extended} (top : y ≠ infinite false)
    (h : Scalar.le x y = true) : expScore x ≤ expScore y := by
  obtain ⟨hx, hy, le⟩ := le_iff.1 h
  by_cases real : x.isFinite = true
  · rcases cases_of_below hy top with rfl | real'
    · rw [toEReal_of_isFinite real] at le
      exact absurd le (not_le.2 (EReal.bot_lt_coe _))
    · rw [toEReal_of_isFinite real, toEReal_of_isFinite real', EReal.coe_le_coe_iff] at le
      rw [expScore, expScore, if_pos real, if_pos real']
      exact Real.toNNReal_le_toNNReal (Real.exp_le_exp.2 le)
  · rw [expScore, if_neg real]
    exact zero_le

/-- The result is a distribution over the enabled entries of each row, which depends on the
differences of the enabled scores only: a disabled entry gets zero, an enabled one a positive
share if its score is real and zero if it is minus infinity, a greater score no smaller share.
Disabled scores have no influence on it. -/
theorem maskedSoftmax_distribution (same : scores.dims = mask.dims)
    (h : maskedSoftmax scores mask = .ok probs) :
    probs.dims = scores.dims ∧
    (∀ i j x m p, scores.entry? i j = some x → mask.entry? i j = some m →
      probs.entry? i j = some p →
        (m.IsZero → p = Scalar.zero) ∧
        (¬m.IsZero → (x = infinite true ∧ p = Scalar.zero) ∨
          (x.isFinite = true ∧ p.isFinite = true ∧ 0 < p.toReal))) ∧
    (∀ row ∈ probs.rows, (∀ p ∈ row, p.isFinite = true) ∧ (row.map toReal).sum = 1) ∧
    (∀ i j k x y m m' p q, scores.entry? i j = some x → mask.entry? i j = some m →
      probs.entry? i j = some p → scores.entry? i k = some y → mask.entry? i k = some m' →
        probs.entry? i k = some q → ¬m.IsZero → ¬m'.IsZero →
          (Scalar.le x y = true → Scalar.le p q = true) ∧ (Scalar.eq x y = true → p = q)) ∧
    ∀ other : Grid Extended, other.dims = scores.dims → (∀ i, ShiftedAt scores other mask i) →
      maskedSoftmax other mask = .ok probs := by
  refine ⟨((maskedSoftmax_rows same).1 h).1, fun i j x m p hx hm hp => ?_, fun row mem => ?_,
    fun i j k x y m m' p q hx hm hp hy hm' hq enabled enabled' => ?_,
    fun other dims shifted => (maskedSoftmax_shifted same dims shifted).trans h⟩
  · obtain ⟨shares, hshares, -⟩ := Grid.entry?_eq_some.1 hp
    obtain ⟨sum, positive, entries⟩ := entry_of_maskedSoftmax same h hshares
    obtain ⟨rfl, below⟩ := entries j x m p hx hm hp
    refine ⟨fun disabled => ?_, fun enabled => ?_⟩
    · rw [mass, if_pos disabled, zero_div, zero_eq]
    · obtain ⟨number, notTop⟩ := below enabled
      rcases cases_of_below number notTop with rfl | real
      · refine .inl ⟨rfl, ?_⟩
        rw [mass, if_neg enabled, expScore, if_neg (by simp [isFinite]), zero_div, zero_eq]
      · have own : 0 < mass (x, m) := mass_pos enabled real
        exact .inr ⟨real, rfl, div_pos own positive⟩
  · obtain ⟨i, hi⟩ := List.getElem?_of_mem mem
    obtain ⟨source, maskRow, -, -, good, rfl⟩ := row_of_maskedSoftmax same h hi
    exact ⟨fun p => isFinite_of_mem_normalized, normalized_sum (mass_sum_pos good).ne'⟩
  · obtain ⟨shares, hshares, -⟩ := Grid.entry?_eq_some.1 hp
    obtain ⟨sum, positive, entries⟩ := entry_of_maskedSoftmax same h hshares
    obtain ⟨rfl, below⟩ := entries j x m p hx hm hp
    obtain ⟨rfl, below'⟩ := entries k y m' q hy hm' hq
    have grows : ∀ {x y : Extended} {m m' : Extended}, ¬m.IsZero → ¬m'.IsZero →
        y ≠ infinite false → Scalar.le x y = true → mass (x, m) / sum ≤ mass (y, m') / sum := by
      intro x y m m' enabled enabled' top le
      rw [mass, mass, if_neg enabled, if_neg enabled']
      exact div_le_div_of_nonneg_right (expScore_mono top le) zero_le
    refine ⟨fun le => ofNNReal_le.2 (grows enabled enabled' (below' enabled').2 le), fun equal => ?_⟩
    obtain ⟨number, number', equal⟩ := eq_iff.1 equal
    exact congrArg ofNNReal (le_antisymm
      (grows enabled enabled' (below' enabled').2 (le_iff.2 ⟨number, number', equal.le⟩))
      (grows enabled' enabled (below enabled).2 (le_iff.2 ⟨number', number, equal.ge⟩)))

namespace GarbledScores

noncomputable def firstScores : Grid Extended := ⟨1, 3, [finite true 1, nan, infinite true], rfl⟩

noncomputable def firstMask : Grid Extended :=
  ⟨1, 3, [finite false 1, finite true 0, nan], rfl⟩

theorem first_row_distribution : firstScores.dims = firstMask.dims ∧
    ∃ probs, maskedSoftmax firstScores firstMask = .ok probs ∧
      ∀ row ∈ probs.rows, (row.map toReal).sum = 1 := by
  have all : ∀ i < firstScores.height, NormalizableAt firstScores firstMask i := by
    intro i inside
    obtain rfl : i = 0 := Nat.lt_one_iff.1 inside
    exact (normalizableAt_iff rfl rfl).2 first_normalizable
  have same : firstScores.dims = firstMask.dims := rfl
  obtain ⟨probs, h⟩ := (exists_maskedSoftmax_iff_normalizableAt same).2 all
  obtain ⟨-, -, sums, -⟩ := maskedSoftmax_distribution same h
  exact ⟨same, probs, h, fun row mem => (sums row mem).2⟩

end GarbledScores

end SchemaNet
