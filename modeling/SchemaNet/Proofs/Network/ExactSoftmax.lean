import Mathlib.Algebra.BigOperators.Ring.List
import Mathlib.Algebra.Order.BigOperators.Group.List
import SchemaNet.Network.Softmax
import SchemaNet.Proofs.KeyedList
import SchemaNet.Proofs.Scalar.Extended

/-!
One row of a masked softmax in exact arithmetic. If all enabled scores are real numbers or
minus infinity, and one is real, the row is the softmax of the enabled scores. Otherwise the
distance of some enabled score to the greatest one is no number, and neither is the sum.
-/

namespace SchemaNet

open Extended
open scoped NNReal

namespace Softmax

variable {scores mask : List Extended}

/-! ## The enabled scores -/

theorem isEnabled_iff {m : Extended} : isEnabled m = true ↔ ¬m.IsZero := by
  rw [isEnabled, Bool.not_eq_true', ← eq_zero_iff, Bool.not_eq_true]

theorem mem_enabledScores {x : Extended} :
    x ∈ enabledScores scores mask ↔ ∃ m, (x, m) ∈ scores.zip mask ∧ ¬m.IsZero := by
  simp [enabledScores, isEnabled_iff]

theorem enabledScores_eq_nil :
    enabledScores scores mask = [] ↔ ∀ x m, (x, m) ∈ scores.zip mask → m.IsZero := by
  simp only [List.eq_nil_iff_forall_not_mem, mem_enabledScores, not_exists, not_and, not_not]

/-- The greatest score is a number, at least all others and one of them, if there is any. -/
theorem greatest_spec (xs : List Extended) : greatest xs ≠ nan ∧
    (∀ x ∈ xs, x ≠ nan → x.toEReal ≤ (greatest xs).toEReal) ∧
      (greatest xs = infinite true ∨ greatest xs ∈ xs) := by
  have found : Scalar.IsGreatestNumber {x | x ∈ infinite true :: xs} (greatest xs) :=
    Scalar.foldl_max_greatest (infinite true) xs
  have bottom : Scalar.IsNumber (infinite true) := isNumber_iff.2 fun h => nomatch h
  exact ⟨isNumber_iff.1 (found.number.2 ⟨_, List.mem_cons_self, bottom⟩),
    fun x mem number =>
      (le_iff.1 (found.le x (List.mem_cons_of_mem _ mem) (isNumber_iff.2 number))).2.2,
    List.mem_cons.1 found.mem⟩

/-- No enabled score of a row is the positive infinity or no number, and one is real. -/
structure Normalizable (scores mask : List Extended) : Prop where
  below : ∀ x m, (x, m) ∈ scores.zip mask → ¬m.IsZero → x ≠ nan ∧ x ≠ infinite false
  real : ∃ x m, (x, m) ∈ scores.zip mask ∧ ¬m.IsZero ∧ x.isFinite = true

theorem isFinite_greatest (h : Normalizable scores mask) :
    (greatest (enabledScores scores mask)).isFinite = true := by
  obtain ⟨-, above, found⟩ := greatest_spec (enabledScores scores mask)
  obtain ⟨x, m, mem, enabled, finite⟩ := h.real
  have reached := above x (mem_enabledScores.2 ⟨m, mem, enabled⟩) (h.below x m mem enabled).1
  have notBottom : greatest (enabledScores scores mask) ≠ infinite true := by
    intro bottom
    rw [bottom, toEReal_of_isFinite finite] at reached
    exact absurd reached (not_le.2 (EReal.bot_lt_coe _))
  obtain ⟨m', mem', enabled'⟩ := mem_enabledScores.1 (found.resolve_left notBottom)
  obtain ⟨number, notTop⟩ := h.below _ m' mem' enabled'
  exact (cases_of_below number notTop).resolve_left notBottom

/-- Otherwise some enabled score has no distance to the greatest one. -/
theorem exists_sub_eq_nan (h : ¬Normalizable scores mask)
    (some_enabled : enabledScores scores mask ≠ []) :
    ∃ x ∈ enabledScores scores mask, x - greatest (enabledScores scores mask) = nan := by
  obtain ⟨number, above, found⟩ := greatest_spec (enabledScores scores mask)
  by_cases none : nan ∈ enabledScores scores mask
  · exact ⟨nan, none, nan_sub _⟩
  by_cases top : infinite false ∈ enabledScores scores mask
  · have reached := above _ top fun h => nomatch h
    have same := eq_infinite_of_top_le number reached
    exact ⟨_, top, same ▸ infinite_sub_self false⟩
  · -- all enabled scores are minus infinity, and so is the greatest one
    have bottom : ∀ x ∈ enabledScores scores mask, x = infinite true := by
      intro x mem
      rcases x.eq_cases with rfl | rfl | rfl | finite
      · exact absurd mem none
      · exact absurd mem top
      · rfl
      · obtain ⟨m, hm, enabled⟩ := mem_enabledScores.1 mem
        refine absurd ⟨fun y m' hm' enabled' => ?_, x, m, hm, enabled, finite⟩ h
        have own := mem_enabledScores.2 ⟨m', hm', enabled'⟩
        exact ⟨fun same => none (same ▸ own), fun same => top (same ▸ own)⟩
    obtain ⟨x, mem⟩ := List.exists_mem_of_ne_nil _ some_enabled
    have least : greatest (enabledScores scores mask) = infinite true :=
      found.elim id (bottom _)
    exact ⟨x, mem, by rw [least, bottom x mem, infinite_sub_self]⟩

/-! ## Sums of weights -/

theorem weights_eq_map (scores mask : List Extended) : weights scores mask =
    (scores.zip mask).map fun entry =>
      weight (greatest (enabledScores scores mask)) entry.1 entry.2 := by
  rw [weights, List.map_zip_eq_zipWith]
  rfl

theorem total_of_nan {ws : List Extended} (h : nan ∈ ws) : total ws = nan := by
  have stays : ∀ ws : List Extended, ws.foldl (· + ·) nan = nan := by
    intro ws
    induction ws with
    | nil => rfl
    | cons w rest ih => rw [List.foldl_cons, nan_add, ih]
  have fold : ∀ start : Extended, ws.foldl (· + ·) start = nan := by
    induction ws with
    | nil => cases h
    | cons w rest ih =>
      intro start
      rw [List.foldl_cons]
      rcases List.mem_cons.1 h with rfl | mem
      · rw [add_nan, stays]
      · exact ih mem _
  exact fold _

theorem total_ofNNReal (rs : List ℝ≥0) : total (rs.map ofNNReal) = ofNNReal rs.sum := by
  have fold : ∀ start : ℝ≥0,
      (rs.map ofNNReal).foldl (· + ·) (ofNNReal start) = ofNNReal (start + rs.sum) := by
    induction rs with
    | nil => simp
    | cons r rest ih =>
      intro start
      rw [List.map_cons, List.foldl_cons, ofNNReal_add, ih, List.sum_cons, add_assoc]
  rw [total, zero_eq, fold, zero_add]

/-! ## Masses -/

/-- The exponential of a real score; none of another one. -/
noncomputable def expScore (x : Extended) : ℝ≥0 :=
  if x.isFinite then (Real.exp x.toReal).toNNReal else 0

open Classical in
/-- The share of an entry, up to a factor that all entries of the row have in common. -/
noncomputable def mass (entry : Extended × Extended) : ℝ≥0 :=
  if entry.2.IsZero then 0 else expScore entry.1

/-- Masses divided by their sum. -/
noncomputable def normalized (masses : List ℝ≥0) : List Extended :=
  masses.map fun r => ofNNReal (r / masses.sum)

theorem normalized_scale (masses : List ℝ≥0) {scale : ℝ≥0} (h : scale ≠ 0) :
    normalized (masses.map (· * scale)) = normalized masses := by
  rw [normalized, List.map_map, List.sum_map_mul_right, List.map_id']
  refine List.map_congr_left fun r _ => ?_
  rw [Function.comp_apply, mul_div_mul_right _ _ h]

theorem normalized_sum {masses : List ℝ≥0} (h : masses.sum ≠ 0) :
    ((normalized masses).map toReal).sum = 1 := by
  have shares : (normalized masses).map toReal = (masses.map (· / masses.sum)).map NNReal.toReal := by
    rw [normalized, List.map_map, List.map_map]
    rfl
  rw [shares, ← NNReal.coe_list_sum]
  simp only [div_eq_mul_inv, List.sum_map_mul_right, List.map_id']
  rw [mul_inv_cancel₀ h, NNReal.coe_one]

theorem mass_pos {entry : Extended × Extended} (enabled : ¬entry.2.IsZero)
    (finite : entry.1.isFinite = true) : 0 < mass entry := by
  rw [mass, if_neg enabled, expScore, if_pos finite]
  exact Real.toNNReal_pos.2 (Real.exp_pos _)

theorem weight_eq_mass {top x m : Extended} (finite : top.isFinite = true)
    (below : ¬m.IsZero → x ≠ nan ∧ x ≠ infinite false) :
    weight top x m = ofNNReal (mass (x, m) * (Real.exp (-top.toReal)).toNNReal) := by
  by_cases disabled : m.IsZero
  · rw [weight, if_neg (mt isEnabled_iff.1 (not_not.2 disabled)), mass, if_pos disabled, zero_mul,
      zero_eq]
  · obtain ⟨number, notTop⟩ := below disabled
    rw [weight, if_pos (isEnabled_iff.2 disabled), mass, if_neg disabled, expScore]
    rcases cases_of_below number notTop with rfl | real
    · rw [infinite_sub _ finite, if_neg (by simp [isFinite]), zero_mul]
      rfl
    · obtain ⟨subtracted, value⟩ := isFinite_sub real finite
      rw [exp_of_isFinite subtracted, value, if_pos real, sub_eq_add_neg, Real.exp_add,
        Real.toNNReal_mul (Real.exp_pos _).le]

theorem weights_eq_mass (h : Normalizable scores mask) : ∃ scale : ℝ≥0, scale ≠ 0 ∧
    weights scores mask = (((scores.zip mask).map mass).map (· * scale)).map ofNNReal := by
  refine ⟨(Real.exp (-(greatest (enabledScores scores mask)).toReal)).toNNReal,
    (Real.toNNReal_pos.2 (Real.exp_pos _)).ne', ?_⟩
  rw [weights_eq_map, List.map_map, List.map_map]
  refine List.map_congr_left fun entry mem => ?_
  exact weight_eq_mass (isFinite_greatest h) (h.below entry.1 entry.2 mem)

theorem mass_sum_pos (h : Normalizable scores mask) : 0 < ((scores.zip mask).map mass).sum := by
  obtain ⟨x, m, mem, enabled, finite⟩ := h.real
  have own : 0 < mass (x, m) := mass_pos enabled finite
  exact own.trans_le
    (List.single_le_sum (fun _ _ => zero_le) _ (List.mem_map_of_mem mem))

/-- If such a row has an enabled score, the sum of its weights is no number. -/
theorem total_of_not_normalizable (h : ¬Normalizable scores mask)
    (some_enabled : enabledScores scores mask ≠ []) : total (weights scores mask) = nan := by
  obtain ⟨x, hx, apart⟩ := exists_sub_eq_nan h some_enabled
  obtain ⟨m, mem, enabled⟩ := mem_enabledScores.1 hx
  refine total_of_nan ?_
  rw [weights_eq_map]
  refine List.mem_map.2 ⟨(x, m), mem, ?_⟩
  rw [weight, if_pos (isEnabled_iff.2 enabled), apart]
  rfl

/-- The weights divided by their sum are the masses divided by theirs. -/
theorem shares_of_normalizable (h : Normalizable scores mask) :
    ∃ sum : ℝ≥0, sum ≠ 0 ∧ total (weights scores mask) = ofNNReal sum ∧
      (weights scores mask).map (· / total (weights scores mask)) =
        normalized ((scores.zip mask).map mass) := by
  obtain ⟨scale, nonzero, own⟩ := weights_eq_mass h
  have positive : (((scores.zip mask).map mass).map (· * scale)).sum ≠ 0 := by
    rw [List.sum_map_mul_right, List.map_id']
    exact mul_ne_zero (mass_sum_pos h).ne' nonzero
  have sum := own ▸ total_ofNNReal (((scores.zip mask).map mass).map (· * scale))
  refine ⟨_, positive, sum, ?_⟩
  rw [sum, ← normalized_scale _ nonzero, own, List.map_map, normalized]
  exact List.map_congr_left fun r _ => ofNNReal_div r positive

/-! ## The result of a row -/

theorem row_of_disabled (h : ∀ x m, (x, m) ∈ scores.zip mask → m.IsZero) :
    row scores mask = .error .allDisabled := by
  rw [row, enabledScores_eq_nil.2 h, List.isEmpty_nil, if_pos rfl]

theorem row_of_not_normalizable (h : ¬Normalizable scores mask)
    (size : scores.length = mask.length) {x m : Extended} (mem : (x, m) ∈ scores.zip mask)
    (enabled : ¬m.IsZero) : row scores mask = .error .nonFinite := by
  have some_enabled : enabledScores scores mask ≠ [] :=
    List.ne_nil_of_mem (mem_enabledScores.2 ⟨m, mem, enabled⟩)
  unfold row
  rw [if_neg (by simpa using some_enabled), if_neg (not_not.2 size)]
  dsimp only
  rw [total_of_not_normalizable h some_enabled]
  rfl

theorem isFinite_of_mem_normalized {masses : List ℝ≥0} {share : Extended}
    (h : share ∈ normalized masses) : share.isFinite = true := by
  obtain ⟨r, -, rfl⟩ := List.mem_map.1 h
  rfl

theorem row_of_normalizable (h : Normalizable scores mask) (size : scores.length = mask.length) :
    row scores mask = .ok (normalized ((scores.zip mask).map mass)) := by
  obtain ⟨x, m, mem, enabled, -⟩ := h.real
  obtain ⟨sum, positive, same, shares⟩ := shares_of_normalizable h
  have some_enabled : enabledScores scores mask ≠ [] :=
    List.ne_nil_of_mem (mem_enabledScores.2 ⟨m, mem, enabled⟩)
  unfold row
  rw [if_neg (by simpa using some_enabled), if_neg (not_not.2 size)]
  dsimp only
  rw [shares, same, if_neg, if_pos]
  · exact List.all_eq_true.2 fun share => isFinite_of_mem_normalized
  · intro failed
    rcases Bool.or_eq_true_iff.1 failed with infinite | none
    · cases infinite
    · exact positive (ofNNReal_le_zero.1 none)

/-- A positive finite sum of weights is only found in rows whose shares are all finite. -/
theorem shares_finite (finite : Scalar.isFinite (total (weights scores mask)) = true)
    (positive : Scalar.le (total (weights scores mask)) Scalar.zero = false) :
    ((weights scores mask).map (· / total (weights scores mask))).all Scalar.isFinite = true := by
  by_cases h : Normalizable scores mask
  · obtain ⟨-, -, -, shares⟩ := shares_of_normalizable h
    rw [shares]
    exact List.all_eq_true.2 fun share => isFinite_of_mem_normalized
  · by_cases disabled : enabledScores scores mask = []
    · have none : weights scores mask = ((scores.zip mask).map fun _ => 0).map ofNNReal := by
        rw [weights_eq_map, List.map_map]
        refine List.map_congr_left fun entry mem => ?_
        have off := enabledScores_eq_nil.1 disabled entry.1 entry.2 mem
        rw [weight, if_neg (mt isEnabled_iff.1 (not_not.2 off)), zero_eq]
        rfl
      have sum : total (weights scores mask) = ofNNReal 0 := by
        rw [none, total_ofNNReal]
        simp
      rw [sum, ofNNReal_le_zero.2 rfl] at positive
      cases positive
    · rw [total_of_not_normalizable h disabled] at finite
      cases finite

/-! ## Rows with the same shares -/

/-- Scores that differ by a factor of their exponentials only. -/
structure Alike (scale : ℝ≥0) (x y : Extended) : Prop where
  nan_iff : y = nan ↔ x = nan
  top_iff : y = infinite false ↔ x = infinite false
  finite_iff : y.isFinite = true ↔ x.isFinite = true
  exp_eq : expScore y = expScore x * scale

theorem Alike.refl (x : Extended) : Alike 1 x x := ⟨.rfl, .rfl, .rfl, (mul_one _).symm⟩

theorem Alike.shift (x : Extended) (r : ℝ) :
    Alike (Real.exp r).toNNReal x (x + ofReal r) := by
  have finite : (ofReal r).isFinite = true := rfl
  rcases x.eq_cases with rfl | rfl | rfl | real
  · rw [nan_add]
    exact ⟨.rfl, .rfl, .rfl, (zero_mul _).symm⟩
  · rw [infinite_add _ finite]
    exact ⟨.rfl, .rfl, .rfl, (zero_mul _).symm⟩
  · rw [infinite_add _ finite]
    exact ⟨.rfl, .rfl, .rfl, (zero_mul _).symm⟩
  · obtain ⟨added, value⟩ := isFinite_add real finite
    refine ⟨iff_of_false (ne_nan_of_isFinite added) (ne_nan_of_isFinite real),
      iff_of_false (ne_infinite_of_isFinite added false) (ne_infinite_of_isFinite real false),
      iff_of_true added real, ?_⟩
    rw [expScore, expScore, if_pos added, if_pos real, value, toReal_ofReal, Real.exp_add,
      Real.toNNReal_mul (Real.exp_pos _).le]

variable {others : List Extended} {scale : ℝ≥0}

/-- The same entries are enabled, and the scores there are alike. -/
abbrev AlikeRows (scale : ℝ≥0) (scores others mask : List Extended) : Prop :=
  List.Forall₂ (fun entry other : Extended × Extended =>
    entry.2 = other.2 ∧ (¬entry.2.IsZero → Alike scale entry.1 other.1))
    (scores.zip mask) (others.zip mask)

theorem AlikeRows.normalizable_iff (h : AlikeRows scale scores others mask) :
    Normalizable others mask ↔ Normalizable scores mask := by
  constructor
  · rintro ⟨below, y, m, mem, enabled, finite⟩
    refine ⟨fun x m mem enabled => ?_, ?_⟩
    · obtain ⟨⟨z, _⟩, hz, rfl, alike⟩ := forall₂_mem_left h mem
      obtain ⟨number, notTop⟩ := below z m hz enabled
      exact ⟨mt (alike enabled).nan_iff.2 number, mt (alike enabled).top_iff.2 notTop⟩
    · obtain ⟨⟨x, _⟩, hx, rfl, alike⟩ := forall₂_mem_right h mem
      exact ⟨x, _, hx, enabled, (alike enabled).finite_iff.1 finite⟩
  · rintro ⟨below, x, m, mem, enabled, finite⟩
    refine ⟨fun y m mem enabled => ?_, ?_⟩
    · obtain ⟨⟨z, _⟩, hz, rfl, alike⟩ := forall₂_mem_right h mem
      obtain ⟨number, notTop⟩ := below z _ hz enabled
      exact ⟨mt (alike enabled).nan_iff.1 number, mt (alike enabled).top_iff.1 notTop⟩
    · obtain ⟨⟨y, _⟩, hy, rfl, alike⟩ := forall₂_mem_left h mem
      exact ⟨y, m, hy, enabled, (alike enabled).finite_iff.2 finite⟩

theorem AlikeRows.masses (h : AlikeRows scale scores others mask) :
    (others.zip mask).map mass = ((scores.zip mask).map mass).map (· * scale) := by
  rw [List.map_map, eq_comm, ← List.forall₂_eq_eq_eq, List.forall₂_map_left_iff,
    List.forall₂_map_right_iff]
  refine h.imp fun entry other alike => ?_
  rw [Function.comp_apply, mass, mass, ← alike.1]
  split
  · exact zero_mul _
  · next enabled => exact (alike.2 enabled).exp_eq.symm

theorem AlikeRows.row_eq (h : AlikeRows scale scores others mask) (nonzero : scale ≠ 0)
    (size : scores.length = mask.length) (size' : others.length = mask.length) :
    row others mask = row scores mask := by
  by_cases good : Normalizable scores mask
  · rw [row_of_normalizable good size, row_of_normalizable (h.normalizable_iff.2 good) size',
      h.masses, normalized_scale _ nonzero]
  · by_cases disabled : ∀ x m, (x, m) ∈ scores.zip mask → m.IsZero
    · rw [row_of_disabled disabled, row_of_disabled]
      intro y m mem
      obtain ⟨⟨x, _⟩, hentry, rfl, -⟩ := forall₂_mem_right h mem
      exact disabled x _ hentry
    · simp only [not_forall] at disabled
      obtain ⟨x, m, mem, enabled⟩ := disabled
      obtain ⟨other, hother, rfl, -⟩ := forall₂_mem_left h mem
      rw [row_of_not_normalizable good size mem enabled,
        row_of_not_normalizable (mt h.normalizable_iff.1 good) size' hother enabled]

end Softmax

end SchemaNet
