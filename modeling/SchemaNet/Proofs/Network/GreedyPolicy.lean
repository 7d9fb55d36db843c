import SchemaNet.Proofs.Network.BatchRows
import SchemaNet.Proofs.Network.MaskedSoftmax

/-!
The greedy policy. A scan keeps the better of two entries and prefers the later one, so it ends
with the last of the greatest positive entries of a row. For the probabilities of a network these
are the enabled actions of the greatest score, as the exponential keeps the order of the scores.
-/

namespace SchemaNet

open Extended Softmax
open scoped NNReal

/-! ## The scan of a row -/

namespace Greedy

variable {α β : Type} [Scalar α]

/-- The positive entries of a row, each behind its place. -/
def candidates (probs : List α) : List (Nat × α) :=
  (probs.zipIdx.map fun (p, id) => (id, p)).filter fun (_, p) => Scalar.lt Scalar.zero p

theorem mem_candidates {probs : List α} {i : Nat} {p : α} :
    (i, p) ∈ candidates probs ↔ probs[i]? = some p ∧ Scalar.lt Scalar.zero p = true := by
  simp [candidates, List.mem_zipIdx_iff_getElem?]

theorem candidates_pairwise (probs : List α) :
    (candidates probs).Pairwise fun a b => a.1 < b.1 := by
  refine List.Pairwise.filter _ ?_
  rw [List.pairwise_map]
  exact zipIdx_pairwise probs 0

/-- Among these entries the total order is that of a key. -/
def RankedBy [LinearOrder β] (key : α → β) (entries : List (Nat × α)) : Prop :=
  ∀ a ∈ entries, ∀ b ∈ entries, Scalar.order a.2 b.2 = .gt ↔ key b.2 < key a.2

theorem foldl_better_isSome {entries : List (Nat × α)} (some_entry : entries ≠ []) :
    (entries.foldl better none).isSome := by
  induction entries using List.reverseRecOn with
  | nil => exact absurd rfl some_entry
  | append_singleton before entry ih =>
    rw [List.foldl_append, List.foldl_cons, List.foldl_nil]
    cases before.foldl better none with
    | none => rfl
    | some found =>
      rw [better]
      split <;> rfl

/-- The scan ends with an entry that no earlier one exceeds and no later one reaches. -/
theorem foldl_better_split [LinearOrder β] {key : α → β} {entries : List (Nat × α)}
    (ranked : RankedBy key entries) {best : Nat × α} (h : entries.foldl better none = some best) :
    ∃ before after, entries = before ++ best :: after ∧
      (∀ entry ∈ before, key entry.2 ≤ key best.2) ∧
        ∀ entry ∈ after, key entry.2 < key best.2 := by
  induction entries using List.reverseRecOn generalizing best with
  | nil => cases h
  | append_singleton others last ih =>
    rw [List.foldl_append, List.foldl_cons, List.foldl_nil] at h
    have rankedOthers : RankedBy key others := fun a ha b hb =>
      ranked a (List.mem_append_left _ ha) b (List.mem_append_left _ hb)
    cases ran : others.foldl better none with
    | none =>
      have none_before : others = [] := by
        by_contra some_before
        simpa [ran] using foldl_better_isSome some_before
      rw [ran] at h
      obtain rfl : last = best := Option.some.inj h
      exact ⟨[], [], by simp [none_before], by simp, by simp⟩
    | some found =>
      obtain ⟨before, after, rfl, reached, below⟩ := ih rankedOthers ran
      have compared := ranked found (by simp) last (by simp)
      rw [ran, better] at h
      by_cases worse : Scalar.order found.2 last.2 = .gt
      · -- the last entry is smaller, so it joins those behind the one that was found
        rw [if_pos worse] at h
        obtain rfl : found = best := Option.some.inj h
        refine ⟨before, after ++ [last], by simp, reached, ?_⟩
        simp only [List.mem_append, List.mem_singleton]
        rintro entry (mem | rfl)
        · exact below entry mem
        · exact compared.1 worse
      · rw [if_neg worse] at h
        obtain rfl : last = best := Option.some.inj h
        have above : key found.2 ≤ key last.2 := not_lt.1 fun less => worse (compared.2 less)
        refine ⟨before ++ found :: after, [], rfl, ?_, by simp⟩
        simp only [List.mem_append, List.mem_cons]
        rintro entry (mem | rfl | mem)
        · exact (reached entry mem).trans above
        · exact above
        · exact (below entry mem).le.trans above

theorem choice_eq_none {probs : List α} : choice probs = none ↔
    ∀ (i : Nat) (p : α), probs[i]? = some p → ¬Scalar.lt Scalar.zero p = true := by
  have scanned : choice probs = ((candidates probs).foldl better none).map (·.1) := rfl
  have none_left : choice probs = none ↔ candidates probs = [] := by
    rw [scanned, Option.map_eq_none_iff]
    constructor
    · intro none_found
      by_contra some_entry
      simpa [none_found] using foldl_better_isSome some_entry
    · intro empty
      rw [empty]
      rfl
  rw [none_left, List.eq_nil_iff_forall_not_mem]
  constructor
  · intro empty i p read positive
    exact empty (i, p) (mem_candidates.2 ⟨read, positive⟩)
  · rintro positive ⟨i, p⟩ mem
    obtain ⟨read, own⟩ := mem_candidates.1 mem
    exact positive i p read own

/-- The choice is the last of the greatest positive entries. -/
theorem choice_greatest [LinearOrder β] {key : α → β} {probs : List α}
    (ranked : RankedBy key (candidates probs)) {i : Nat} (h : choice probs = some i) :
    ∃ p, probs[i]? = some p ∧ Scalar.lt Scalar.zero p = true ∧
      ∀ (j : Nat) (q : α), probs[j]? = some q → Scalar.lt Scalar.zero q = true →
        key q ≤ key p ∧ (key p ≤ key q → j ≤ i) := by
  obtain ⟨⟨place, p⟩, ran, rfl⟩ := Option.map_eq_some_iff.1 h
  obtain ⟨before, after, split, reached, below⟩ := foldl_better_split ranked ran
  have own : (place, p) ∈ candidates probs := by simp [split]
  obtain ⟨read, positive⟩ := mem_candidates.1 own
  refine ⟨p, read, positive, fun j q hq above => ?_⟩
  have mem := mem_candidates.2 ⟨hq, above⟩
  have increasing := candidates_pairwise probs
  rw [split, List.pairwise_append] at increasing
  rw [split, List.mem_append, List.mem_cons] at mem
  rcases mem with earlier | same | later
  · have place_lt := increasing.2.2 _ earlier _ List.mem_cons_self
    exact ⟨reached _ earlier, fun _ => place_lt.le⟩
  · obtain ⟨rfl, rfl⟩ := Prod.mk.inj same
    exact ⟨le_rfl, fun _ => le_rfl⟩
  · have less := below _ later
    exact ⟨less.le, fun le => absurd less (not_lt.2 le)⟩

end Greedy

/-! ## Shares of scores -/

namespace Extended

theorem zero_lt_ofNNReal {r : ℝ≥0} : Scalar.lt Scalar.zero (ofNNReal r) = true ↔ 0 < r := by
  rw [zero_eq, lt_ofNNReal_iff rfl, toReal_ofNNReal, NNReal.coe_lt_coe]

theorem order_ofNNReal {r s : ℝ≥0} :
    Scalar.order (ofNNReal r) (ofNNReal s) = .gt ↔ (ofNNReal s).toReal < (ofNNReal r).toReal := by
  have places : ∀ t : ℝ≥0, (ofNNReal t).toEReal = ((t : ℝ) : EReal) :=
    fun t => toEReal_of_isFinite rfl
  show order (ofNNReal r) (ofNNReal s) = .gt ↔ _
  simp only [order, places, toReal_ofNNReal, NNReal.coe_lt_coe, EReal.coe_lt_coe_iff]
  rcases lt_trichotomy r s with less | rfl | greater
  · simp [ofNNReal, less, less.ne, less.le]
  · simp
  · simp [ofNNReal, greater, greater.ne', greater.le, isNegative]

end Extended

namespace Softmax

/-- Scores whose exponentials are in order are in order. -/
theorem le_of_expScore_le {x y : Extended} (real : x.isFinite = true) (number : y ≠ nan)
    (notTop : y ≠ infinite false) (h : expScore y ≤ expScore x) : Scalar.le y x = true := by
  refine le_iff.2 ⟨number, ne_nan_of_isFinite real, ?_⟩
  rcases cases_of_below number notTop with rfl | real'
  · exact bot_le
  · rw [expScore, expScore, if_pos real, if_pos real',
      Real.toNNReal_le_toNNReal_iff (Real.exp_pos _).le, Real.exp_le_exp] at h
    rw [toEReal_of_isFinite real, toEReal_of_isFinite real', EReal.coe_le_coe_iff]
    exact h

theorem mass_pos_iff {x m : Extended} : 0 < mass (x, m) ↔ ¬m.IsZero ∧ x.isFinite = true := by
  constructor
  · intro positive
    by_contra absent
    rw [not_and_or, not_not] at absent
    rcases absent with disabled | infinite
    · simp [mass, disabled] at positive
    · simp [mass, expScore, infinite] at positive
  · rintro ⟨enabled, real⟩
    exact mass_pos enabled real

theorem rankedBy_normalized (masses : List ℝ≥0) :
    Greedy.RankedBy toReal (Greedy.candidates (normalized masses)) := by
  have share : ∀ entry ∈ Greedy.candidates (normalized masses), ∃ r, entry.2 = ofNNReal r := by
    rintro ⟨i, p⟩ mem
    have own := List.mem_of_getElem? (Greedy.mem_candidates.1 mem).1
    obtain ⟨r, -, rfl⟩ := List.mem_map.1 own
    exact ⟨_, rfl⟩
  intro a ha b hb
  obtain ⟨r, hr⟩ := share a ha
  obtain ⟨s, hs⟩ := share b hb
  rw [hr, hs]
  exact order_ofNNReal

theorem normalized_getElem? {masses : List ℝ≥0} {j : Nat} {r : ℝ≥0} (h : masses[j]? = some r) :
    (normalized masses)[j]? = some (ofNNReal (r / masses.sum)) := by
  rw [normalized, List.getElem?_map, h, Option.map_some]

/-- The last one of the greatest masses is chosen, if there is any. -/
theorem choice_normalized {masses : List ℝ≥0} (some_mass : 0 < masses.sum) :
    ∃ a r, Greedy.choice (normalized masses) = some a ∧ masses[a]? = some r ∧ 0 < r ∧
      ∀ j s, masses[j]? = some s → 0 < s → s ≤ r ∧ (r ≤ s → j ≤ a) := by
  have shares_pos : ∀ {s : ℝ≥0}, Scalar.lt Scalar.zero (ofNNReal (s / masses.sum)) = true ↔ 0 < s :=
    zero_lt_ofNNReal.trans (div_pos_iff_of_pos_right some_mass)
  have positive : ∃ r ∈ masses, 0 < r := by
    by_contra none_pos
    have zeros : ∀ r ∈ masses, r = 0 := by simpa using none_pos
    exact some_mass.ne' (List.sum_eq_zero zeros)
  cases chosen : Greedy.choice (normalized masses) with
  | none =>
    obtain ⟨r, mem, above⟩ := positive
    obtain ⟨j, read⟩ := List.getElem?_of_mem mem
    have disabled := Greedy.choice_eq_none.1 chosen j _ (normalized_getElem? read)
    exact absurd (shares_pos.2 above) disabled
  | some a =>
    obtain ⟨p, hp, above, greatest⟩ := Greedy.choice_greatest (rankedBy_normalized masses) chosen
    rw [normalized, List.getElem?_map, Option.map_eq_some_iff] at hp
    obtain ⟨r, hr, rfl⟩ := hp
    refine ⟨a, r, rfl, hr, shares_pos.1 above, fun j s hs hpos => ?_⟩
    have compared := greatest j _ (normalized_getElem? hs) (shares_pos.2 hpos)
    simpa only [toReal_ofNNReal, NNReal.coe_le_coe, div_le_div_iff_of_pos_right some_mass]
      using compared

end Softmax

namespace Greedy

variable {scores mask probs : Grid Extended}

/-- The action with the greatest score of the enabled actions of a row, which is a real number,
and the last one with this score. -/
structure Best (scores mask : Grid Extended) (i a : Nat) : Prop where
  enabled : ∃ m, mask.entry? i a = some m ∧ ¬m.IsZero
  greatest : ∃ x, scores.entry? i a = some x ∧ x.isFinite = true ∧
    ∀ j y m, scores.entry? i j = some y → mask.entry? i j = some m → ¬m.IsZero →
      Scalar.le y x = true ∧ (Scalar.le x y = true → j ≤ a)

/-- The greedy choice from a softmax is the last one of the best enabled actions. -/
theorem exists_best (same : scores.dims = mask.dims) (h : maskedSoftmax scores mask = .ok probs)
    {i : Nat} (inside : i < scores.height) :
    ∃ a, (greedyActions probs)[i]? = some (some a) ∧ Best scores mask i a := by
  have height : probs.height = scores.height := (Grid.size_eq ((maskedSoftmax_rows same).1 h).1).1
  obtain ⟨shares, hshares⟩ := probs.exists_row (height ▸ inside)
  obtain ⟨row, maskRow, hrow, hmask, good, rfl⟩ := row_of_maskedSoftmax same h hshares
  have read : ∀ {j : Nat} {x m : Extended}, row[j]? = some x → maskRow[j]? = some m →
      ((row.zip maskRow).map mass)[j]? = some (mass (x, m)) := by
    intro j x m hx hm
    have entry : (row.zip maskRow)[j]? = some (x, m) := List.getElem?_zip_eq_some.2 ⟨hx, hm⟩
    rw [List.getElem?_map, entry, Option.map_some]
  obtain ⟨a, r, chosen, hr, positive, greatest⟩ := choice_normalized (mass_sum_pos good)
  rw [List.getElem?_map, Option.map_eq_some_iff] at hr
  obtain ⟨⟨x, m⟩, entry, rfl⟩ := hr
  obtain ⟨hx, hm⟩ := List.getElem?_zip_eq_some.1 entry
  obtain ⟨enabled, real⟩ := mass_pos_iff.1 positive
  have top : x ≠ infinite false := ne_infinite_of_isFinite real false
  refine ⟨a, ?_, ⟨m, Grid.entry?_eq_some.2 ⟨maskRow, hmask, hm⟩, enabled⟩,
    x, Grid.entry?_eq_some.2 ⟨row, hrow, hx⟩, real, fun j y m' hy hm' enabled' => ?_⟩
  · rw [greedyActions, List.getElem?_map, hshares, Option.map_some, chosen]
  simp only [Grid.entry?, hrow, hmask, Option.bind_some] at hy hm'
  have own : (row.zip maskRow)[j]? = some (y, m') := List.getElem?_zip_eq_some.2 ⟨hy, hm'⟩
  obtain ⟨number, notTop⟩ := good.below y m' (List.mem_of_getElem? own) enabled'
  have masses : ∀ {z n : Extended}, ¬n.IsZero → mass (z, n) = expScore z := fun h => if_neg h
  rcases cases_of_below number notTop with rfl | real'
  · -- minus infinity is below the chosen score and never reaches it
    refine ⟨le_iff.2 ⟨number, ne_nan_of_isFinite real, bot_le⟩, fun reached => ?_⟩
    have bound := (le_iff.1 reached).2.2
    rw [toEReal_of_isFinite real] at bound
    exact absurd bound (not_le.2 (EReal.bot_lt_coe _))
  · have compared := greatest j _ (read hy hm') (mass_pos enabled' real')
    rw [masses enabled, masses enabled'] at compared
    exact ⟨le_of_expScore_le real number notTop compared.1,
      fun reached => compared.2 (expScore_mono notTop reached)⟩

end Greedy

namespace PolicyNetwork

/-- Probabilities are the softmax of the scores. -/
theorem exists_scores {net : PolicyNetwork Extended} {weights : Weights Extended}
    {input : MaskedInput Extended} {probs : Grid Extended}
    (h : net.forward weights input = .ok probs) :
    ∃ scores, net.logits weights input.toPolicyInput = .ok scores ∧
      scores.dims = [input.props.height, net.problem.numActions] ∧
        scores.dims = input.mask.dims ∧ maskedSoftmax scores input.mask = .ok probs := by
  obtain ⟨checked, ran⟩ := check_bind_eq_ok.1 h
  have sized := checkMasked_eq_ok.1 checked
  obtain ⟨evaluation, evaluated, -⟩ := Memory.bind_eq_ok.1 ran
  have scored : net.logits weights input.toPolicyInput = .ok evaluation.scores := by
    rw [logits, checkInput_eq_ok.2 sized.unmasked, ok_bind, evaluated, ok_bind, pure_eq_ok]
  have tabulated := logits_tabulate scored
  have dims : evaluation.scores.dims = [input.props.height, net.problem.numActions] := by
    rw [Grid.dims, tabulated.height_eq, tabulated.width_eq]
    rfl
  exact ⟨evaluation.scores, scored, dims, dims.trans sized.mask_dims.symm,
    (forward_eq_softmax sized scored).symm.trans h⟩

/-- Whenever a network gives probabilities, the greedy choice in every row is an enabled action
whose score no enabled one exceeds, and the last one of these in the order of the actions. In any
matrix the rows without a choice are those without a positive entry. -/
theorem greedy_takes_last_best :
    (∀ (net : PolicyNetwork Extended) (weights : Weights Extended) (input : MaskedInput Extended)
        (probs : Grid Extended), net.forward weights input = .ok probs →
      ∃ scores, net.logits weights input.toPolicyInput = .ok scores ∧
        scores.dims = [input.props.height, net.problem.numActions] ∧
          (greedyActions probs).length = input.props.height ∧
            ∀ i < input.props.height, ∃ a < net.problem.numActions,
              (greedyActions probs)[i]? = some (some a) ∧ Greedy.Best scores input.mask i a) ∧
    (∀ (net : PolicyNetwork Extended) (weights : Weights Extended) (input : MaskedInput Extended)
        (probs : Grid Extended), (Memory.forward net weights input).outcome.1 = .ok probs →
      net.forward weights input = .ok probs) ∧
    ∀ (α : Type) [Scalar α] (probs : Grid α), (greedyActions probs).length = probs.height ∧
      ∀ i < probs.height, (greedyActions probs)[i]? = some none ↔
        ∀ j p, probs.entry? i j = some p → ¬Scalar.lt Scalar.zero p = true := by
  refine ⟨fun net weights input probs h => ?_, fun _ _ _ _ => Memory.forward_eq_ok,
    fun α _ probs => ⟨by rw [greedyActions, List.length_map, probs.rows_shape.count],
      fun i inside => ?_⟩⟩
  · obtain ⟨scores, scored, dims, same, ran⟩ := exists_scores h
    have height : scores.height = input.props.height := (List.cons.inj dims).1
    have probsHeight : probs.height = scores.height :=
      (Grid.size_eq ((maskedSoftmax_rows same).1 ran).1).1
    refine ⟨scores, scored, dims, ?_, fun i inside => ?_⟩
    · rw [greedyActions, List.length_map, probs.rows_shape.count, probsHeight, height]
    · obtain ⟨a, chosen, best⟩ := Greedy.exists_best same ran (height ▸ inside)
      obtain ⟨x, hx, -⟩ := best.greatest
      obtain ⟨row, hrow, hx⟩ := Grid.entry?_eq_some.1 hx
      have bound : a < scores.width :=
        Grid.length_of_row hrow ▸ (List.getElem?_eq_some_iff.1 hx).1
      have width : scores.width = net.problem.numActions := (List.cons.inj (List.cons.inj dims).2).1
      exact ⟨a, width ▸ bound, chosen, best⟩
  · obtain ⟨row, hrow⟩ := probs.exists_row inside
    simp only [greedyActions, List.getElem?_map, hrow, Option.map_some, Option.some.injEq,
      Greedy.choice_eq_none, Grid.entry?, Option.bind_some]

end PolicyNetwork

namespace Crossroad

/-! Three actions without slots. Two have the same score, and the one with the greatest score is
disabled. -/

def domain : Domain := ⟨"crossroad", [⟨"left", [], []⟩, ⟨"right", [], []⟩, ⟨"up", [], []⟩], [], rfl⟩

def actions : List GroundAction := [⟨"left", [], []⟩, ⟨"right", [], []⟩, ⟨"up", [], []⟩]

/-- There are neither propositions nor goals. -/
def atoms : List GroundAtom := []

def problem : Problem where
  name := "turn"
  domain := domain
  actions := actions
  props := atoms
  goals := atoms
  index := Problem.Index.ofEntities domain actions atoms atoms
  actions_sorted := by decide
  props_sorted := by decide
  goals_sorted := by decide
  faultless := by decide
  index_eq := rfl

def arch : Architecture := ⟨[], 0, false⟩

/-- A block without inputs, whose output is its bias. -/
noncomputable def block (score : ℝ≥0) : WeightBlock Extended := ⟨⟨0, 1, [], rfl⟩, [ofNNReal score]⟩

noncomputable def weights : Weights Extended := ⟨domain, arch, [block 1, block 1, block 5], rfl⟩

noncomputable def net : PolicyNetwork Extended :=
  ⟨problem, arch, .default, Wiring.ofProblem problem, [0, 1, 2], rfl, by rfl⟩

noncomputable def input : MaskedInput Extended where
  props := ⟨1, 0, [], rfl⟩
  extra := ⟨1, 3, 0, [], rfl⟩
  mask := ⟨1, 3, [finite false 1, finite false 1, finite false 0], rfl⟩

theorem scores_eq : net.logits weights input.toPolicyInput =
    .ok ⟨1, 3, [ofNNReal 1, ofNNReal 1, ofNNReal 5], rfl⟩ := by
  have sums : net.logits weights input.toPolicyInput = .ok ⟨1, 3, [Scalar.zero + ofNNReal 1,
    Scalar.zero + ofNNReal 1, Scalar.zero + ofNNReal 5], rfl⟩ := by rfl
  rw [sums]
  simp only [zero_eq, ofNNReal_add, zero_add]

theorem sized : input.Sized problem arch := ⟨⟨rfl, rfl⟩, rfl⟩

theorem right_enabled : ¬(finite false 1).IsZero := by
  rintro ⟨negative, h⟩
  simp at h

theorem row_normalizable : Normalizable [ofNNReal 1, ofNNReal 1, ofNNReal 5]
    [finite false 1, finite false 1, finite false 0] where
  below x m mem _ := by
    simp only [List.zip_cons_cons, List.zip_nil_right, List.mem_cons, Prod.mk.injEq,
      List.not_mem_nil, or_false] at mem
    rcases mem with ⟨rfl, rfl⟩ | ⟨rfl, rfl⟩ | ⟨rfl, rfl⟩
    all_goals exact ⟨(fun h => nomatch h), fun h => nomatch h⟩
  real := ⟨ofNNReal 1, finite false 1, List.mem_cons_self, right_enabled, rfl⟩

/-- Of the two enabled actions with the same score the later one is taken. -/
theorem right_taken : ∃ probs, net.forward weights input = .ok probs ∧
    greedyActions probs = [some 1] := by
  have same : Grid.dims ⟨1, 3, [ofNNReal 1, ofNNReal 1, ofNNReal 5], rfl⟩ = input.mask.dims := rfl
  obtain ⟨probs, shared⟩ := (exists_maskedSoftmax_iff_normalizableAt same).2 fun i inside => by
    obtain rfl : i = 0 := Nat.lt_one_iff.1 inside
    exact (normalizableAt_iff rfl rfl).2 row_normalizable
  have ran : net.forward weights input = .ok probs :=
    (PolicyNetwork.forward_eq_softmax sized scores_eq).trans shared
  obtain ⟨scores, scored, -, length, taken⟩ :=
    PolicyNetwork.greedy_takes_last_best.1 net weights input probs ran
  obtain rfl := Except.ok.inj (scores_eq.symm.trans scored)
  obtain ⟨a, bound, chosen, ⟨⟨m, hm, enabled⟩, x, hx, -, greatest⟩⟩ := taken 0 Nat.one_pos
  have later := (greatest 1 (ofNNReal 1) (finite false 1) rfl rfl right_enabled).2
  have one : a = 1 := by
    match a with
    | 0 =>
      obtain rfl : ofNNReal 1 = x := Option.some.inj hx
      have reached := later (le_iff.2 ⟨(fun h => nomatch h), (fun h => nomatch h), le_rfl⟩)
      exact absurd reached (by decide)
    | 1 => rfl
    | 2 =>
      obtain rfl : finite false 0 = m := Option.some.inj hm
      exact absurd ⟨false, rfl⟩ enabled
  obtain ⟨first, single⟩ := List.length_eq_one_iff.1 length
  rw [single, one] at chosen
  exact ⟨probs, ran, single.trans (congrArg (fun choice => [choice]) (Option.some.inj chosen))⟩

end Crossroad

end SchemaNet
