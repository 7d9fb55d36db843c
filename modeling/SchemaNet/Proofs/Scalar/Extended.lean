import Mathlib.Analysis.SpecialFunctions.Log.Basic
import Mathlib.Data.EReal.Basic
import Mathlib.Data.NNReal.Basic
import Mathlib.Analysis.SpecialFunctions.Trigonometric.Basic
import SchemaNet.Proofs.Scalar.Maximum

/-!
Floating-point arithmetic without rounding: the real numbers with both infinities, a value that
is no number and a zero of either sign, under the rules of IEEE 754. Sums of opposite numbers
are the positive zero, and the maximum ignores a value that is no number.
-/

namespace SchemaNet

open scoped NNReal

inductive Extended where
  | nan
  | infinite (negative : Bool)
  | finite (negative : Bool) (magnitude : ℝ≥0)

namespace Extended

noncomputable section

open Classical

def toReal : Extended → ℝ
  | finite negative magnitude => if negative then -magnitude else magnitude
  | _ => 0

/-- The place of a number among the others. -/
def toEReal : Extended → EReal
  | infinite negative => if negative then ⊥ else ⊤
  | x => (x.toReal : EReal)

/-- A sum or a difference that is zero is the positive zero. -/
def ofReal (r : ℝ) : Extended := finite (decide (r < 0)) (Real.nnabs r)

def ofNNReal (r : ℝ≥0) : Extended := finite false r

def neg : Extended → Extended
  | nan => nan
  | infinite negative => infinite !negative
  | finite negative magnitude => finite (!negative) magnitude

def add : Extended → Extended → Extended
  | nan, _ => nan
  | _, nan => nan
  | infinite a, infinite b => if a = b then infinite a else nan
  | infinite a, finite _ _ => infinite a
  | finite _ _, infinite b => infinite b
  | finite a m, finite b n =>
    if a = b then finite a (m + n) else ofReal ((finite a m).toReal + (finite b n).toReal)

def mul : Extended → Extended → Extended
  | nan, _ => nan
  | _, nan => nan
  | infinite a, infinite b => infinite (a ^^ b)
  | infinite a, finite b n => if n = 0 then nan else infinite (a ^^ b)
  | finite a m, infinite b => if m = 0 then nan else infinite (a ^^ b)
  | finite a m, finite b n => finite (a ^^ b) (m * n)

def div : Extended → Extended → Extended
  | nan, _ => nan
  | _, nan => nan
  | infinite _, infinite _ => nan
  | infinite a, finite b _ => infinite (a ^^ b)
  | finite a _, infinite b => finite (a ^^ b) 0
  | finite a m, finite b n =>
    if n ≠ 0 then finite (a ^^ b) (m / n) else if m = 0 then nan else infinite (a ^^ b)

def max : Extended → Extended → Extended
  | nan, b => b
  | a, nan => a
  | a, b => if a.toEReal ≤ b.toEReal then b else a

def sqrt : Extended → Extended
  | infinite false => infinite false
  | finite negative magnitude =>
    if negative ∧ magnitude ≠ 0 then nan else finite negative (NNReal.sqrt magnitude)
  | _ => nan

def exp : Extended → Extended
  | nan => nan
  | infinite negative => if negative then ofNNReal 0 else infinite false
  | x => ofNNReal (Real.exp x.toReal).toNNReal

/-- A function of finite numbers whose values have the sign of the argument. -/
def signed (f : ℝ → ℝ) (negative : Bool) (magnitude : ℝ≥0) : Extended :=
  finite negative (Real.nnabs (f (finite negative magnitude).toReal))

def expm1 : Extended → Extended
  | nan => nan
  | infinite negative => if negative then finite true 1 else infinite false
  | finite negative magnitude => signed (Real.exp · - 1) negative magnitude

def log1p : Extended → Extended
  | infinite false => infinite false
  | finite negative magnitude =>
    if (finite negative magnitude).toReal < -1 then nan
    else if (finite negative magnitude).toReal = -1 then infinite true
    else signed (fun r => Real.log (1 + r)) negative magnitude
  | _ => nan

def tanh : Extended → Extended
  | nan => nan
  | infinite negative => finite negative 1
  | finite negative magnitude => signed Real.tanh negative magnitude

def abs : Extended → Extended
  | nan => nan
  | infinite _ => infinite false
  | finite _ magnitude => finite false magnitude

def isFinite : Extended → Bool
  | finite _ _ => true
  | _ => false

def isNegative : Extended → Bool
  | nan => false
  | infinite negative => negative
  | finite negative _ => negative

/-- In the total order a negative zero is before the positive one, and a value that is no number
after all others. -/
def order (a b : Extended) : Ordering :=
  if a = b then .eq
  else if a = nan then .gt
  else if b = nan then .lt
  else if a.toEReal < b.toEReal ∨ a.toEReal = b.toEReal ∧ a.isNegative then .lt
  else .gt

def display : Extended → String
  | nan => "NaN"
  | infinite negative => if negative then "-inf" else "inf"
  | finite negative _ => if negative then "a negative number" else "a number"

instance : Scalar Extended where
  add := add
  sub a b := a.add b.neg
  mul := mul
  div := div
  neg := neg
  ofNat n := ofNNReal n
  negInf := infinite true
  max := max
  abs := abs
  sqrt := sqrt
  exp := exp
  expm1 := expm1
  log1p := log1p
  tanh := tanh
  lt a b := decide (a ≠ nan ∧ b ≠ nan ∧ a.toEReal < b.toEReal)
  le a b := decide (a ≠ nan ∧ b ≠ nan ∧ a.toEReal ≤ b.toEReal)
  eq a b := decide (a ≠ nan ∧ b ≠ nan ∧ a.toEReal = b.toEReal)
  isFinite := isFinite
  order := order
  display := display

theorem le_iff {x y : Extended} :
    Scalar.le x y = true ↔ x ≠ nan ∧ y ≠ nan ∧ x.toEReal ≤ y.toEReal :=
  decide_eq_true_iff

theorem lt_iff {x y : Extended} :
    Scalar.lt x y = true ↔ x ≠ nan ∧ y ≠ nan ∧ x.toEReal < y.toEReal :=
  decide_eq_true_iff

theorem eq_iff {x y : Extended} :
    Scalar.eq x y = true ↔ x ≠ nan ∧ y ≠ nan ∧ x.toEReal = y.toEReal :=
  decide_eq_true_iff

end

/-! ## Finite numbers -/

variable {x y : Extended}

theorem toReal_ofReal (r : ℝ) : (ofReal r).toReal = r := by
  by_cases negative : r < 0
  · simp [ofReal, toReal, negative, abs_of_neg negative]
  · simp [ofReal, toReal, negative, abs_of_nonneg (not_lt.1 negative)]

@[simp] theorem toReal_ofNNReal (r : ℝ≥0) : (ofNNReal r).toReal = r := rfl

theorem toReal_neg (x : Extended) : (-x).toReal = -x.toReal := by
  cases x with
  | nan => exact neg_zero.symm
  | infinite negative => exact neg_zero.symm
  | finite negative magnitude =>
    show (neg _).toReal = _
    cases negative <;> simp [neg, toReal]

theorem isFinite_add (hx : x.isFinite = true) (hy : y.isFinite = true) :
    (x + y).isFinite = true ∧ (x + y).toReal = x.toReal + y.toReal := by
  obtain ⟨a, m, rfl⟩ : ∃ a m, x = finite a m := by cases x <;> simp_all [isFinite]
  obtain ⟨b, n, rfl⟩ : ∃ b n, y = finite b n := by cases y <;> simp_all [isFinite]
  show (add _ _).isFinite = true ∧ (add _ _).toReal = _
  rw [add]
  split
  · next same =>
    subst same
    cases a
    · simp [isFinite, toReal]
    · simp [isFinite, toReal, add_comm]
  · exact ⟨rfl, toReal_ofReal _⟩

theorem isFinite_neg (hx : x.isFinite = true) : (-x).isFinite = true := by
  cases x <;> first | rfl | cases hx

theorem isFinite_sub (hx : x.isFinite = true) (hy : y.isFinite = true) :
    (x - y).isFinite = true ∧ (x - y).toReal = x.toReal - y.toReal := by
  obtain ⟨finite, value⟩ := isFinite_add hx (isFinite_neg hy)
  rw [toReal_neg, ← sub_eq_add_neg] at value
  exact ⟨finite, value⟩

theorem isFinite_mul (hx : x.isFinite = true) (hy : y.isFinite = true) :
    (x * y).isFinite = true ∧ (x * y).toReal = x.toReal * y.toReal := by
  obtain ⟨a, m, rfl⟩ : ∃ a m, x = finite a m := by cases x <;> simp_all [isFinite]
  obtain ⟨b, n, rfl⟩ : ∃ b n, y = finite b n := by cases y <;> simp_all [isFinite]
  refine ⟨rfl, ?_⟩
  show (finite (a ^^ b) (m * n)).toReal = _
  cases a <;> cases b <;> simp [toReal]

theorem exp_of_isFinite (hx : x.isFinite = true) :
    Scalar.exp x = ofNNReal (Real.exp x.toReal).toNNReal := by
  cases x <;> first | rfl | cases hx

theorem ofNNReal_add (r s : ℝ≥0) : ofNNReal r + ofNNReal s = ofNNReal (r + s) := by
  show add (finite false r) (finite false s) = _
  rw [add, if_pos rfl, ofNNReal]

theorem ofNNReal_div {s : ℝ≥0} (r : ℝ≥0) (h : s ≠ 0) :
    ofNNReal r / ofNNReal s = ofNNReal (r / s) := if_pos h

theorem zero_eq : (Scalar.zero : Extended) = ofNNReal 0 := congrArg ofNNReal Nat.cast_zero

/-! ## Values that are no numbers, and infinities -/

theorem nan_add (x : Extended) : nan + x = nan := by cases x <;> rfl

theorem add_nan (x : Extended) : x + nan = nan := by cases x <;> rfl

theorem nan_sub (x : Extended) : nan - x = nan := nan_add (-x)

theorem infinite_sub_self (negative : Bool) :
    infinite negative - infinite negative = nan := by cases negative <;> rfl

theorem infinite_sub (negative : Bool) (hx : x.isFinite = true) :
    infinite negative - x = infinite negative := by cases x <;> first | rfl | cases hx

theorem infinite_add (negative : Bool) (hx : x.isFinite = true) :
    infinite negative + x = infinite negative := by cases x <;> first | rfl | cases hx

theorem toEReal_of_isFinite (hx : x.isFinite = true) : x.toEReal = (x.toReal : EReal) := by
  cases x <;> first | rfl | cases hx

theorem eq_cases (x : Extended) :
    x = nan ∨ x = infinite false ∨ x = infinite true ∨ x.isFinite = true := by
  cases x with
  | nan => exact .inl rfl
  | infinite negative => cases negative <;> simp
  | finite negative magnitude => exact .inr (.inr (.inr rfl))

theorem cases_of_below (number : x ≠ nan) (notTop : x ≠ infinite false) :
    x = infinite true ∨ x.isFinite = true :=
  (x.eq_cases.resolve_left number).resolve_left notTop

theorem ne_nan_of_isFinite (hx : x.isFinite = true) : x ≠ nan := by
  rintro rfl
  cases hx

theorem ne_infinite_of_isFinite (hx : x.isFinite = true) (negative : Bool) :
    x ≠ infinite negative := by
  rintro rfl
  cases hx

/-- A zero of either sign. -/
def IsZero (x : Extended) : Prop := ∃ negative, x = finite negative 0

theorem eq_zero_iff : Scalar.eq x Scalar.zero = true ↔ x.IsZero := by
  rw [eq_iff, zero_eq, ofNNReal]
  cases x with
  | nan => simp [IsZero]
  | infinite negative => cases negative <;> simp [IsZero, toEReal, toReal]
  | finite negative magnitude => cases negative <;> simp [IsZero, toEReal, toReal]

theorem ofNNReal_le {r s : ℝ≥0} : Scalar.le (ofNNReal r) (ofNNReal s) = true ↔ r ≤ s := by
  rw [le_iff, toEReal_of_isFinite rfl, toEReal_of_isFinite rfl, EReal.coe_le_coe_iff,
    toReal_ofNNReal, toReal_ofNNReal, NNReal.coe_le_coe]
  simp [ofNNReal]

theorem ofNNReal_le_zero {r : ℝ≥0} : Scalar.le (ofNNReal r) Scalar.zero = true ↔ r = 0 := by
  rw [zero_eq, ofNNReal_le, nonpos_iff_eq_zero]

theorem eq_infinite_of_top_le (number : x ≠ nan) (h : (⊤ : EReal) ≤ x.toEReal) :
    x = infinite false := by
  rcases x.eq_cases with rfl | rfl | rfl | finite
  · exact absurd rfl number
  · rfl
  · exact absurd h (by simp [toEReal])
  · rw [toEReal_of_isFinite finite] at h
    exact absurd h (not_le.2 (EReal.coe_lt_top _))

/-! ## The maximum -/

theorem nan_max (x : Extended) : Scalar.max nan x = x := rfl

theorem max_nan (x : Extended) : Scalar.max x nan = x := by cases x <;> rfl

theorem max_of_numbers (hx : x ≠ nan) (hy : y ≠ nan) :
    Scalar.max x y = if x.toEReal ≤ y.toEReal then y else x := by
  cases x with
  | nan => exact absurd rfl hx
  | infinite | finite =>
    cases y with
    | nan => exact absurd rfl hy
    | infinite | finite => rfl

theorem isNumber_iff : Scalar.IsNumber x ↔ x ≠ nan := by
  rw [Scalar.IsNumber, eq_iff]
  exact ⟨fun h => h.1, fun h => ⟨h, h, rfl⟩⟩

/-- The place of a number is its value, be it infinite. -/
noncomputable def placeOf : Extended → WithBot EReal
  | nan => ⊥
  | x => x.toEReal

theorem placeOf_of_number (hx : x ≠ nan) : placeOf x = x.toEReal := by
  cases x with
  | nan => exact absurd rfl hx
  | infinite | finite => rfl

theorem placeOf_max (x y : Extended) : placeOf (Scalar.max x y) = placeOf x ⊔ placeOf y := by
  by_cases hx : x = nan
  · rw [hx, nan_max]
    exact (bot_sup_eq _).symm
  by_cases hy : y = nan
  · rw [hy, max_nan]
    exact (sup_bot_eq _).symm
  rw [max_of_numbers hx hy, placeOf_of_number hx, placeOf_of_number hy, ← WithBot.coe_sup]
  split
  · next le => rw [sup_eq_right.2 le, placeOf_of_number hy]
  · next less => rw [sup_eq_left.2 (not_le.1 less).le, placeOf_of_number hx]

noncomputable instance : Scalar.MaxOrder Extended EReal where
  place := placeOf
  number_iff {x} := by
    rw [isNumber_iff]
    cases x <;> simp [placeOf]
  le_iff hx hy := by
    have number := isNumber_iff.1 hx
    have number' := isNumber_iff.1 hy
    rw [le_iff, placeOf_of_number number, placeOf_of_number number', WithBot.coe_le_coe]
    exact ⟨fun h => h.2.2, fun h => ⟨number, number', h⟩⟩
  place_max := placeOf_max
  max_choice x y := by
    by_cases hx : x = nan
    · exact .inr (by rw [hx, nan_max])
    by_cases hy : y = nan
    · exact .inl (by rw [hy, max_nan])
    rw [max_of_numbers hx hy]
    exact (ite_eq_or_eq _ y x).symm

/-! ## The laws of the order -/

theorem one_eq : (Scalar.one : Extended) = ofNNReal 1 := congrArg ofNNReal Nat.cast_one

theorem lt_ofNNReal_iff (hx : x.isFinite = true) {r : ℝ≥0} :
    Scalar.lt x (ofNNReal r) = true ↔ x.toReal < r := by
  rw [lt_iff, toEReal_of_isFinite hx, toEReal_of_isFinite rfl, EReal.coe_lt_coe_iff]
  exact ⟨fun h => h.2.2, fun h => ⟨ne_nan_of_isFinite hx, ne_nan_of_isFinite rfl, h⟩⟩

/-- A positive real number is one of the magnitudes. -/
theorem eq_ofNNReal_of_pos (positive : Scalar.lt Scalar.zero x = true)
    (finite : x.isFinite = true) : ∃ r : ℝ≥0, r ≠ 0 ∧ x = ofNNReal r := by
  obtain ⟨-, -, above⟩ := lt_iff.1 positive
  rw [zero_eq, toEReal_of_isFinite rfl, toEReal_of_isFinite finite, EReal.coe_lt_coe_iff,
    toReal_ofNNReal, NNReal.coe_zero] at above
  cases x with
  | nan | infinite => cases finite
  | finite negative magnitude =>
    cases negative
    · exact ⟨magnitude, (NNReal.coe_pos.1 above).ne', rfl⟩
    · have below : -(magnitude : ℝ) ≤ 0 := neg_nonpos.2 magnitude.2
      exact absurd above (not_lt.2 below)

theorem div_ofNNReal (hx : x.isFinite = true) {r : ℝ≥0} (h : r ≠ 0) :
    (x / ofNNReal r).isFinite = true ∧ (x / ofNNReal r).toReal = x.toReal / r := by
  cases x with
  | nan | infinite => cases hx
  | finite negative magnitude =>
    show (div (finite negative magnitude) (finite false r)).isFinite = true ∧
      (div (finite negative magnitude) (finite false r)).toReal = _
    rw [div, if_pos h]
    cases negative <;> simp [isFinite, toReal, neg_div]

theorem infinite_div (negative : Bool) (r : ℝ≥0) :
    infinite negative / ofNNReal r = infinite negative := by
  show div (infinite negative) (finite false r) = _
  rw [div, Bool.xor_false]

theorem div_ofNNReal_ne_nan {r : ℝ≥0} (h : r ≠ 0) (number : x ≠ nan) :
    x / ofNNReal r ≠ nan := by
  cases x with
  | nan => exact absurd rfl number
  | infinite negative =>
    rw [infinite_div]
    exact number
  | finite negative magnitude => exact ne_nan_of_isFinite (div_ofNNReal rfl h).1

theorem div_le_div_ofNNReal {r : ℝ≥0} (h : r ≠ 0) (le : Scalar.le x y = true) :
    Scalar.le (x / ofNNReal r) (y / ofNNReal r) = true := by
  obtain ⟨hx, hy, le⟩ := le_iff.1 le
  refine le_iff.2 ⟨div_ofNNReal_ne_nan h hx, div_ofNNReal_ne_nan h hy, ?_⟩
  rcases ((x.eq_cases).resolve_left hx) with rfl | rfl | real
  · obtain rfl := eq_infinite_of_top_le hy le
    exact le_rfl
  · rw [infinite_div]
    exact bot_le
  · rcases ((y.eq_cases).resolve_left hy) with rfl | rfl | real'
    · rw [infinite_div]
      exact le_top
    · rw [toEReal_of_isFinite real] at le
      exact absurd le (not_le.2 (EReal.bot_lt_coe _))
    · obtain ⟨finite, value⟩ := div_ofNNReal real h
      obtain ⟨finite', value'⟩ := div_ofNNReal real' h
      rw [toEReal_of_isFinite real, toEReal_of_isFinite real', EReal.coe_le_coe_iff] at le
      rw [toEReal_of_isFinite finite, toEReal_of_isFinite finite', EReal.coe_le_coe_iff, value,
        value']
      exact div_le_div_of_nonneg_right le r.2

theorem one_sub_pos {p : Extended} (least : Scalar.le Scalar.zero p = true)
    (most : Scalar.lt p Scalar.one = true) :
    Scalar.lt Scalar.zero (Scalar.one - p) = true ∧ (Scalar.one - p).isFinite = true := by
  obtain ⟨number, -, above⟩ := lt_iff.1 most
  have real : p.isFinite = true := by
    rcases ((p.eq_cases).resolve_left number) with rfl | rfl | real
    · exact absurd above (not_lt.2 le_top)
    · exact absurd (le_iff.1 least).2.2 (not_le.2 (EReal.bot_lt_coe _))
    · exact real
  obtain ⟨finite, value⟩ := isFinite_sub (x := Scalar.one) rfl real
  rw [one_eq, lt_ofNNReal_iff real] at most
  refine ⟨?_, finite⟩
  rw [zero_eq, lt_iff, toEReal_of_isFinite rfl, toEReal_of_isFinite finite, EReal.coe_lt_coe_iff,
    value, one_eq]
  exact ⟨ne_nan_of_isFinite rfl, one_eq ▸ ne_nan_of_isFinite finite, sub_pos.2 most⟩

instance : Scalar.OrderLaws Extended where
  le_refl number := le_iff.2 ⟨isNumber_iff.1 number, isNumber_iff.1 number, le_rfl⟩
  le_trans h h' :=
    le_iff.2 ⟨(le_iff.1 h).1, (le_iff.1 h').2.1, (le_iff.1 h).2.2.trans (le_iff.1 h').2.2⟩
  le_of_not_lt ha hb h := by
    refine le_iff.2 ⟨isNumber_iff.1 hb, isNumber_iff.1 ha, not_lt.1 fun less => ?_⟩
    rw [lt_iff.2 ⟨isNumber_iff.1 ha, isNumber_iff.1 hb, less⟩] at h
    cases h
  number_of_finite finite := isNumber_iff.2 (ne_nan_of_isFinite finite)
  number_zero := isNumber_iff.2 (ne_nan_of_isFinite rfl)
  number_neg_one := isNumber_iff.2 (ne_nan_of_isFinite rfl)
  neg_one_le_zero := by
    refine le_iff.2 ⟨ne_nan_of_isFinite rfl, ne_nan_of_isFinite rfl, ?_⟩
    rw [toEReal_of_isFinite rfl, toEReal_of_isFinite rfl, EReal.coe_le_coe_iff, toReal_neg,
      one_eq, zero_eq, toReal_ofNNReal, toReal_ofNNReal]
    norm_num
  max_choice := Scalar.MaxOrder.max_choice
  number_of_div {a c} number := by
    refine isNumber_iff.2 fun none => isNumber_iff.1 number ?_
    rw [none]
    cases c <;> rfl
  div_le_div positive finite le := by
    obtain ⟨r, nonzero, rfl⟩ := eq_ofNNReal_of_pos positive finite
    exact div_le_div_ofNNReal nonzero le
  zero_div positive finite := by
    obtain ⟨r, nonzero, rfl⟩ := eq_ofNNReal_of_pos positive finite
    rw [zero_eq, ofNNReal_div 0 nonzero, zero_div]
  one_sub := one_sub_pos

end Extended

end SchemaNet
