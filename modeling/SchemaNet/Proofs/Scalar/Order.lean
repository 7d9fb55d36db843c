import Mathlib.Algebra.Order.Field.Basic
import Mathlib.Data.Rat.Cast.Order
import Mathlib.Tactic.Linarith
import SchemaNet.Network.Activation

/-!
Laws of the order of floating-point numbers. They speak of values that are numbers, i.e. equal
to themselves; nothing is said about the rounding of sums and products. The rational numbers
obey them as well, with rational functions in place of the transcendental ones.
-/

namespace SchemaNet

namespace Scalar

variable {α : Type} [Scalar α]

def IsNumber (x : α) : Prop := eq x x = true

/-- What comparisons, the maximum and division by a positive number do to the order. -/
class OrderLaws (α : Type) [Scalar α] : Prop where
  le_refl : ∀ {a : α}, IsNumber a → le a a = true
  le_trans : ∀ {a b c : α}, le a b = true → le b c = true → le a c = true
  le_of_not_lt : ∀ {a b : α}, IsNumber a → IsNumber b → lt a b = false → le b a = true
  number_of_finite : ∀ {a : α}, isFinite a = true → IsNumber a
  number_zero : IsNumber (zero : α)
  number_neg_one : IsNumber (-one : α)
  neg_one_le_zero : le (-one : α) zero = true
  max_choice : ∀ a b : α, max a b = a ∨ max a b = b
  number_of_div : ∀ {a c : α}, IsNumber (a / c) → IsNumber a
  div_le_div : ∀ {a b c : α}, lt zero c = true → isFinite c = true → le a b = true →
    le (a / c) (b / c) = true
  zero_div : ∀ {c : α}, lt zero c = true → isFinite c = true → (zero / c : α) = zero
  one_sub : ∀ {p : α}, le zero p = true → lt p one = true →
    lt zero (one - p) = true ∧ isFinite (one - p) = true

end Scalar

/-- The values of an activation are not below their greatest lower bound. -/
def Activation.AboveBound (activation : Activation) (α : Type) [Scalar α] : Prop :=
  ∀ bound : α, activation.lowerBound? = some bound →
    ∀ x, Scalar.IsNumber (activation.apply x) → Scalar.le bound (activation.apply x) = true

theorem Activation.lowerBound?_cases {α : Type} [Scalar α] {activation : Activation} {bound : α}
    (h : activation.lowerBound? = some bound) : bound = -Scalar.one ∨ bound = Scalar.zero := by
  cases activation <;> simp_all [Activation.lowerBound?]

/-- Rational numbers as the numbers of a network. -/
structure Rational where
  rat : Rat
  deriving DecidableEq, Repr

namespace Rational

def exp (x : Rat) : Rat := if x ≤ 0 then 1 / (1 - x) else 1 + x

/-- The functions have the signs, the bounds and the monotonicity of the real ones. -/
instance : Scalar Rational where
  add a b := ⟨a.rat + b.rat⟩
  sub a b := ⟨a.rat - b.rat⟩
  mul a b := ⟨a.rat * b.rat⟩
  div a b := ⟨a.rat / b.rat⟩
  neg a := ⟨-a.rat⟩
  ofNat n := ⟨n⟩
  negInf := ⟨-1⟩
  max a b := if a.rat ≤ b.rat then b else a
  abs a := ⟨if a.rat ≤ 0 then -a.rat else a.rat⟩
  sqrt a := a
  exp a := ⟨exp a.rat⟩
  expm1 a := ⟨exp a.rat - 1⟩
  log1p a := ⟨a.rat / (1 + a.rat)⟩
  tanh a := ⟨if a.rat ≤ 0 then a.rat / (1 - a.rat) else a.rat / (1 + a.rat)⟩
  lt a b := a.rat < b.rat
  le a b := a.rat ≤ b.rat
  eq a b := a.rat == b.rat
  isFinite _ := true
  order a b := compareOfLessAndEq a.rat b.rat
  display a := toString a.rat

theorem le_iff {a b : Rational} : Scalar.le a b = true ↔ a.rat ≤ b.rat := decide_eq_true_iff

theorem lt_iff {a b : Rational} : Scalar.lt a b = true ↔ a.rat < b.rat := decide_eq_true_iff

theorem isNumber (a : Rational) : Scalar.IsNumber a := beq_self_eq_true a.rat

theorem zero_rat : (Scalar.zero : Rational).rat = 0 := rfl

theorem one_rat : (Scalar.one : Rational).rat = 1 := rfl

theorem neg_rat (a : Rational) : (-a).rat = -a.rat := rfl

theorem sub_rat (a b : Rational) : (a - b).rat = a.rat - b.rat := rfl

theorem div_rat (a b : Rational) : (a / b).rat = a.rat / b.rat := rfl

instance : Scalar.OrderLaws Rational where
  le_refl _ := le_iff.2 le_rfl
  le_trans h h' := le_iff.2 ((le_iff.1 h).trans (le_iff.1 h'))
  le_of_not_lt _ _ h := le_iff.2 (not_lt.1 (decide_eq_false_iff_not.1 h))
  number_of_finite _ := isNumber _
  number_zero := isNumber _
  number_neg_one := isNumber _
  neg_one_le_zero := by
    rw [le_iff, neg_rat, one_rat, zero_rat]
    norm_num
  max_choice a b := by
    show (if a.rat ≤ b.rat then b else a) = a ∨ (if a.rat ≤ b.rat then b else a) = b
    split
    · exact .inr rfl
    · exact .inl rfl
  number_of_div _ := isNumber _
  div_le_div positive _ h := by
    rw [lt_iff, zero_rat] at positive
    rw [le_iff, div_rat, div_rat]
    exact div_le_div_of_nonneg_right (le_iff.1 h) positive.le
  zero_div _ _ := congrArg mk (zero_div _)
  one_sub _ h := by
    rw [lt_iff, one_rat] at h
    refine ⟨?_, rfl⟩
    rw [lt_iff, zero_rat, sub_rat, one_rat]
    exact sub_pos.2 h

theorem exp_pos (x : Rat) : 0 < exp x := by
  unfold exp
  split
  · next negative => exact one_div_pos.2 (by linarith)
  · next positive => linarith

theorem elu_aboveBound : Activation.elu.AboveBound Rational := by
  intro bound same x _
  obtain rfl := Option.some.inj same
  rw [le_iff, neg_rat, one_rat, Activation.apply]
  split
  · next positive =>
    rw [lt_iff, zero_rat] at positive
    linarith
  · show -1 ≤ exp x.rat - 1
    linarith [exp_pos x.rat]

end Rational

end SchemaNet
