import Mathlib.Algebra.Order.Ring.Int
import Mathlib.Order.Compare
import SchemaNet.Proofs.Scalar.Maximum
import SchemaNet.Scalar.Binary32

/-!
The order of numbers of 32 bits. It is the order of their bits, counted downwards for a negative
number, whatever their exponents are, and both zeros stand at one level. So the comparisons agree
with the total order on positive numbers, and the maximum is that of the levels.
-/

namespace SchemaNet.Binary32

open Float.Model UnpackedFloat

theorem lt_iff_compare {x y : Float32} :
    x < y ↔ x.toModel.unpack.compare y.toModel.unpack = some .lt := by
  show decide ((x.toModel.unpack.compare y.toModel.unpack == some .lt) = true) = true ↔ _
  simp

theorem le_iff_compare {x y : Float32} :
    x ≤ y ↔ ∃ o, x.toModel.unpack.compare y.toModel.unpack = some o ∧ o.isLE := by
  show decide (((x.toModel.unpack.compare y.toModel.unpack).any (·.isLE)) = true) = true ↔ _
  cases x.toModel.unpack.compare y.toModel.unpack <;> simp

/-- A positive number and its bits. The exponent is the least one, or the first bit of the
mantissa is set and left out. -/
inductive Packs : UnpackedFloat → Nat → Prop
  | infinite : Packs (.infinity .positive) (255 * 2 ^ 23)
  | finite {mantissa : Nat} {exponent : Int} (pos : 0 < mantissa) {bits : Nat} :
    mantissa < 2 ^ 24 → exponent ≤ 104 →
      exponent = -149 ∨ -149 < exponent ∧ 2 ^ 23 ≤ mantissa →
        (exponent + 149) * 2 ^ 23 + mantissa = bits →
          Packs (.finite .positive mantissa exponent pos) bits

theorem compare_finite {m n a b : Nat} {e f : Int} (hm : m < 2 ^ 24) (hn : n < 2 ^ 24)
    (he : e = -149 ∨ -149 < e ∧ 2 ^ 23 ≤ m) (hf : f = -149 ∨ -149 < f ∧ 2 ^ 23 ≤ n)
    (ha : (e + 149) * 2 ^ 23 + m = a) (hb : (f + 149) * 2 ^ 23 + n = b) :
    (compare e f).then (compare m n) = compare a b := by
  rcases lt_trichotomy e f with less | rfl | greater
  · rw [Int.compare_eq_lt.2 less]
    exact (Nat.compare_eq_lt.2 (by omega)).symm
  · rw [Std.compare_self, Ordering.eq_then]
    rcases lt_trichotomy m n with less | rfl | greater
    · rw [Nat.compare_eq_lt.2 less, Nat.compare_eq_lt.2 (by omega)]
    · rw [Nat.compare_eq_eq.2 rfl, Nat.compare_eq_eq.2 (by omega)]
    · rw [Nat.compare_eq_gt.2 greater, Nat.compare_eq_gt.2 (by omega)]
  · rw [Int.compare_eq_gt.2 greater]
    exact (Nat.compare_eq_gt.2 (by omega)).symm

theorem Packs.compare_eq {x y : UnpackedFloat} {a b : Nat} (hx : Packs x a) (hy : Packs y b) :
    x.compare y = some (compare a b) := by
  cases hx with
  | infinite =>
    cases hy with
    | infinite => rfl
    | finite pos small top least packed =>
      exact congrArg some (Nat.compare_eq_gt.2 (by omega)).symm
  | finite pos small top least packed =>
    cases hy with
    | infinite => exact congrArg some (Nat.compare_eq_lt.2 (by omega)).symm
    | finite pos' small' top' least' packed' =>
      exact congrArg some (compare_finite small small' least least' packed packed')

section Fields

variable (b : BitVec 32)

theorem exponent_toNat : (@unpackExponent Format.binary32 b).toNat = b.toNat / 2 ^ 23 % 2 ^ 8 := by
  simp [unpackExponent, Nat.shiftRight_eq_div_pow]

theorem mantissa_toNat : (@unpackMantissa Format.binary32 b).toNat = b.toNat % 2 ^ 23 := by
  simp [unpackMantissa]

theorem sign_toNat : (@unpackSign Format.binary32 b).toNat = b.toNat / 2 ^ 31 := by
  have bound := b.isLt
  have field : (@unpackSign Format.binary32 b).toNat = (b.extractLsb 31 31).toNat := rfl
  rw [field, BitVec.extractLsb_toNat, Nat.shiftRight_eq_div_pow]
  omega

theorem implicit_toNat (mantissa : BitVec 23) :
    (1#1 ++ mantissa).toNat = 2 ^ 23 + mantissa.toNat := by
  rw [BitVec.toNat_append, ← Nat.shiftLeft_add_eq_or_of_lt mantissa.isLt]
  rfl

/-- The sign stands apart; what is left of the bits is a positive number, unless it is zero or no
number. -/
theorem unpack_cases :
    let sign := Sign.ofBitVec (@unpackSign Format.binary32 b)
    (UnpackedFloat.unpack Format.binary32 b = .infinity sign ∧ b.toNat % 2 ^ 31 = 255 * 2 ^ 23) ∨
      UnpackedFloat.unpack Format.binary32 b = .notANumber ∨
      (UnpackedFloat.unpack Format.binary32 b = .zero sign ∧ b.toNat % 2 ^ 31 = 0) ∨
      ∃ (mantissa : Nat) (exponent : Int) (pos : 0 < mantissa),
        UnpackedFloat.unpack Format.binary32 b = .finite sign mantissa exponent pos ∧
          Packs (.finite .positive mantissa exponent pos) (b.toNat % 2 ^ 31) := by
  have bias : (Format.binary32.exponentBias : Int) = 127 := rfl
  have width : (Format.binary32.mantissaBitsWithoutImplicit : Int) = 23 := rfl
  have exponent := exponent_toNat b
  have mantissa := mantissa_toNat b
  by_cases greatest : @unpackExponent Format.binary32 b = -1#_
  · by_cases none_left : @unpackMantissa Format.binary32 b = 0#_
    · have ones : (@unpackExponent Format.binary32 b).toNat = 255 := congrArg BitVec.toNat greatest
      have zeros : (@unpackMantissa Format.binary32 b).toNat = 0 := congrArg BitVec.toNat none_left
      exact .inl ⟨(if_pos greatest).trans (if_pos none_left), by omega⟩
    · exact .inr (.inl ((if_pos greatest).trans (if_neg none_left)))
  by_cases least : @unpackExponent Format.binary32 b = 0#_
  · have zeros : (@unpackExponent Format.binary32 b).toNat = 0 := congrArg BitVec.toNat least
    by_cases nothing : @unpackMantissa Format.binary32 b = 0#_
    · have rest : (@unpackMantissa Format.binary32 b).toNat = 0 := congrArg BitVec.toNat nothing
      exact .inr (.inr (.inl
        ⟨(if_neg greatest).trans ((if_pos least).trans (dif_pos nothing)), by omega⟩))
    · refine .inr (.inr (.inr ⟨_, _, _,
        (if_neg greatest).trans ((if_pos least).trans (dif_neg nothing)), ?_⟩))
      exact .finite _ (by omega) (by omega) (.inl (by omega)) (by omega)
  · refine .inr (.inr (.inr ⟨_, _, _, (if_neg greatest).trans (if_neg least), ?_⟩))
    have full : (@unpackExponent Format.binary32 b).toNat ≠ 255 := fun same =>
      greatest (BitVec.eq_of_toNat_eq same)
    have some_left : (@unpackExponent Format.binary32 b).toNat ≠ 0 := fun same =>
      least (BitVec.eq_of_toNat_eq same)
    have whole := implicit_toNat (@unpackMantissa Format.binary32 b)
    rw [mantissa] at whole
    exact .finite _ (by omega) (by omega) (by omega) (by omega)

end Fields

/-! ## Levels -/

/-- A number and its level: its bits without the sign, counted downwards if it is negative. Both
zeros are at the level zero. -/
inductive Levels : UnpackedFloat → Int → Prop
  | zero (sign : Sign) : Levels (.zero sign) 0
  | positive {x : UnpackedFloat} {bits : Nat} : Packs x bits → Levels x bits
  | negative {x : UnpackedFloat} {bits : Nat} : Packs x bits → Levels x.neg (-bits)

theorem Packs.bits_pos {x : UnpackedFloat} {bits : Nat} (h : Packs x bits) : 0 < bits := by
  cases h with
  | infinite => decide
  | finite => omega

theorem Packs.compare_neg {x y : UnpackedFloat} {a b : Nat} (hx : Packs x a) (hy : Packs y b) :
    x.neg.compare y.neg = some (compare b a) := by
  rw [← hy.compare_eq hx]
  cases hx with
  | infinite => cases hy <;> rfl
  | finite =>
    cases hy with
    | infinite => rfl
    | finite =>
      refine congrArg some ?_
      rw [Ordering.swap_then, ← Std.OrientedCmp.eq_swap, ← Std.OrientedCmp.eq_swap]

/-- Positive and negative numbers and zeros are told apart by the signs of their levels. -/
theorem Levels.compare_eq {x y : UnpackedFloat} {a b : Int} (hx : Levels x a) (hy : Levels y b) :
    x.compare y = some (compare a b) := by
  cases hx with
  | zero =>
    cases hy with
    | zero => rfl
    | positive hy =>
      rw [Int.compare_eq_lt.2 (Int.natCast_pos.2 hy.bits_pos)]
      cases hy <;> rfl
    | negative hy =>
      rw [Int.compare_eq_gt.2 (Int.neg_neg_of_pos (Int.natCast_pos.2 hy.bits_pos))]
      cases hy <;> rfl
  | positive hx =>
    have above := hx.bits_pos
    cases hy with
    | zero =>
      rw [Int.compare_eq_gt.2 (by omega)]
      cases hx <;> rfl
    | positive hy =>
      rw [hx.compare_eq hy, Nat.compare_eq_ite_lt, Int.compare_eq_ite_lt]
      simp only [Nat.cast_lt]
    | negative hy =>
      rw [Int.compare_eq_gt.2 (by omega)]
      cases hx <;> cases hy <;> rfl
  | negative hx =>
    have above := hx.bits_pos
    cases hy with
    | zero =>
      rw [Int.compare_eq_lt.2 (by omega)]
      cases hx <;> rfl
    | positive hy =>
      rw [Int.compare_eq_lt.2 (by omega)]
      cases hx <;> cases hy <;> rfl
    | negative hy =>
      rw [hx.compare_neg hy, Nat.compare_eq_ite_lt, Int.compare_eq_ite_lt]
      simp only [neg_lt_neg_iff, Nat.cast_lt]

/-- The level of the number that these bits stand for. -/
def levelOf (bits : Nat) : Int := if bits < 2 ^ 31 then bits else -((bits - 2 ^ 31 : Nat) : Int)

theorem apply_sign (b : BitVec 32) :
    (Sign.ofBitVec (@unpackSign Format.binary32 b)).apply (b.toNat % 2 ^ 31 : Nat) =
      levelOf b.toNat := by
  have bound := b.isLt
  have sign := sign_toNat b
  unfold Sign.ofBitVec levelOf
  by_cases unsigned : b.toNat < 2 ^ 31
  · have zero : @unpackSign Format.binary32 b = 0#1 :=
      BitVec.eq_of_toNat_eq (sign.trans (Nat.div_eq_of_lt unsigned))
    rw [if_pos zero, if_pos unsigned, Nat.mod_eq_of_lt unsigned]
    rfl
  · have one : @unpackSign Format.binary32 b ≠ 0#1 := fun zero => by
      rw [zero, BitVec.toNat_zero] at sign
      omega
    have rest : b.toNat % 2 ^ 31 = b.toNat - 2 ^ 31 := by omega
    rw [if_neg one, if_neg unsigned, rest]
    rfl

theorem levels_unpack (b : BitVec 32) : UnpackedFloat.unpack Format.binary32 b = .notANumber ∨
    Levels (UnpackedFloat.unpack Format.binary32 b) (levelOf b.toNat) := by
  rw [← apply_sign]
  rcases unpack_cases b with ⟨shape, bits⟩ | shape | ⟨shape, bits⟩ | ⟨_, _, _, shape, packed⟩
  · refine .inr ?_
    rw [shape, bits]
    cases Sign.ofBitVec (@unpackSign Format.binary32 b) with
    | negative => exact .negative .infinite
    | positive => exact .positive .infinite
  · exact .inl shape
  · refine .inr ?_
    rw [shape, bits]
    cases Sign.ofBitVec (@unpackSign Format.binary32 b) <;> exact .zero _
  · refine .inr ?_
    rw [shape]
    cases Sign.ofBitVec (@unpackSign Format.binary32 b) with
    | negative => exact .negative packed
    | positive => exact .positive packed

theorem levels_of_number {x : Float32} (number : x.isNaN = false) :
    Levels x.toModel.unpack (levelOf x.toBits.toNat) := by
  refine (levels_unpack x.toBits.toBitVec).resolve_left fun shape => ?_
  have none : x.isNaN = true := congrArg UnpackedFloat.isNaN shape
  rw [number] at none
  cases none

/-- Only numbers are compared. -/
theorem number_of_compare {x y : UnpackedFloat} {o : Ordering} (h : x.compare y = some o) :
    x.isNaN = false ∧ y.isNaN = false := by
  cases x with
  | notANumber => cases h
  | infinity sign =>
    cases y with
    | notANumber => cases sign <;> cases h
    | infinity | zero | finite => exact ⟨rfl, rfl⟩
  | zero =>
    cases y with
    | notANumber => cases h
    | infinity | zero | finite => exact ⟨rfl, rfl⟩
  | finite sign =>
    cases y with
    | notANumber => cases sign <;> cases h
    | infinity | zero | finite => exact ⟨rfl, rfl⟩

section Numbers

variable {x y : Float32} (hx : x.isNaN = false) (hy : y.isNaN = false)

include hx hy

theorem lt_iff_level : x < y ↔ levelOf x.toBits.toNat < levelOf y.toBits.toNat := by
  rw [lt_iff_compare, (levels_of_number hx).compare_eq (levels_of_number hy), Option.some.injEq,
    Int.compare_eq_lt]

theorem le_iff_level : x ≤ y ↔ levelOf x.toBits.toNat ≤ levelOf y.toBits.toNat := by
  rw [le_iff_compare, (levels_of_number hx).compare_eq (levels_of_number hy)]
  simp [Int.isLE_compare]

end Numbers

section Positive

variable {x y : Float32} (hx : Scalar.zero < x) (hy : Scalar.zero < y)

include hx

theorem number_of_pos : x.isNaN = false := (number_of_compare (lt_iff_compare.1 hx)).2

theorem rank_of_pos : rank x = levelOf x.toBits.toNat := by
  have above := (lt_iff_level (by decide +kernel) (number_of_pos hx)).1 hx
  have zero : levelOf (Scalar.zero : Float32).toBits.toNat = 0 := by decide +kernel
  rw [zero] at above
  unfold levelOf at above ⊢
  unfold rank
  simp only [Nat.pow_eq]
  split_ifs at above ⊢ <;> omega

include hy

theorem lt_iff_rank : Scalar.lt x y = true ↔ rank x < rank y := by
  rw [rank_of_pos hx, rank_of_pos hy]
  exact decide_eq_true_iff.trans (lt_iff_level (number_of_pos hx) (number_of_pos hy))

theorem le_iff_rank : Scalar.le x y = true ↔ rank x ≤ rank y := by
  rw [rank_of_pos hx, rank_of_pos hy]
  exact decide_eq_true_iff.trans (le_iff_level (number_of_pos hx) (number_of_pos hy))

end Positive

/-- The rank tells all bits apart. -/
theorem rank_inj {x y : Float32} (h : rank x = rank y) : x = y := by
  have same : x.toBits = y.toBits := by
    refine UInt32.toNat_inj.1 ?_
    unfold rank at h
    dsimp only at h
    split_ifs at h <;> omega
  obtain ⟨bits, valid⟩ := x
  obtain ⟨bits', valid'⟩ := y
  obtain rfl : bits = bits' := same
  rfl

/-! ## The maximum -/

theorem isNumber_iff {x : Float32} : Scalar.IsNumber x ↔ x.isNaN = false := by
  have compared : Scalar.IsNumber x ↔
      x.toModel.unpack.compare x.toModel.unpack = some .eq := by
    show ((x.toModel.unpack.compare x.toModel.unpack == some .eq) = true) ↔ _
    simp
  rw [compared]
  refine ⟨fun same => (number_of_compare same).1, fun number => ?_⟩
  rw [(levels_of_number number).compare_eq (levels_of_number number), Std.compare_self]

/-- The place of a number is its level. -/
def placeOf (x : Float32) : WithBot Int := if x.isNaN then ⊥ else levelOf x.toBits.toNat

theorem placeOf_of_isNaN {x : Float32} (hx : x.isNaN) : placeOf x = ⊥ := if_pos hx

theorem placeOf_of_number {x : Float32} (hx : x.isNaN = false) :
    placeOf x = levelOf x.toBits.toNat :=
  if_neg (Bool.eq_false_iff.1 hx)

theorem placeOf_max (x y : Float32) : placeOf (max x y) = placeOf x ⊔ placeOf y := by
  cases hx : x.isNaN with
  | true => rw [max, if_pos hx, placeOf_of_isNaN hx, bot_sup_eq]
  | false =>
    have number := Bool.eq_false_iff.1 hx
    cases hy : y.isNaN with
    | true => rw [max, if_neg number, if_pos hy, placeOf_of_isNaN hy, sup_bot_eq]
    | false =>
      have chosen : max x y = if x < y then y else x := by
        rw [max, if_neg number, if_neg (Bool.eq_false_iff.1 hy)]
      rw [chosen, placeOf_of_number hx, placeOf_of_number hy, ← WithBot.coe_sup]
      split
      · next less =>
        rw [sup_eq_right.2 ((lt_iff_level hx hy).1 less).le, placeOf_of_number hy]
      · next other =>
        have below := not_lt.1 (mt (lt_iff_level hx hy).2 other)
        rw [sup_eq_left.2 below, placeOf_of_number hx]

instance : Scalar.MaxOrder Float32 Int where
  place := placeOf
  number_iff {x} := by
    rw [isNumber_iff, placeOf]
    cases x.isNaN <;> simp
  le_iff {x y} hx hy := by
    have number := isNumber_iff.1 hx
    have number' := isNumber_iff.1 hy
    rw [placeOf_of_number number, placeOf_of_number number', WithBot.coe_le_coe,
      ← le_iff_level number number']
    exact decide_eq_true_iff
  place_max := placeOf_max
  max_choice x y := by
    show max x y = x ∨ max x y = y
    unfold max
    split_ifs <;> simp

end SchemaNet.Binary32
