import SchemaNet.Proofs.Scalar.Binary32Order

/-!
Counting in steps of one. Up to `2 ^ 24` the numbers of 32 bits hold every whole number, and the
sum of two of them is the whole number itself: it is rounded, but no bit that is set is lost.
-/

namespace SchemaNet

/-- Numbers in which zero and one differ and steps of one are exact up to the number of mantissas
of single precision. -/
class CountingScalar (α : Type) [Scalar α] : Prop where
  one_ne_zero : (Scalar.one : α) ≠ Scalar.zero
  add_one : ∀ n < Nat.pow 2 24, (Scalar.ofNat n : α) + Scalar.one = Scalar.ofNat (n + 1)

namespace Binary32

open Float.Model UnpackedFloat

/-! ## Rounding without loss -/

theorem log2_mul_two_pow {n : Nat} (h : n ≠ 0) (a : Nat) : (n * 2 ^ a).log2 = n.log2 + a := by
  induction a with
  | zero => rw [pow_zero, mul_one, Nat.add_zero]
  | succ a ih =>
    rw [pow_succ', Nat.mul_left_comm, Nat.log2_two_mul (mul_ne_zero h (by positivity)), ih,
      Nat.add_assoc]

theorem log2_mantissa {m : Nat} (low : 2 ^ 23 ≤ m) (high : m < 2 ^ 24) : m.log2 = 23 :=
  (Nat.log2_eq_iff (by omega)).2 ⟨low, high⟩

/-- Only zeros are shifted out. -/
theorem shiftRight_exact (m s : Nat) :
    (⟨m * 2 ^ s, false, false⟩ : ExtendedMantissa) >>> s = ⟨m, false, false⟩ := by
  induction s generalizing m with
  | zero => rw [pow_zero, mul_one]; rfl
  | succ s ih =>
    have rest := ih (m * 2)
    rw [mul_assoc, ← pow_succ'] at rest
    show ((⟨m * 2 ^ (s + 1), false, false⟩ : ExtendedMantissa) >>> s).shiftRightOne = _
    rw [rest]
    simp [ExtendedMantissa.shiftRightOne]

theorem unpackSign_packComponents (sign : Sign) (exponent : BitVec 8) (mantissa : BitVec 23) :
    Sign.ofBitVec (unpackSign (packComponents Format.binary32 sign exponent mantissa)) = sign := by
  show Sign.ofBitVec ((sign.toBitVec ++ exponent ++ mantissa).extractLsb' 31 1) = sign
  rw [BitVec.extractLsb'_append_eq_of_le (by decide),
    BitVec.extractLsb'_append_eq_of_le (by decide)]
  cases sign <;> rfl

theorem round_of_target {sign : Sign} {n : Nat} {e f : Int}
    (target : Format.binary32.targetExponent (totalExponent n f) = e) :
    UnpackedFloat.round Format.binary32 sign n f =
      roundWithAccuracy Format.binary32 sign (n * 2 ^ (f - e).toNat) (f - ((f - e).toNat : Int))
        .exact := by
  rw [UnpackedFloat.round, target, decreaseExponent, Nat.shiftLeft_eq]

/-- A number whose exponent is neither the least nor the greatest one has one bit more. -/
theorem unpack_packComponents (sign : Sign) (exponent : BitVec 8) (mantissa : BitVec 23)
    (pos : 0 < exponent.toNat) (most : exponent.toNat < 255) :
    UnpackedFloat.unpack Format.binary32
        (packComponents Format.binary32 sign exponent mantissa) =
      .finite sign (1#1 ++ mantissa).toNat (exponent.toNat - 150)
        (by rw [implicit_toNat]; omega) := by
  obtain ⟨b, hb⟩ : ∃ b : BitVec 32, b = packComponents Format.binary32 sign exponent mantissa :=
    ⟨_, rfl⟩
  have hsign : Sign.ofBitVec (@unpackSign Format.binary32 b) = sign := by
    rw [hb, unpackSign_packComponents]
  have hexponent : @unpackExponent Format.binary32 b = exponent := by
    rw [hb, unpackExponent_packComponents]
  have hmantissa : @unpackMantissa Format.binary32 b = mantissa := by
    rw [hb, unpackMantissa_packComponents]
  have greatest : @unpackExponent Format.binary32 b ≠ -1#8 := fun same => by
    have : exponent.toNat = 255 := congrArg BitVec.toNat (hexponent.symm.trans same)
    omega
  have least : @unpackExponent Format.binary32 b ≠ 0#8 := fun same => by
    have : exponent.toNat = 0 := congrArg BitVec.toNat (hexponent.symm.trans same)
    omega
  rw [← hb]
  refine (if_neg greatest).trans ((if_neg least).trans ?_)
  rw [UnpackedFloat.finite.injEq, hmantissa]
  refine ⟨hsign, rfl, ?_⟩
  show ((@unpackExponent Format.binary32 b).toNat : Int) - (127 + 23) = exponent.toNat - 150
  rw [hexponent]
  rfl

section Canonical

variable {n m : Nat} {f e : Int} (low : 2 ^ 23 ≤ m) (high : m < 2 ^ 24) (least : -149 ≤ e)

include low high least

/-- The canonical exponent depends on the value alone. -/
theorem targetExponent_eq {a b : Nat} (value : n * 2 ^ a = m * 2 ^ b) (places : f + b = e + a) :
    Format.binary32.targetExponent (totalExponent n f) = e := by
  have bits : (Format.binary32.mantissaBits : Int) = 24 := rfl
  have bottom : Format.binary32.minExponent = -149 := rfl
  have nonzero : n ≠ 0 := by
    rintro rfl
    rw [zero_mul] at value
    exact absurd value.symm (mul_ne_zero (by omega) (by positivity))
  have digits := congrArg Nat.log2 value
  rw [log2_mul_two_pow nonzero, log2_mul_two_pow (by omega), log2_mantissa low high] at digits
  rw [Format.targetExponent, totalExponent, bits, bottom]
  omega

theorem shiftToTargetExponent_exact (s : Nat) :
    shiftToTargetExponent Format.binary32 (m * 2 ^ s) (e - s) .exact =
      (⟨m, false, false⟩, e) := by
  have target : Format.binary32.targetExponent (totalExponent (m * 2 ^ s) (e - s)) = e :=
    targetExponent_eq low high least (by rw [pow_zero, mul_one])
      (by omega : e - s + s = e + (0 : Nat))
  have amount : (e - (e - s)).toNat = s := by omega
  rw [shiftToTargetExponent, target]
  show ((⟨m * 2 ^ s, false, false⟩ : ExtendedMantissa) >>> (e - (e - s)).toNat,
    e - s + ((e - (e - s)).toNat : Int)) = _
  rw [amount, shiftRight_exact, Int.sub_add_cancel]

theorem roundWithAccuracy_exact (s : Nat) :
    roundWithAccuracy Format.binary32 .positive (m * 2 ^ s) (e - s) .exact =
      .finite .positive m e (by omega) := by
  -- The mantissa is shifted once more after it is rounded; nothing is left to shift.
  have again := shiftToTargetExponent_exact low high least 0
  rw [pow_zero, mul_one, Nat.cast_zero, Int.sub_zero] at again
  have nonzero : m ≠ 0 := by omega
  have kept : ∀ last : ExtendedMantissa × Int, last = (⟨m, false, false⟩, e) →
      (if h : last.1.mantissa = 0 then UnpackedFloat.zero .positive
        else .finite .positive last.1.mantissa last.2 (Nat.pos_of_ne_zero h)) =
      .finite .positive m e (by omega) := by
    rintro _ rfl
    exact dif_neg nonzero
  rw [roundWithAccuracy, shiftToTargetExponent_exact low high least]
  exact kept _ again

/-- A number whose value has a canonical form is rounded to it. -/
theorem round_exact {a b : Nat} (value : n * 2 ^ a = m * 2 ^ b) (places : f + b = e + a) :
    UnpackedFloat.round Format.binary32 .positive n f = .finite .positive m e (by omega) := by
  rw [round_of_target (targetExponent_eq low high least value places)]
  -- Either the bits beyond the canonical form are zeros, or zeros are filled in.
  rcases le_total a b with le | le
  · have shorter : n = m * 2 ^ (b - a) := by
      refine Nat.eq_of_mul_eq_mul_right (Nat.two_pow_pos a) ?_
      rw [value, mul_assoc, ← pow_add, Nat.sub_add_cancel le]
    have none : (f - e).toNat = 0 := by omega
    have exponent : f = e - (b - a : Nat) := by omega
    rw [none, pow_zero, mul_one, Nat.cast_zero, Int.sub_zero, shorter, exponent]
    exact roundWithAccuracy_exact low high least (b - a)
  · have longer : n * 2 ^ (a - b) = m := by
      refine Nat.eq_of_mul_eq_mul_right (Nat.two_pow_pos b) ?_
      rw [mul_assoc, ← pow_add, Nat.sub_add_cancel le, value]
    have amount : (f - e).toNat = a - b := by omega
    have exponent : f - ((a - b : Nat) : Int) = e := by omega
    have whole := roundWithAccuracy_exact low high least 0
    rw [pow_zero, mul_one, Nat.cast_zero, Int.sub_zero] at whole
    rw [amount, longer, exponent, whole]

/-- Packing leaves out the first bit of the mantissa, which unpacking sets again. -/
theorem unpack_pack (most : e ≤ 104) :
    UnpackedFloat.unpack Format.binary32
        (UnpackedFloat.pack Format.binary32 (.finite .positive m e (by omega))) =
      .finite .positive m e (by omega) := by
  obtain ⟨biased, hbiased⟩ := Int.eq_ofNat_of_zero_le (by omega : 0 ≤ e + 150)
  have field : (e + Format.binary32.exponentBias +
      Format.binary32.mantissaBitsWithoutImplicit).toNat = biased := by
    show (e + 127 + 23).toNat = biased
    omega
  have exponent : (BitVec.ofNat 8 biased).toNat = biased := by
    rw [BitVec.toNat_ofNat]
    omega
  have mantissa : (1#1 ++ BitVec.ofNat 23 m).toNat = m := by
    rw [implicit_toNat, BitVec.toNat_ofNat]
    omega
  have packed : UnpackedFloat.pack Format.binary32 (.finite .positive m e (by omega)) =
      packComponents Format.binary32 .positive (BitVec.ofNat 8 biased) (BitVec.ofNat 23 m) := by
    have fits : ¬256 ≤ (e + Format.binary32.exponentBias +
        Format.binary32.mantissaBitsWithoutImplicit).toNat + 1 := by omega
    have full : m.log2 + 1 = Format.binary32.mantissaBits :=
      congrArg (· + 1) (log2_mantissa low high)
    rw [← field]
    exact (if_neg fits).trans (if_pos full)
  rw [packed]
  refine (unpack_packComponents .positive (BitVec.ofNat 8 biased) _ (by omega)
    (by omega)).trans ?_
  rw [UnpackedFloat.finite.injEq]
  exact ⟨rfl, mantissa, by omega⟩

end Canonical

theorem normalize_natCast {n : Nat} (pos : 0 < n) (e : Int) (sign : Sign) :
    UnpackedFloat.normalize Format.binary32 n e sign =
      UnpackedFloat.round Format.binary32 .positive n e := by
  rw [UnpackedFloat.normalize, Int.compare_eq_gt.2 (Int.natCast_pos.2 pos)]
  rfl

/-- Two positive numbers are aligned at the lesser exponent. -/
theorem add_finite {m n : Nat} {e f : Int} (hm : 0 < m) (hn : 0 < n) :
    UnpackedFloat.add Format.binary32 (.finite .positive m e hm) (.finite .positive n f hn) =
      UnpackedFloat.normalize Format.binary32
        ((m * 2 ^ (e - min e f).toNat + n * 2 ^ (f - min e f).toNat : Nat) : Int) (min e f)
        .positive := by
  rw [Nat.cast_add, ← Nat.shiftLeft_eq, ← Nat.shiftLeft_eq]
  rfl

/-! ## Whole numbers -/

/-- The mantissa of a whole number, of which so many bits stand before the point. -/
structure IsWhole (n mantissa bits : Nat) : Prop where
  low : 2 ^ 23 ≤ mantissa
  high : mantissa < 2 ^ 24
  small : bits ≤ 24
  value : n * 2 ^ 23 = mantissa * 2 ^ bits

theorem exists_isWhole {n : Nat} (pos : 0 < n) (small : n ≤ 2 ^ 24) :
    ∃ mantissa bits, IsWhole n mantissa bits := by
  have nonzero : n ≠ 0 := by omega
  have low := Nat.log2_self_le nonzero
  have high := Nat.lt_log2_self (n := n)
  have few : n.log2 ≤ 24 := (Nat.pow_le_pow_iff_right (by decide)).1 (low.trans small)
  rcases Nat.lt_or_ge n.log2 24 with fits | full
  · have up : 2 ^ n.log2 * 2 ^ (23 - n.log2) = 2 ^ 23 := by
      rw [← pow_add, Nat.add_sub_cancel' (by omega)]
    have shift := Nat.two_pow_pos (23 - n.log2)
    refine ⟨n * 2 ^ (23 - n.log2), n.log2, ?_, ?_, few, ?_⟩
    · exact up.symm.le.trans (Nat.mul_le_mul_right _ low)
    · have := Nat.mul_lt_mul_of_pos_right high shift
      rw [pow_succ', mul_assoc, up] at this
      exact this
    · rw [mul_assoc, mul_comm (2 ^ (23 - n.log2)), up]
  · obtain rfl : n = 2 ^ 24 := by
      have top : n.log2 = 24 := le_antisymm few full
      rw [top] at low
      exact le_antisymm small low
    exact ⟨2 ^ 23, 24, le_rfl, by decide, le_rfl, by rw [mul_comm]⟩

namespace IsWhole

variable {n m k : Nat} (h : IsWhole n m k)

include h

theorem pos : 0 < m := by
  have := h.low
  omega

theorem whole_pos : 0 < n := by
  refine Nat.pos_of_ne_zero fun zero => ?_
  have value := h.value
  rw [zero, zero_mul] at value
  exact absurd value.symm (Nat.mul_pos h.pos (Nat.two_pow_pos k)).ne'

theorem lt_two_pow : n < 2 ^ 32 := by
  have upper : 2 ^ k ≤ 2 ^ 24 := Nat.pow_le_pow_right (by decide) h.small
  have product : m * 2 ^ k ≤ 2 ^ 24 * 2 ^ 24 := Nat.mul_le_mul h.high.le upper
  have := h.value
  omega

/-- The number in canonical form. -/
theorem round_eq : UnpackedFloat.round Format.binary32 .positive n 0 =
    .finite .positive m (k - 23) h.pos :=
  round_exact h.low h.high (by omega) h.value (by omega)

theorem ofNat_eq : ofNat n = .ofModel (.pack (.finite .positive m (k - 23) h.pos)) := by
  have word : n.toUInt32.toNat = n := Nat.mod_eq_of_lt h.lt_two_pow
  rw [ofNat, Nat.pow_eq, if_pos h.lt_two_pow]
  show Float32.ofModel
    (.pack (UnpackedFloat.normalize Format.binary32 (n.toUInt32.toNat : Int) 0 .positive)) = _
  rw [word, normalize_natCast h.whole_pos, h.round_eq]

theorem unpack_eq : (ofNat n).toModel.unpack = .finite .positive m (k - 23) h.pos := by
  have := h.small
  rw [h.ofNat_eq]
  exact unpack_pack h.low h.high (by omega) (by omega)

end IsWhole

/-- The sum of the aligned mantissas stands for the sum of the numbers. -/
theorem IsWhole.add_eq {a b m m' m'' k k' k'' : Nat} (h : IsWhole a m k) (h' : IsWhole b m' k')
    (sum : IsWhole (a + b) m'' k'') :
    UnpackedFloat.add Format.binary32 (.finite .positive m (k - 23) h.pos)
        (.finite .positive m' (k' - 23) h'.pos) =
      .finite .positive m'' (k'' - 23) sum.pos := by
  obtain ⟨j, hj⟩ : ∃ j, j = min k k' := ⟨_, rfl⟩
  have least : min ((k : Int) - 23) (k' - 23) = j - 23 := by omega
  have first : ((k : Int) - 23 - (j - 23)).toNat = k - j := by omega
  have second : ((k' : Int) - 23 - (j - 23)).toNat = k' - j := by omega
  have aligned : (m * 2 ^ (k - j) + m' * 2 ^ (k' - j)) * 2 ^ j = m'' * 2 ^ k'' := by
    calc (m * 2 ^ (k - j) + m' * 2 ^ (k' - j)) * 2 ^ j
        = m * 2 ^ k + m' * 2 ^ k' := by
          rw [Nat.add_mul, mul_assoc, mul_assoc, ← pow_add, ← pow_add,
            Nat.sub_add_cancel (by omega), Nat.sub_add_cancel (by omega)]
      _ = m'' * 2 ^ k'' := by rw [← h.value, ← h'.value, ← Nat.add_mul, sum.value]
  have pos : 0 < m * 2 ^ (k - j) := Nat.mul_pos h.pos (Nat.two_pow_pos _)
  rw [add_finite, least, first, second, normalize_natCast (by omega)]
  exact round_exact sum.low sum.high (by omega) aligned (by omega)

theorem add_eq (x y : Float32) : x + y =
    .ofModel (.pack (UnpackedFloat.add Format.binary32 x.toModel.unpack y.toModel.unpack)) := rfl

theorem unpack_zero : (ofNat 0).toModel.unpack = .zero .positive := by rfl

/-- Sums of whole numbers are exact as long as the mantissas are. -/
theorem ofNat_add {a b : Nat} (small : a + b ≤ 2 ^ 24) : ofNat a + ofNat b = ofNat (a + b) := by
  rcases Nat.eq_zero_or_pos a with rfl | ha
  · rcases Nat.eq_zero_or_pos b with rfl | hb
    · decide +kernel
    · obtain ⟨m, k, whole⟩ := exists_isWhole hb (by omega)
      rw [add_eq, unpack_zero, whole.unpack_eq, Nat.zero_add, whole.ofNat_eq]
      rfl
  · obtain ⟨m, k, whole⟩ := exists_isWhole ha (by omega)
    rcases Nat.eq_zero_or_pos b with rfl | hb
    · rw [add_eq, unpack_zero, whole.unpack_eq, Nat.add_zero, whole.ofNat_eq]
      rfl
    · obtain ⟨m', k', whole'⟩ := exists_isWhole hb (by omega)
      obtain ⟨m'', k'', sum⟩ := exists_isWhole (by omega : 0 < a + b) small
      rw [add_eq, whole.unpack_eq, whole'.unpack_eq, whole.add_eq whole' sum, sum.ofNat_eq]

instance : CountingScalar Float32 where
  one_ne_zero := by decide +kernel
  add_one n small := by
    rw [Nat.pow_eq] at small
    show ofNat n + ofNat 1 = ofNat (n + 1)
    exact ofNat_add small

end Binary32

end SchemaNet
