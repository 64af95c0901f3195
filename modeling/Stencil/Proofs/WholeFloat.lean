import Mathlib
import Stencil.Decimal.Binary

/-! # Floats of whole numbers

A whole number below `2 ^ 53` has a float of its own: conversion fills its significand up with
zeros and rounds nothing away.
-/

namespace Stencil.Binary64

open Float.Model
open Float.Model.UnpackedFloat (Accuracy ExtendedMantissa packComponents
  unpackMantissa_packComponents unpackExponent_packComponents unpackSign_packComponents)

/-- A significand of 53 binary digits with an exponent that makes it a normal float. -/
structure IsNormal (m : Nat) (e : Int) : Prop where
  low : 2 ^ 52 ≤ m
  high : m < 2 ^ 53
  bottom : -1074 ≤ e
  top : e ≤ 971

section Normal

variable {m : Nat} {e : Int}

theorem IsNormal.pos (h : IsNormal m e) : 0 < m := Nat.lt_of_lt_of_le (by decide) h.low

theorem IsNormal.log2_mul_two_pow (h : IsNormal m e) (k : Nat) : (m * 2 ^ k).log2 = 52 + k := by
  have hne : m * 2 ^ k ≠ 0 := Nat.mul_ne_zero h.pos.ne' (Nat.two_pow_pos k).ne'
  refine (Nat.log2_eq_iff hne).mpr ⟨?_, ?_⟩
  · rw [Nat.pow_add]
    exact Nat.mul_le_mul_right _ h.low
  · rw [Nat.add_right_comm, Nat.pow_add]
    exact Nat.mul_lt_mul_of_pos_right h.high (Nat.two_pow_pos k)

theorem IsNormal.log2_eq (h : IsNormal m e) : m.log2 = 52 := by
  simpa using h.log2_mul_two_pow 0

/-! ## Rounding -/

/-- Zeros are shifted out without a trace. -/
theorem shiftRight_exact (m k : Nat) :
    (⟨m * 2 ^ k, false, false⟩ : ExtendedMantissa) >>> k = ⟨m, false, false⟩ := by
  induction k generalizing m with
  | zero =>
      rw [Nat.pow_zero, Nat.mul_one]
      rfl
  | succ k ih =>
      have hstep : (⟨m * 2 ^ (k + 1), false, false⟩ : ExtendedMantissa) >>> (k + 1) =
          ((⟨m * 2 * 2 ^ k, false, false⟩ : ExtendedMantissa) >>> k).shiftRightOne := by
        rw [Nat.pow_succ', Nat.mul_assoc]
        rfl
      rw [hstep, ih]
      simp [ExtendedMantissa.shiftRightOne]

theorem IsNormal.shiftToTargetExponent (h : IsNormal m e) (k : Nat) :
    UnpackedFloat.shiftToTargetExponent Format.binary64 (m * 2 ^ k) (e - k) .exact =
      (⟨m, false, false⟩, e) := by
  have htarget : Format.binary64.targetExponent (totalExponent (m * 2 ^ k) (e - k)) = e := by
    have hbottom := h.bottom
    simp only [Format.targetExponent, totalExponent, h.log2_mul_two_pow, Format.mantissaBits,
      Format.minExponent]
    omega
  have hamount : (e - (e - k)).toNat = k := by omega
  simp only [UnpackedFloat.shiftToTargetExponent, htarget, UnpackedFloat.shiftToExponent, hamount,
    ExtendedMantissa.ofMantissaAndAccuracy, shiftRight_exact, Int.sub_add_cancel]

/-- A normal float is rounded to itself, also when zeros stand behind its significand. -/
theorem IsNormal.roundWithAccuracy (h : IsNormal m e) (s : UnpackedFloat.Sign) (k : Nat) :
    UnpackedFloat.roundWithAccuracy Format.binary64 s (m * 2 ^ k) (e - k) .exact =
      .finite s m e h.pos := by
  have hagain : UnpackedFloat.shiftToTargetExponent Format.binary64 m e .exact =
      (⟨m, false, false⟩, e) := by
    simpa using h.shiftToTargetExponent 0
  simp only [UnpackedFloat.roundWithAccuracy, h.shiftToTargetExponent,
    ExtendedMantissa.roundedMantissa, ExtendedMantissa.accuracy, Accuracy.roundToNearestEven,
    hagain, dif_neg h.pos.ne']

/-! ## Packing -/

theorem IsNormal.pack_eq (h : IsNormal m e) (s : UnpackedFloat.Sign) :
    UnpackedFloat.pack Format.binary64 (.finite s m e h.pos) =
      packComponents Format.binary64 s (BitVec.ofNat 11 (e + 1075).toNat) (BitVec.ofNat 52 m) := by
  have hexponent : (e + (Format.binary64.exponentBias : Nat) + (52 : Nat)).toNat =
      (e + 1075).toNat := by
    change (e + 1023 + 52).toNat = _
    rw [Int.add_assoc]
    rfl
  have hfinite : ¬ 2 ^ 11 ≤ (e + 1075).toNat + 1 := by
    have htop := h.top
    omega
  have hdigits : m.log2 + 1 = Format.binary64.mantissaBits := by rw [h.log2_eq]; rfl
  simp only [UnpackedFloat.pack, hexponent, if_neg hfinite, if_pos hdigits]

theorem IsNormal.toNat_exponent (h : IsNormal m e) :
    (BitVec.ofNat 11 (e + 1075).toNat).toNat = (e + 1075).toNat := by
  have htop := h.top
  rw [BitVec.toNat_ofNat, Nat.mod_eq_of_lt]
  omega

/-- Packing keeps a normal float. -/
theorem IsNormal.unpack_pack (h : IsNormal m e) (s : UnpackedFloat.Sign) :
    (Float.Model.pack (.finite s m e h.pos)).unpack = .finite s m e h.pos := by
  change UnpackedFloat.unpack _ (UnpackedFloat.pack Format.binary64 (.finite s m e h.pos)) = _
  have ⟨hlow, hhigh, hbottom, htop⟩ := h
  have hexponent := h.toNat_exponent
  have hnan : BitVec.ofNat 11 (e + 1075).toNat ≠ -1#11 := by
    intro heq
    rw [heq] at hexponent
    have hones : (-1#11).toNat = 2047 := by decide
    omega
  have hzero : BitVec.ofNat 11 (e + 1075).toNat ≠ 0#11 := by
    intro heq
    rw [heq] at hexponent
    have hzeros : (0#11).toNat = 0 := by decide
    omega
  have hmantissa : (1#1 ++ BitVec.ofNat 52 m).toNat = m := by
    rw [BitVec.toNat_append, BitVec.toNat_ofNat, BitVec.toNat_ofNat,
      ← Nat.shiftLeft_add_eq_or_of_lt (Nat.mod_lt _ (by decide)), Nat.shiftLeft_eq]
    omega
  have hback :
      ((e + 1075).toNat : Int) - ((Format.binary64.exponentBias : Nat) + (52 : Nat)) = e := by
    change ((e + 1075).toNat : Int) - (1023 + 52) = e
    omega
  rw [h.pack_eq]
  simp only [UnpackedFloat.unpack, unpackMantissa_packComponents, unpackExponent_packComponents,
    unpackSign_packComponents, UnpackedFloat.Sign.ofBitVec_toBitVec, if_neg hnan, if_neg hzero,
    hmantissa, hexponent, hback]

/-- The three fields of packed bits. -/
theorem fields_eq {sign field fraction bits : Nat} (hfield : field < 2 ^ 11)
    (hfraction : fraction < 2 ^ 52) (hbits : bits = (sign * 2 ^ 11 + field) * 2 ^ 52 + fraction) :
    bits % 2 ^ 52 = fraction ∧ bits / 2 ^ 52 % 2 ^ 11 = field ∧ bits / 2 ^ 63 = sign := by
  omega

theorem IsNormal.toNat_toBits_pack (h : IsNormal m e) (s : UnpackedFloat.Sign) :
    (Float.toBits ⟨Float.Model.pack (.finite s m e h.pos)⟩).toNat =
      (s.toBitVec.toNat * 2 ^ 11 + (e + 1075).toNat) * 2 ^ 52 + m % 2 ^ 52 := by
  change (UnpackedFloat.pack Format.binary64 (.finite s m e h.pos)).toNat = _
  rw [h.pack_eq]
  simp only [packComponents, BitVec.toNat_append]
  rw [← Nat.shiftLeft_add_eq_or_of_lt (BitVec.isLt _),
    ← Nat.shiftLeft_add_eq_or_of_lt (BitVec.isLt _), Nat.shiftLeft_eq, Nat.shiftLeft_eq,
    h.toNat_exponent, BitVec.toNat_ofNat]

/-- The number that a normal float stands for. -/
theorem IsNormal.ofFloat?_pack (h : IsNormal m e) (s : UnpackedFloat.Sign) :
    Decimal.Binary.ofFloat? ⟨Float.Model.pack (.finite s m e h.pos)⟩ =
      some ⟨s == .negative, m, e⟩ := by
  have ⟨hlow, hhigh, hbottom, htop⟩ := h
  have hsign : s.toBitVec.toNat = if s == .negative then 1 else 0 := by cases s <;> rfl
  obtain ⟨hfraction, hfield, hnegative⟩ :=
    fields_eq (by omega) (Nat.mod_lt m (by decide)) (h.toNat_toBits_pack s)
  have hmantissa : 2 ^ 52 + m % 2 ^ 52 = m := by omega
  have hexponent : ((e + 1075).toNat : Int) - 1075 = e := by omega
  simp only [Decimal.Binary.ofFloat?, Nat.pow_eq, hfraction, hfield, hnegative, hmantissa,
    hexponent]
  rw [if_neg (by omega), if_neg (by omega), hsign]
  cases s <;> rfl

end Normal

/-! ## Conversion of whole numbers -/

section Whole

variable {n : Nat}

/-- A whole number with zeros behind it up to 53 binary digits. -/
theorem isNormal_of_lt (hpos : 0 < n) (h : n < 2 ^ 53) :
    n.log2 ≤ 52 ∧ IsNormal (n * 2 ^ (52 - n.log2)) (n.log2 - 52) := by
  have hlog : n.log2 < 53 := (Nat.log2_lt hpos.ne').mpr h
  have hle : n.log2 ≤ 52 := Nat.le_of_lt_succ hlog
  have hlow : 2 ^ n.log2 * 2 ^ (52 - n.log2) ≤ n * 2 ^ (52 - n.log2) :=
    Nat.mul_le_mul_right _ (Nat.log2_self_le hpos.ne')
  have hhigh : n * 2 ^ (52 - n.log2) < 2 ^ (n.log2 + 1) * 2 ^ (52 - n.log2) :=
    Nat.mul_lt_mul_of_pos_right Nat.lt_log2_self (Nat.two_pow_pos _)
  rw [← Nat.pow_add] at hlow hhigh
  rw [Nat.add_sub_cancel' hle] at hlow
  rw [Nat.add_right_comm, Nat.add_sub_cancel' hle] at hhigh
  exact ⟨hle, hlow, hhigh, by omega, by omega⟩

theorem round_whole (hpos : 0 < n) (h : n < 2 ^ 53) :
    UnpackedFloat.round Format.binary64 .positive n 0 =
      .finite .positive (n * 2 ^ (52 - n.log2)) (n.log2 - 52) (isNormal_of_lt hpos h).2.pos := by
  obtain ⟨hle, hnormal⟩ := isNormal_of_lt hpos h
  have htarget : Format.binary64.targetExponent (totalExponent n 0) = (n.log2 : Int) - 52 := by
    simp only [Format.targetExponent, totalExponent, Format.mantissaBits, Format.minExponent]
    omega
  have hamount : (0 - ((n.log2 : Int) - 52)).toNat = 52 - n.log2 := by omega
  have hexponent : (0 : Int) - (52 - n.log2 : Nat) = (n.log2 : Int) - 52 := by omega
  simp only [UnpackedFloat.round, htarget, UnpackedFloat.decreaseExponent, hamount, hexponent,
    Nat.shiftLeft_eq]
  simpa using hnormal.roundWithAccuracy .positive 0

/-- The float of a positive whole number. -/
theorem ofNat_eq (hpos : 0 < n) (h : n < 2 ^ 53) :
    Float.ofNat n = ⟨Float.Model.pack (.finite .positive (n * 2 ^ (52 - n.log2)) (n.log2 - 52)
      (isNormal_of_lt hpos h).2.pos)⟩ := by
  have hnormal := (isNormal_of_lt hpos h).2
  have hsmall : n.toUInt64.toNat = n := Nat.mod_eq_of_lt (Nat.lt_trans h (by decide))
  have hword : UnpackedFloat.ofUInt64 Format.binary64 n.toUInt64 =
      .finite .positive (n * 2 ^ (52 - n.log2)) (n.log2 - 52) hnormal.pos := by
    have hcompare : compare (n : Int) 0 = .gt := Int.compare_eq_gt.mpr (by omega)
    simp only [UnpackedFloat.ofUInt64, UnpackedFloat.ofNat, UnpackedFloat.ofInt,
      UnpackedFloat.normalize, hsmall, hcompare, Int.toNat_natCast]
    exact round_whole hpos h
  have hfloat : n.toUInt64.toFloat.toModel.unpack =
      .finite .positive (n * 2 ^ (52 - n.log2)) (n.log2 - 52) hnormal.pos := by
    change (Float.Model.pack (UnpackedFloat.ofUInt64 Format.binary64 n.toUInt64)).unpack = _
    rw [hword]
    exact hnormal.unpack_pack .positive
  -- conversion multiplies by the float one, whose significand only brings zeros in
  have hone : (Float.exactlyRepresentablePowersOfTen[0]).toModel.unpack =
      .finite .positive (2 ^ 52) (-52) (by decide) := rfl
  have hproduct : Float.ofNat n =
      n.toUInt64.toFloat * Float.exactlyRepresentablePowersOfTen[0] := by
    change Float.ofScientific n false 0 = _
    rw [Float.ofScientific, dif_pos ⟨h, by decide⟩]
    rfl
  rw [hproduct]
  change (⟨Float.Model.pack (UnpackedFloat.mul Format.binary64
    n.toUInt64.toFloat.toModel.unpack _)⟩ : Float) = _
  have hexact : UnpackedFloat.mul Format.binary64
      (.finite .positive (n * 2 ^ (52 - n.log2)) (n.log2 - 52) hnormal.pos)
      (.finite .positive (2 ^ 52) (-52) (by decide)) =
      .finite .positive (n * 2 ^ (52 - n.log2)) (n.log2 - 52) hnormal.pos :=
    hnormal.roundWithAccuracy .positive 52
  rw [hfloat, hone, hexact]

/-- The number behind the float of a whole number is the whole number. -/
theorem ofFloat?_ofInt {n : Int} (hne : n ≠ 0) (h : n.natAbs < 2 ^ 53) :
    Decimal.Binary.ofFloat? (Float.ofInt n) =
      some ⟨decide (n < 0), n.natAbs * 2 ^ (52 - n.natAbs.log2), n.natAbs.log2 - 52⟩ := by
  cases n with
  | ofNat n =>
      have hpos : 0 < n := Nat.pos_of_ne_zero fun hzero => hne (congrArg Int.ofNat hzero)
      change Decimal.Binary.ofFloat? (Float.ofNat n) = _
      rw [ofNat_eq hpos h]
      exact (isNormal_of_lt hpos h).2.ofFloat?_pack .positive
  | negSucc n =>
      have hnormal := (isNormal_of_lt n.succ_pos h).2
      have hneg : Float.ofInt (.negSucc n) = ⟨Float.Model.pack
          (Float.ofNat (n + 1)).toModel.unpack.neg⟩ := rfl
      rw [hneg, ofNat_eq n.succ_pos h, hnormal.unpack_pack,
        decide_eq_true (Int.negSucc_lt_zero n)]
      exact hnormal.ofFloat?_pack .negative

end Whole

end Stencil.Binary64
