import Mathlib.Order.Compare

/-! # Floats and NaN

Equality of floats is symmetric, and reflexive but for NaN. The float nearest to an integer is not
NaN. All of this is read off the bits of floats.
-/

namespace Stencil.Binary64

open Float.Model

/-! ## Comparing -/

theorem compare_size_swap (m₁ m₂ : Nat) (e₁ e₂ : Int) :
    (compare e₁ e₂).then (compare m₁ m₂) =
      ((compare e₂ e₁).then (compare m₂ m₁)).swap := by
  rw [Ordering.swap_then, ← Std.OrientedCmp.eq_swap, ← Std.OrientedCmp.eq_swap]

/-- Comparing in the other order turns the outcome around. -/
theorem compare_swap (a b : UnpackedFloat) :
    a.compare b = (b.compare a).map Ordering.swap := by
  -- only two finite floats of the same sign are compared by their size
  rcases a with ⟨_ | _⟩ | _ | _ | ⟨_ | _, m₁, e₁, _⟩ <;>
    rcases b with ⟨_ | _⟩ | _ | _ | ⟨_ | _, m₂, e₂, _⟩ <;>
    first
    | rfl
    | exact congrArg some (compare_size_swap m₁ m₂ e₁ e₂)
    | exact congrArg (fun o => some o.swap) (compare_size_swap m₁ m₂ e₁ e₂)

theorem compare_self {a : UnpackedFloat} (h : a.isNaN = false) : a.compare a = some .eq := by
  cases a with
  | notANumber => exact nomatch h
  | zero s => rfl
  | infinity s => cases s <;> rfl
  | finite s m e hm =>
      have hsize : (compare e e).then (compare m m) = .eq := by simp
      cases s with
      | positive => exact congrArg some hsize
      | negative => exact congrArg (fun o => some o.swap) hsize

theorem beq_comm (x y : Float) : (x == y) = (y == x) := by
  have hswap := compare_swap x.toModel.unpack y.toModel.unpack
  change (x.toModel.unpack.compare y.toModel.unpack == some .eq) =
    (y.toModel.unpack.compare x.toModel.unpack == some .eq)
  rw [hswap]
  rcases y.toModel.unpack.compare x.toModel.unpack with _ | _ | _ | _ <;> rfl

theorem beq_self {x : Float} (h : x.isNaN = false) : (x == x) = true := by
  change (x.toModel.unpack.compare x.toModel.unpack == some .eq) = true
  rw [compare_self h]
  rfl

theorem lt_iff_compare {x y : Float} :
    x < y ↔ x.toModel.unpack.compare y.toModel.unpack = some .lt := by
  change decide (UnpackedFloat.lt _ _ = true) = true ↔ _
  rw [decide_eq_true_iff, UnpackedFloat.lt, beq_iff_eq]

theorem beq_iff_compare {x y : Float} :
    (x == y) = true ↔ x.toModel.unpack.compare y.toModel.unpack = some .eq := by
  change (x.toModel.unpack.compare y.toModel.unpack == some .eq) = true ↔ _
  rw [beq_iff_eq]

/-- Only NaN has no order to other floats. -/
theorem compare_eq_none_iff {a b : UnpackedFloat} :
    a.compare b = none ↔ a.isNaN = true ∨ b.isNaN = true := by
  rcases a with ⟨_ | _⟩ | _ | _ | ⟨_ | _, _, _, _⟩ <;>
    rcases b with ⟨_ | _⟩ | _ | _ | ⟨_ | _, _, _, _⟩ <;>
    first
    | exact iff_of_true rfl (.inl rfl)
    | exact iff_of_true rfl (.inr rfl)
    | exact iff_of_false (Option.some_ne_none _) fun h =>
        h.elim Bool.false_ne_true Bool.false_ne_true

/-! ## Floats that are not NaN -/

/-- The bits of a NaN have the greatest exponent and some mantissa. -/
theorem isNaN_unpack_iff {spec : Format} (bits : BitVec spec.numBits) :
    (UnpackedFloat.unpack spec bits).isNaN = true ↔
      UnpackedFloat.unpackExponent bits = -1#_ ∧ UnpackedFloat.unpackMantissa bits ≠ 0#_ := by
  unfold UnpackedFloat.unpack
  by_cases hexponent : UnpackedFloat.unpackExponent bits = -1#_
  · rw [if_pos hexponent]
    by_cases hmantissa : UnpackedFloat.unpackMantissa bits = 0#_
    · rw [if_pos hmantissa]
      exact iff_of_false Bool.false_ne_true fun h => h.2 hmantissa
    · rw [if_neg hmantissa]
      exact iff_of_true rfl ⟨hexponent, hmantissa⟩
  · rw [if_neg hexponent]
    refine iff_of_false ?_ fun h => hexponent h.1
    -- with any other exponent the float is zero or finite
    by_cases hzero : UnpackedFloat.unpackExponent bits = 0#_
    · rw [if_pos hzero]
      by_cases hmantissa : UnpackedFloat.unpackMantissa bits = 0#_
      · rw [dif_pos hmantissa]
        exact Bool.false_ne_true
      · rw [dif_neg hmantissa]
        exact Bool.false_ne_true
    · rw [if_neg hzero]
      exact Bool.false_ne_true

theorem isNaN_unpack_packComponents {spec : Format} (s : UnpackedFloat.Sign)
    (e : BitVec spec.exponentBits) (m : BitVec spec.mantissaBitsWithoutImplicit) :
    (UnpackedFloat.unpack spec (UnpackedFloat.packComponents spec s e m)).isNaN = true ↔
      e = -1#_ ∧ m ≠ 0#_ := by
  rw [isNaN_unpack_iff, UnpackedFloat.unpackExponent_packComponents,
    UnpackedFloat.unpackMantissa_packComponents]

/-- Packing makes no NaN. -/
theorem isNaN_unpack_pack {f : UnpackedFloat} (h : f.isNaN = false) :
    (pack f).unpack.isNaN = false := by
  change (UnpackedFloat.unpack _ (UnpackedFloat.pack Format.binary64 f)).isNaN = false
  rw [Bool.eq_false_iff]
  fun_cases UnpackedFloat.pack with
  | case1 => exact nomatch h
  | case2 s =>
      rw [UnpackedFloat.packedInfinity, Ne, isNaN_unpack_packComponents]
      exact fun hnan => hnan.2 rfl
  | case3 s =>
      rw [UnpackedFloat.packedZero, Ne, isNaN_unpack_packComponents]
      exact fun hnan => hnan.2 rfl
  | case4 s m e hm biasedExponent hoverflow =>
      rw [UnpackedFloat.packedInfinity, Ne, isNaN_unpack_packComponents]
      exact fun hnan => hnan.2 rfl
  | case5 s m e hm bits biasedExponent hoverflow hnormal =>
      rw [Ne, isNaN_unpack_packComponents]
      rintro ⟨hexponent, -⟩
      have hbound : biasedExponent + 1 < 2 ^ 11 := Nat.lt_of_not_le hoverflow
      have hmod : biasedExponent % 2 ^ 11 = 2 ^ 11 - 1 := congrArg BitVec.toNat hexponent
      omega
  | case6 s m e hm bits biasedExponent hoverflow hsubnormal =>
      rw [Ne, isNaN_unpack_packComponents]
      rintro ⟨hexponent, -⟩
      exact absurd hexponent (by decide)

theorem isNaN_zero_or_finite (s : UnpackedFloat.Sign) (m : Nat) (e : Int) :
    (if h : m = 0 then UnpackedFloat.zero s
      else .finite s m e (Nat.pos_of_ne_zero h)).isNaN = false := by
  by_cases h : m = 0
  · rw [dif_pos h]
    rfl
  · rw [dif_neg h]
    rfl

/-- Rounding a finite float gives zero or a finite float. -/
theorem isNaN_roundWithAccuracy (s : UnpackedFloat.Sign) (m : Nat) (e : Int)
    (accuracy : UnpackedFloat.Accuracy) :
    (UnpackedFloat.roundWithAccuracy Format.binary64 s m e accuracy).isNaN = false :=
  isNaN_zero_or_finite ..

/-- A product with a finite factor that is not zero is NaN only if the other factor is. -/
theorem isNaN_mul_finite {a : UnpackedFloat} (h : a.isNaN = false) (s : UnpackedFloat.Sign)
    (m : Nat) (e : Int) (hm : 0 < m) :
    (UnpackedFloat.mul Format.binary64 a (.finite s m e hm)).isNaN = false := by
  cases a with
  | notANumber => exact nomatch h
  | infinity t => rfl
  | zero t => rfl
  | finite t n k hn => exact isNaN_roundWithAccuracy ..

theorem isNaN_ofUInt64 (n : UInt64) : (UnpackedFloat.ofUInt64 Format.binary64 n).isNaN = false := by
  unfold UnpackedFloat.ofUInt64 UnpackedFloat.ofNat UnpackedFloat.ofInt UnpackedFloat.normalize
  split
  next => exact isNaN_roundWithAccuracy ..
  next => rfl
  next => exact isNaN_roundWithAccuracy ..

theorem isNaN_ofScientific (m : Nat) :
    (UnpackedFloat.ofScientific Format.binary64 m 0).isNaN = false := by
  unfold UnpackedFloat.ofScientific
  by_cases hm : m = 0
  · rw [dif_pos hm]
    rfl
  · have hlow : ¬ (0 : Int) < -((2 ^ Format.binary64.exponentBits : Int) + m.log2) := by
      have hpower : (0 : Int) < 2 ^ Format.binary64.exponentBits := by decide
      omega
    rw [dif_neg hm, if_neg (by decide), if_neg hlow, if_pos (Int.le_refl 0)]
    exact isNaN_mul_finite rfl ..

theorem isNaN_ofNat (n : Nat) : (Float.ofNat n).isNaN = false := by
  change (Float.ofScientific n false 0).isNaN = false
  unfold Float.ofScientific
  split
  next =>
    -- the power of ten is the float one
    obtain ⟨s, m, e, hm, hone⟩ :
        ∃ s m e hm, (Float.ofBits 0x3FF0000000000000).toModel.unpack = .finite s m e hm :=
      ⟨_, _, _, _, rfl⟩
    have hfactor : (n.toUInt64.toFloat).toModel.unpack.isNaN = false :=
      isNaN_unpack_pack (isNaN_ofUInt64 n.toUInt64)
    apply isNaN_unpack_pack
    have hpower : Float.exactlyRepresentablePowersOfTen[0] = Float.ofBits 0x3FF0000000000000 := rfl
    rw [hpower, hone]
    exact isNaN_mul_finite hfactor ..
  next => exact isNaN_unpack_pack (isNaN_ofScientific n)

theorem isNaN_neg {a : UnpackedFloat} (h : a.isNaN = false) : a.neg.isNaN = false := by
  cases a with
  | notANumber => exact nomatch h
  | infinity s => rfl
  | zero s => rfl
  | finite s m e hm => rfl

/-- The float nearest to an integer is not NaN. -/
theorem isNaN_ofInt (n : Int) : (Float.ofInt n).isNaN = false := by
  cases n with
  | ofNat n => exact isNaN_ofNat n
  | negSucc n =>
      have h : (Float.ofNat (n + 1)).toModel.unpack.isNaN = false := isNaN_ofNat (n + 1)
      exact isNaN_unpack_pack (isNaN_neg h)

end Stencil.Binary64
