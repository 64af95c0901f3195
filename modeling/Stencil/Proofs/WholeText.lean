import Stencil.Proofs.WholeFloat
import Stencil.Value.Basic

/-! # Texts of whole numbers

The float of a whole number below `2 ^ 53` has the text of the whole number. All decimals that are
read back as the float and that stand on a grid of whole numbers are the number itself, so the
search for the shortest one finds its digits without the zeros at their end.
-/

namespace Stencil

namespace Decimal

/-- A decimal stands for a whole number and has no digits behind the point. -/
structure Scaled.IsWhole (s : Scaled) (n : Nat) : Prop where
  exponent : 0 ≤ s.exponent
  value : s.digits * 10 ^ s.exponent.toNat = n

/-- Around a whole number reals are rounded to it up to a distance less than one. -/
structure Rounding.IsWhole (r : Rounding) (n : Nat) : Prop where
  mid : r.mid = n * r.den
  low : r.low < r.mid
  high : r.mid < r.high
  below : r.mid < r.low + r.den
  above : r.high < r.mid + r.den

namespace Rounding

theorem le_of_holds {r : Rounding} {x : Nat} (h : r.holds x = true) : r.low ≤ x ∧ x ≤ r.high := by
  unfold holds at h
  split at h
  next => simpa using h
  next =>
    have hlt : r.low < x ∧ x < r.high := by simpa using h
    exact ⟨hlt.1.le, hlt.2.le⟩

theorem holds_of_lt {r : Rounding} {x : Nat} (hlow : r.low < x) (hhigh : x < r.high) :
    r.holds x = true := by
  unfold holds
  split
  next => simpa using ⟨hlow.le, hhigh.le⟩
  next => simpa using ⟨hlow, hhigh⟩

namespace IsWhole

variable {r : Rounding} {n : Nat}

theorem den_pos (h : r.IsWhole n) : 0 < r.den := by
  have hlow := h.low
  have hbelow := h.below
  omega

/-- No other whole number is rounded to the middle. -/
theorem holds_iff (h : r.IsWhole n) {c : Nat} : r.holds (c * r.den) = true ↔ c = n := by
  obtain ⟨hmid, hlow, hhigh, hbelow, habove⟩ := h
  constructor
  · intro hholds
    obtain ⟨hge, hle⟩ := le_of_holds hholds
    rcases Nat.lt_trichotomy c n with hlt | heq | hgt
    · have hstep : (c + 1) * r.den ≤ n * r.den := Nat.mul_le_mul_right _ hlt
      rw [Nat.add_one_mul] at hstep
      omega
    · exact heq
    · have hstep : (n + 1) * r.den ≤ c * r.den := Nat.mul_le_mul_right _ hgt
      rw [Nat.add_one_mul] at hstep
      omega
  · rintro rfl
    rw [← hmid]
    exact holds_of_lt hlow hhigh

/-- A grid of whole numbers is hit if it has the number on it. -/
theorem onGrid?_eq (h : r.IsWhole n) (tie : Tie) (j : Nat) :
    r.onGrid? tie j = if 10 ^ j ∣ n then some ⟨n / 10 ^ j, j⟩ else none := by
  have hfloor : r.mid / (r.den * 10 ^ j) = n / 10 ^ j := by
    rw [h.mid, Nat.mul_comm n, Nat.mul_div_mul_left _ _ h.den_pos]
  have hpoint : ∀ c, c * (r.den * 10 ^ j) = c * 10 ^ j * r.den := by
    intro c
    rw [Nat.mul_comm r.den, Nat.mul_assoc]
  have hupper : r.holds ((n / 10 ^ j + 1) * 10 ^ j * r.den) = false := by
    rw [Bool.eq_false_iff, Ne, h.holds_iff]
    have hlt : n < (n / 10 ^ j + 1) * 10 ^ j :=
      Nat.lt_mul_of_div_lt (Nat.lt_succ_self _) (by positivity)
    omega
  have hlower : r.holds (n / 10 ^ j * 10 ^ j * r.den) = decide (10 ^ j ∣ n) := by
    rw [Bool.eq_iff_iff, h.holds_iff, decide_eq_true_iff, Nat.dvd_iff_div_mul_eq]
  simp only [onGrid?, Int.toNat_natCast, Int.toNat_neg_natCast, Nat.pow_eq, Nat.pow_zero,
    Nat.mul_one, hfloor, hpoint, hupper, hlower]
  by_cases hdvd : 10 ^ j ∣ n
  · rw [if_pos hdvd, decide_eq_true hdvd]
  · rw [if_neg hdvd, decide_eq_false hdvd]

/-- The search ends on a grid of whole numbers, at the latest on the one that has all of them. -/
theorem search (h : r.IsWhole n) (tie : Tie) {steps j : Nat} (hj : j < steps) :
    ∃ s, r.search tie steps j = some s ∧ s.IsWhole n := by
  induction j generalizing steps with
  | zero =>
      obtain ⟨steps, rfl⟩ := Nat.exists_eq_add_of_lt hj
      have hunits : 10 ^ 0 ∣ n := one_dvd n
      refine ⟨⟨n / 10 ^ 0, (0 : Nat)⟩, ?_, Int.le_refl 0, Nat.div_mul_cancel hunits⟩
      rw [Nat.zero_add, Rounding.search, h.onGrid?_eq, if_pos hunits]
  | succ j ih =>
      obtain ⟨steps, rfl⟩ := Nat.exists_eq_succ_of_ne_zero (Nat.ne_zero_of_lt hj)
      rw [Rounding.search, h.onGrid?_eq]
      by_cases hdvd : 10 ^ (j + 1) ∣ n
      · rw [if_pos hdvd]
        exact ⟨_, rfl, Int.natCast_nonneg _, Nat.div_mul_cancel hdvd⟩
      · rw [if_neg hdvd]
        have hfiner : ((j + 1 : Nat) : Int) - 1 = j := by omega
        rw [hfiner]
        exact ih (Nat.lt_of_succ_lt_succ hj)

end IsWhole

/-- The reals that are rounded to a normal float without digits behind the point. -/
theorem isWhole_ofBinary {n k : Nat} (hpos : 0 < n) : (ofBinary (n * 2 ^ k) (-k)).IsWhole n := by
  have hscale : (-(k : Int) - 2).toNat = 0 := by omega
  have hden : 2 ^ (2 - -(k : Int)).toNat = 4 * 2 ^ k := by
    have hexponent : (2 - -(k : Int)).toNat = k + 2 := by omega
    rw [hexponent, Nat.pow_add, Nat.mul_comm]
  have hmid : 4 * (n * 2 ^ k) = n * (4 * 2 ^ k) := Nat.mul_left_comm 4 n _
  have hone : 1 ≤ 2 ^ k := Nat.two_pow_pos k
  have hmantissa : 1 ≤ n * 2 ^ k := Nat.mul_pos hpos hone
  constructor <;>
    simp only [ofBinary, hscale, hden, Nat.pow_eq, Nat.pow_zero, Nat.mul_one]
  case mid => exact hmid
  case low => split <;> omega
  case high => omega
  case below => split <;> omega
  case above => omega

end Rounding

theorem isWhole_shortest (tie : Tie) {n k : Nat} (hlow : 2 ^ 52 ≤ n * 2 ^ k)
    (hhigh : n * 2 ^ k < 2 ^ 53) (hk : k ≤ 52) : (shortest tie (n * 2 ^ k) (-k)).IsWhole n := by
  have hpos : 0 < n := by
    rcases Nat.eq_zero_or_pos n with rfl | hpos
    · omega
    · exact hpos
  have hlog : (n * 2 ^ k).log2 = 52 := (Nat.log2_eq_iff (by omega)).mpr ⟨hlow, hhigh⟩
  obtain ⟨j, hceiling, hj⟩ : ∃ j : Nat, ceilingExponent (n * 2 ^ k) (-k) = j ∧ j < 24 := by
    refine ⟨(ceilingExponent (n * 2 ^ k) (-k)).toNat, ?_, ?_⟩ <;>
      rw [ceilingExponent, hlog] <;> omega
  obtain ⟨s, hsearch, hwhole⟩ := (Rounding.isWhole_ofBinary hpos).search tie hj
  rw [shortest, hceiling, hsearch]
  exact hwhole

/-! ## Layout -/

/-- A power of ten brings zeros behind the digits. -/
theorem toDigits_mul_pow {n : Nat} (hpos : 0 < n) (k : Nat) :
    Nat.toDigits 10 (n * 10 ^ k) = Nat.toDigits 10 n ++ List.replicate k '0' := by
  induction k with
  | zero => simp
  | succ k ih =>
      have hstep : n * 10 ^ (k + 1) = 10 * (n * 10 ^ k) + 0 := by ring
      have hzero : Nat.toDigits 10 0 = ['0'] := rfl
      rw [hstep, ← Nat.toDigits_append_toDigits (by decide) (by positivity) (by decide), ih, hzero,
        List.append_assoc, List.replicate_succ']

theorem Scaled.IsWhole.plain {s : Scaled} {n : Nat} (h : s.IsWhole n) (hpos : 0 < n) :
    Style.plain.decimal s = Nat.toDigits 10 n := by
  obtain ⟨hexponent, rfl⟩ := h
  have hdigits : 0 < s.digits := Nat.pos_of_mul_pos_right hpos
  rw [toDigits_mul_pow hdigits]
  simp [Style.decimal, Style.plain, Scaled.inFull, hexponent]

end Decimal

namespace Number

/-- The float of a whole number below `2 ^ 53` has the text of the whole number. -/
theorem text_float_ofInt {n : Int} (h : n.natAbs < 2 ^ 53) :
    (float (Float.ofInt n)).text = (int n).text := by
  by_cases hne : n = 0
  · subst hne
    decide +kernel
  · have hpos : 0 < n.natAbs := Int.natAbs_pos.mpr hne
    obtain ⟨hlog, hnormal⟩ := Binary64.isNormal_of_lt hpos h
    have hexponent : (n.natAbs.log2 : Int) - 52 = -(52 - n.natAbs.log2 : Nat) := by omega
    have hdigits := (Decimal.isWhole_shortest .up hnormal.low hnormal.high
      (Nat.sub_le 52 _)).plain hpos
    have htext : (toString n).toList =
        (if n < 0 then ['-'] else []) ++ Nat.toDigits 10 n.natAbs := by
      cases n with
      | ofNat n => simp [Int.toString_eq_repr, Int.repr]
      | negSucc n => simp [Int.toString_eq_repr, Int.repr]
    rw [text, text, ← String.ofList_toList (s := toString n), htext, Decimal.Style.float,
      Binary64.ofFloat?_ofInt hne h, hexponent]
    simp only [if_neg hnormal.pos.ne', decide_eq_true_eq]
    rw [← hdigits]
    rfl

end Number

end Stencil
