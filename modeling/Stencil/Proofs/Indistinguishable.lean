import Stencil.Proofs.ElementAccess
import Stencil.Proofs.WholeText
import Stencil.Value.Compare

/-! # What strictly equal values have in common

Strictly equal values count as true together. They also have the same text and find the same
members and elements, as far as floats tell numbers apart: an integer from `2 ^ 53` on shares its
float with others, and a zero has two floats.
-/

namespace Stencil

namespace Number

/-- Floats tell such a number apart: an integer of a magnitude below `2 ^ 53`, or a float. -/
def IsExact : Number → Prop
  | int n => n.natAbs < 2 ^ 53
  | float _ => True

/-- Whether a number is the zero with a minus sign. -/
def isMinusZero : Number → Bool
  | int _ => false
  | float x => x = -0

end Number

namespace Value

/-- A value that is no integer of a magnitude from `2 ^ 53` on. -/
def IsExact : Value → Prop
  | number n => n.IsExact
  | _ => True

mutual

/-- Whether the zeros in a value have the signs of those in another one. The fields of objects have
no part in texts and are left out. -/
def zerosAlike : Value → Value → Bool
  | number m, number n => m.isMinusZero == n.isMinusZero
  | array xs, array ys => itemsZerosAlike xs ys
  | _, _ => true

/-- Whether the zeros in the elements of two arrays have the same signs. -/
def itemsZerosAlike : List Value → List Value → Bool
  | x :: xs, y :: ys => zerosAlike x y && itemsZerosAlike xs ys
  | _, _ => true

end

end Value

/-! ## Floats -/

namespace Binary64

theorem zero_ne_minusZero : (0 : Float) ≠ -0 := by decide +kernel

/-- Equal floats are the same but for the sign of a zero. -/
theorem eq_of_beq {x y : Float} (h : (x == y) = true) (hzero : x = -0 ↔ y = -0) : x = y := by
  obtain ⟨-, -, heq | ⟨rfl, rfl⟩ | ⟨rfl, rfl⟩⟩ := Float.beq_iff_ne_nan_and_eq.mp h
  · exact heq
  · exact absurd (hzero.mpr rfl) zero_ne_minusZero
  · exact absurd (hzero.mp rfl) zero_ne_minusZero

theorem ofInt_ne_minusZero {n : Int} (h : n.natAbs < 2 ^ 53) : Float.ofInt n ≠ -0 := by
  intro heq
  by_cases hne : n = 0
  · subst hne
    exact zero_ne_minusZero heq
  · have hmantissa := ofFloat?_ofInt hne h
    have hzero : Decimal.Binary.ofFloat? (-0) = some ⟨true, 0, -1074⟩ := by rfl
    rw [heq, hzero] at hmantissa
    have hpos := (isNormal_of_lt (Int.natAbs_pos.mpr hne) h).2.pos
    injection hmantissa with hbinary
    injection hbinary with _ hdigits _
    omega

/-- Whether a float is zero or NaN does not depend on the sign of a zero. -/
theorem truthy_congr {x y : Float} (h : (x == y) = true) :
    (x != 0 && !x.isNaN) = (y != 0 && !y.isNaN) := by
  obtain ⟨-, -, rfl | ⟨rfl, rfl⟩ | ⟨rfl, rfl⟩⟩ := Float.beq_iff_ne_nan_and_eq.mp h
  · rfl
  · decide +kernel
  · decide +kernel

end Binary64

namespace Number

variable {m n : Number}

theorem text_toFloat (h : n.IsExact) : (float n.toFloat).text = n.text := by
  cases n with
  | int n => exact text_float_ofInt h
  | float x => rfl

theorem isMinusZero_iff (h : n.IsExact) : n.isMinusZero = true ↔ n.toFloat = -0 := by
  cases n with
  | int n => exact iff_of_false Bool.false_ne_true (Binary64.ofInt_ne_minusZero h)
  | float x => exact decide_eq_true_iff

/-- Numbers with equal floats have the same text. -/
theorem text_eq_of_beq (h : (m.toFloat == n.toFloat) = true) (hm : m.IsExact) (hn : n.IsExact)
    (hzero : m.isMinusZero = n.isMinusZero) : m.text = n.text := by
  have hfloat : m.toFloat = n.toFloat := by
    refine Binary64.eq_of_beq h ?_
    rw [← isMinusZero_iff hm, ← isMinusZero_iff hn, hzero]
  rw [← text_toFloat hm, ← text_toFloat hn, hfloat]

/-- Numbers that are stored alike have the same text, whatever their size. -/
theorem text_eq_of_sameNumber (h : Value.sameNumber m n = true)
    (hzero : m.isMinusZero = n.isMinusZero) : m.text = n.text := by
  cases m with
  | int i =>
      cases n with
      | int j => rw [show i = j from beq_iff_eq.mp h]
      | float y => exact nomatch h
  | float x =>
      cases n with
      | int j => exact nomatch h
      | float y => exact text_eq_of_beq h trivial trivial hzero

end Number

namespace Value

variable {a b : Value}

/-! ## Texts -/

theorem isNull_eq_of_same (h : same a b = true) : a.isNull = b.isNull := by
  cases a <;> cases b <;> first | rfl | simp [same] at h

mutual

/-- Values of the same structure have the same text but for the signs of zeros. -/
theorem text_eq_of_same {a b : Value} (h : same a b = true) (hzero : zerosAlike a b = true) :
    a.text = b.text := by
  cases a with
  | array xs =>
      cases b with
      | array ys =>
          rw [same] at h
          rw [zerosAlike] at hzero
          rw [text, text, elementTexts_eq_of_sameItems h hzero]
      | _ => simp [same] at h
  | number m =>
      cases b with
      | number n =>
          rw [same] at h
          rw [zerosAlike] at hzero
          exact Number.text_eq_of_sameNumber h (beq_iff_eq.mp hzero)
      | _ => simp [same] at h
  | null | bool | string | object => cases b <;> simp_all [same, text]

theorem elementTexts_eq_of_sameItems {xs ys : List Value} (h : sameItems xs ys = true)
    (hzero : itemsZerosAlike xs ys = true) : elementTexts xs = elementTexts ys := by
  cases xs with
  | nil =>
      cases ys with
      | nil => rfl
      | cons y ys => simp [sameItems] at h
  | cons x xs =>
      cases ys with
      | nil => simp [sameItems] at h
      | cons y ys =>
          rw [sameItems, Bool.and_eq_true] at h
          rw [itemsZerosAlike, Bool.and_eq_true] at hzero
          rw [elementTexts, elementTexts, isNull_eq_of_same h.1, text_eq_of_same h.1 hzero.1,
            elementTexts_eq_of_sameItems h.2 hzero.2]

end

theorem truthy_eq_of_strictEq (h : a.strictEq b = true) : a.truthy = b.truthy := by
  cases a with
  | number m =>
      cases b with
      | number n => exact Binary64.truthy_congr h
      | _ => simp [strictEq, same] at h
  | null | bool | string | array | object => cases b <;> simp_all [strictEq, same, truthy]

theorem text_eq_of_strictEq (h : a.strictEq b = true) (hexact : a ≠ b → a.IsExact ∧ b.IsExact)
    (hzero : zerosAlike a b = true) : a.text = b.text := by
  by_cases heq : a = b
  · rw [heq]
  · obtain ⟨ha, hb⟩ := hexact heq
    cases a with
    | number m =>
        cases b with
        | number n =>
            rw [zerosAlike] at hzero
            exact Number.text_eq_of_beq h ha hb (beq_iff_eq.mp hzero)
        | _ => simp [strictEq, same] at h
    | null | bool | string | array | object => exact text_eq_of_same h hzero

/-! ## Access -/

theorem position?_of_not_isTextKey (h : ¬ a.IsTextKey) : a.position? = none := by
  cases a with
  | array items => rfl
  | number n =>
      cases n with
      | float x => rfl
      | int n => exact absurd trivial h
  | null | bool | string | object => exact absurd trivial h

theorem position?_congr (htext : a.text = b.text) (hkey : a.IsTextKey ↔ b.IsTextKey) :
    a.position? = b.position? := by
  by_cases ha : a.IsTextKey
  · rw [position?_eq_of_isTextKey ha, position?_eq_of_isTextKey (hkey.mp ha), htext]
  · rw [position?_of_not_isTextKey ha, position?_of_not_isTextKey (mt hkey.mpr ha)]

theorem atPosition?_congr {parts : List α}
    (h : ∀ i < parts.length, a.position? = some i ↔ b.position? = some i) :
    atPosition? parts a = atPosition? parts b := by
  ext part
  simp only [atPosition?, Option.bind_eq_some_iff]
  refine exists_congr fun i => and_congr_left fun hpart => h i ?_
  exact (List.getElem?_eq_some_iff.mp hpart).1

/-- Keys with the same text find the same, unless there is a part at the position of one alone. -/
theorem lookup_congr (htext : a.text = b.text) {base : Value}
    (h : ∀ parts, base.parts? = some parts →
      ∀ i < parts.length, a.position? = some i ↔ b.position? = some i) :
    base.lookup a = base.lookup b := by
  cases base with
  | array items => rw [lookup, lookup, htext, atPosition?_congr (h items rfl)]
  | string s =>
      have hchars := h _ rfl
      rw [List.length_map] at hchars
      rw [lookup, lookup, htext, atPosition?_congr hchars]
  | null | bool | number | object => simp only [lookup, htext]

/-- Strictly equal values count as true together. If floats tell the numbers in question apart and
the zeros in them have the same signs, the values also have the same text and find the same in every
value, but for an element at the position of an integer that is compared with a float. -/
theorem indistinguishable (h : a.strictEq b = true) :
    a.truthy = b.truthy ∧
      ((a ≠ b → a.IsExact ∧ b.IsExact) → zerosAlike a b = true →
        a.text = b.text ∧
          ∀ base : Value,
            ((a.IsTextKey ↔ b.IsTextKey) ∨
              ∀ parts, base.parts? = some parts →
                ∀ i < parts.length, ¬ Decimal.Spells a.text.toList i) →
            base.lookup a = base.lookup b) := by
  refine ⟨truthy_eq_of_strictEq h, fun hexact hzero => ?_⟩
  have htext := text_eq_of_strictEq h hexact hzero
  refine ⟨htext, fun base hbase => lookup_congr htext fun parts hparts i hi => ?_⟩
  rcases hbase with hkey | hspells
  · rw [position?_congr htext hkey]
  · have hspells := hspells parts hparts i hi
    refine iff_of_false (fun ha => hspells (spells_of_position? ha)) fun hb => hspells ?_
    rw [htext]
    exact spells_of_position? hb

/-- An integer and a float of the same number, as keys of an object and behind the end of an
array. -/
theorem indistinguishable_whole :
    let a := int 3
    let b := number (.float 3)
    let record := object [("3", string "three")]
    let row := array [null, null]
    a.strictEq b = true ∧ a.truthy = b.truthy ∧ a.text = b.text ∧
      record.lookup a = record.lookup b ∧ row.lookup a = row.lookup b := by
  intro a b record row
  have h : a.strictEq b = true := by decide +kernel
  obtain ⟨htruthy, hsame⟩ := indistinguishable h
  have hexact : a ≠ b → a.IsExact ∧ b.IsExact := by
    have hsmall : (3 : Int).natAbs < 2 ^ 53 := by decide
    exact fun _ => ⟨hsmall, trivial⟩
  have hzero : zerosAlike (number (.int 3)) (number (.float 3)) = true := by
    rw [zerosAlike]
    decide +kernel
  obtain ⟨htext, hlookup⟩ := hsame hexact hzero
  have hthree : ∀ i, Decimal.Spells a.text.toList i → i = 3 := fun i hspells =>
    hspells.unique (Decimal.spells_toString 3)
  refine ⟨h, htruthy, htext, hlookup record (.inr fun parts hparts => nomatch hparts),
    hlookup row (.inr fun parts hparts i hi hspells => ?_)⟩
  obtain rfl : [null, null] = parts := Option.some_inj.mp hparts
  rw [hthree i hspells] at hi
  exact absurd hi (by decide)

/-- Two integers with the same float differ in their texts. -/
theorem distinguishable_large :
    let a := int 9007199254740993
    let b := int 9007199254740992
    a.strictEq b = true ∧ a.text ≠ b.text := by
  decide +kernel

end Value

end Stencil
