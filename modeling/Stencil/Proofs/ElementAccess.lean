import Mathlib.Data.List.Induction
import Stencil.Value.Access

/-! # Access to elements

Which key finds what in an array or a string. The length has a key of its own; an element or a
character is found by every numeral of its position, whatever zeros and plus sign stand before its
digits.
-/

namespace Stencil

namespace Decimal

/-- A text is the decimal digits of `n`, behind any zeros. -/
def DigitsOf (digits : List Char) (n : Nat) : Prop :=
  ∃ zeros, digits = List.replicate zeros '0' ++ Nat.toDigits 10 n

/-- A text is a numeral of `n`: digits of `n`, behind at most one plus sign. -/
def Spells (cs : List Char) (n : Nat) : Prop :=
  ∃ sign digits, (sign = [] ∨ sign = ['+']) ∧ DigitsOf digits n ∧ cs = sign ++ digits

theorem isDigit_iff {c : Char} : isDigit c = true ↔ 48 ≤ c.toNat ∧ c.toNat ≤ 57 := by
  simp only [isDigit, Bool.and_eq_true, decide_eq_true_eq, Char.le_def, UInt32.le_iff_toNat_le]
  rfl

theorem digitChar_digitValue {c : Char} (h : isDigit c = true) :
    digitValue c < 10 ∧ Nat.digitChar (digitValue c) = c := by
  obtain ⟨hlow, hhigh⟩ := isDigit_iff.mp h
  have hvalue : digitValue c = c.toNat - 48 := rfl
  have hlt : digitValue c < 10 := by omega
  refine ⟨hlt, Char.toNat_inj.mp ?_⟩
  rw [Nat.toNat_digitChar_of_lt_ten hlt]
  omega

theorem DigitsOf.natOfDigits_eq {digits : List Char} {n : Nat} (h : DigitsOf digits n) :
    natOfDigits digits = n := by
  obtain ⟨zeros, rfl⟩ := h
  have hfold : ∀ ds, natOfDigits ds = Nat.ofDigitChars 10 ds 0 := fun _ => rfl
  rw [hfold, Nat.ofDigitChars_append, Nat.ofDigitChars_replicate_zero, Nat.mul_zero,
    Nat.ofDigitChars_ten_toDigits]

theorem DigitsOf.isDigit_of_mem {digits : List Char} {n : Nat} (h : DigitsOf digits n) {c : Char}
    (hc : c ∈ digits) : isDigit c = true := by
  obtain ⟨zeros, rfl⟩ := h
  rcases List.mem_append.mp hc with hzero | hdigit
  · rw [List.eq_of_mem_replicate hzero]
    rfl
  · have hascii : c.isDigit = true := Nat.isDigit_of_mem_toDigits (by decide) (by decide) hdigit
    simpa [Char.isDigit, isDigit_iff, UInt32.le_iff_toNat_le] using hascii

theorem DigitsOf.ne_plus {digits rest : List Char} {n : Nat} (h : DigitsOf digits n) :
    digits ≠ '+' :: rest := by
  rintro rfl
  exact absurd (h.isDigit_of_mem List.mem_cons_self) (by decide)

/-- Digits are those of the number that they denote. -/
theorem digitsOf_natOfDigits {digits : List Char} (hne : digits ≠ [])
    (h : ∀ c ∈ digits, isDigit c = true) : DigitsOf digits (natOfDigits digits) := by
  -- from the end, where the digits of a number grow
  induction digits using List.reverseRecOn with
  | nil => exact absurd rfl hne
  | append_singleton digits c ih =>
      obtain ⟨hdigits, hc⟩ := List.forall_mem_append.mp h
      obtain ⟨hlt, hchar⟩ := digitChar_digitValue (hc c (List.mem_singleton_self c))
      have hvalue : natOfDigits (digits ++ [c]) = 10 * natOfDigits digits + digitValue c :=
        List.foldl_append
      have hlast : Nat.toDigits 10 (digitValue c) = [c] := by
        rw [Nat.toDigits_of_lt_base hlt, hchar]
      rw [hvalue]
      by_cases hnil : digits = []
      · subst hnil
        have hzero : natOfDigits [] = 0 := rfl
        exact ⟨0, by rw [hzero, Nat.mul_zero, Nat.zero_add, hlast]; rfl⟩
      · obtain ⟨zeros, heq⟩ := ih hnil hdigits
        rcases Nat.eq_zero_or_pos (natOfDigits digits) with hzero | hpos
        · rw [hzero, Nat.toDigits_zero, ← List.replicate_succ'] at heq
          exact ⟨zeros + 1, by rw [hzero, Nat.mul_zero, Nat.zero_add, hlast, ← heq]⟩
        · refine ⟨zeros, ?_⟩
          rw [← Nat.toDigits_append_toDigits (by decide) hpos hlt, hlast, ← List.append_assoc,
            ← heq]

theorem digitsOf_iff {digits : List Char} {n : Nat} :
    DigitsOf digits n ↔
      digits ≠ [] ∧ (∀ c ∈ digits, isDigit c = true) ∧ natOfDigits digits = n := by
  constructor
  · intro h
    refine ⟨?_, fun c hc => h.isDigit_of_mem hc, h.natOfDigits_eq⟩
    obtain ⟨zeros, rfl⟩ := h
    exact List.append_ne_nil_of_right_ne_nil _ Nat.toDigits_ne_nil
  · rintro ⟨hne, hdigits, rfl⟩
    exact digitsOf_natOfDigits hne hdigits

theorem spells_plus_iff {ds : List Char} {n : Nat} : Spells ('+' :: ds) n ↔ DigitsOf ds n := by
  constructor
  · rintro ⟨sign, digits, rfl | rfl, hdigits, heq⟩
    · exact absurd heq.symm hdigits.ne_plus
    · rwa [(List.cons.inj heq).2]
  · intro h
    exact ⟨['+'], ds, .inr rfl, h, rfl⟩

theorem spells_iff_of_not_plus {cs : List Char} (h : ∀ ds, cs ≠ '+' :: ds) {n : Nat} :
    Spells cs n ↔ DigitsOf cs n := by
  constructor
  · rintro ⟨sign, digits, rfl | rfl, hdigits, heq⟩
    · rwa [heq]
    · exact absurd heq (h digits)
  · intro hdigits
    exact ⟨[], cs, .inl rfl, hdigits, rfl⟩

/-- A text is a numeral of at most one number. -/
theorem Spells.unique {cs : List Char} {m n : Nat} (hm : Spells cs m) (hn : Spells cs n) :
    m = n := by
  by_cases hplus : ∃ ds, cs = '+' :: ds
  · obtain ⟨ds, rfl⟩ := hplus
    rw [spells_plus_iff] at hm hn
    exact hm.natOfDigits_eq.symm.trans hn.natOfDigits_eq
  · rw [spells_iff_of_not_plus (not_exists.mp hplus)] at hm hn
    exact hm.natOfDigits_eq.symm.trans hn.natOfDigits_eq

/-- The canonical numeral of a number is one of its numerals. -/
theorem spells_toString (n : Nat) : Spells (toString n).toList n :=
  ⟨[], _, .inl rfl, ⟨0, rfl⟩, by simp⟩

end Decimal

namespace Value

/-- A text is read as a position if it is a numeral of a number below the bound. -/
theorem positionOfText?_eq_some_iff {cs : List Char} {n : Nat} :
    positionOfText? cs = some n ↔ Decimal.Spells cs n ∧ n < positionBound := by
  have hdigits : ∀ ds : List Char,
      (if ds.isEmpty || !ds.all Decimal.isDigit then none
        else if Decimal.natOfDigits ds < positionBound then some (Decimal.natOfDigits ds)
        else none) = some n ↔
      Decimal.DigitsOf ds n ∧ n < positionBound := by
    intro ds
    rw [Decimal.digitsOf_iff]
    grind [List.isEmpty_iff, List.all_eq_true]
  unfold positionOfText?
  split
  next ds =>
    rw [Decimal.spells_plus_iff]
    exact hdigits ds
  next ds hplus =>
    rw [Decimal.spells_iff_of_not_plus hplus]
    exact hdigits cs

/-- The keys whose position is that of their text: all but arrays and floats. -/
def IsTextKey : Value → Prop
  | array _ => False
  | number (.float _) => False
  | _ => True

theorem position?_eq_of_isTextKey {key : Value} (h : key.IsTextKey) :
    key.position? = positionOfText? key.text.toList := by
  cases key with
  | null => rfl
  | bool b => cases b <;> rfl
  | string s => rfl
  | object fields =>
      rw [text]
      rfl
  | array items => exact h.elim
  | number n =>
      cases n with
      | float x => exact h.elim
      | int n =>
          cases n with
          | negSucc n =>
              have htext : (number (.int (.negSucc n))).text.toList =
                  '-' :: (toString (n + 1)).toList := by
                simp [text, Number.text, Int.toString_eq_repr, Int.repr]
              rw [htext]
              rfl
          | ofNat n =>
              ext i
              have hspells : Decimal.Spells (toString n).toList i ↔ n = i := by
                constructor
                · exact (Decimal.spells_toString n).unique
                · rintro rfl
                  exact Decimal.spells_toString n
              have htext : (number (.int (.ofNat n))).text = toString n := rfl
              rw [htext, positionOfText?_eq_some_iff, hspells]
              simp [position?]
              grind

/-- What has a position has a text that is its numeral. -/
theorem spells_of_position? {key : Value} {i : Nat} (h : key.position? = some i) :
    Decimal.Spells key.text.toList i := by
  have hkey : key.IsTextKey := by
    cases key with
    | array items => exact nomatch h
    | number n =>
        cases n with
        | float x => exact nomatch h
        | int n => trivial
    | _ => trivial
  rw [position?_eq_of_isTextKey hkey] at h
  exact (positionOfText?_eq_some_iff.mp h).1

/-- A key whose position is that of its text finds in any value what its text finds. -/
theorem lookup_text {key : Value} (h : key.IsTextKey) (base : Value) :
    base.lookup key = base.lookup (string key.text) := by
  have hposition : key.position? = (string key.text).position? := position?_eq_of_isTextKey h
  have htext : (string key.text).text = key.text := rfl
  cases base <;> simp only [lookup, atPosition?, htext, hposition]

/-- The elements of an array, or the characters of a string. -/
def parts? : Value → Option (List Value)
  | array items => some items
  | string s => some (s.toList.map fun c => string (String.ofList [c]))
  | _ => none

/-- A key finds the length, the part at its position, or null. -/
theorem lookup_parts {base : Value} {parts : List Value} (h : base.parts? = some parts)
    (key : Value) :
    (base.lookup key).map Found.value =
      .ok (if key.text = "length" then int parts.length
        else (atPosition? parts key).getD null) := by
  cases base with
  | array items =>
      obtain rfl : items = parts := Option.some_inj.mp h
      rw [lookup]
      split
      next => rfl
      next => cases atPosition? items key <;> rfl
  | string s =>
      cases h
      have hmap : atPosition? (s.toList.map fun c => string (String.ofList [c])) key =
          (atPosition? s.toList key).map fun c => string (String.ofList [c]) := by
        simp only [atPosition?, List.getElem?_map, Option.map_bind, Function.comp_def]
      rw [lookup, hmap, List.length_map]
      split
      next => rfl
      next => cases atPosition? s.toList key <;> rfl
  | null | bool | number | object => exact nomatch h

/-- A key other than that of the length finds the part at its position, or null if it has no
position among the parts. -/
theorem lookup_position {base : Value} {parts : List Value} (h : base.parts? = some parts)
    {key : Value} (hkey : key.text ≠ "length") :
    (∃ i, ∃ hi : i < parts.length, key.position? = some i ∧
      (base.lookup key).map Found.value = .ok parts[i]) ∨
    (∀ i < parts.length, key.position? ≠ some i) ∧
      (base.lookup key).map Found.value = .ok null := by
  rw [lookup_parts h, if_neg hkey]
  cases hat : atPosition? parts key with
  | some part =>
      obtain ⟨i, hposition, hpart⟩ := Option.bind_eq_some_iff.mp hat
      obtain ⟨hi, rfl⟩ := List.getElem?_eq_some_iff.mp hpart
      exact .inl ⟨i, hi, hposition, rfl⟩
  | none =>
      refine .inr ⟨?_, rfl⟩
      intro i hi hposition
      have hout : parts[i]? = none := Option.bind_eq_none_iff.mp hat i hposition
      exact absurd hi (Nat.not_lt.mpr (List.getElem?_eq_none_iff.mp hout))

/-- What keys find in a value with parts: an array or a string. -/
structure ElementRule (base : Value) (parts : List Value) : Prop where
  /-- The text `length` finds the number of parts. -/
  length : ∀ key, key.text = "length" →
    (base.lookup key).map Found.value = .ok (int parts.length)
  /-- Each numeral of a position finds the part there, unless the key is an array or a float. -/
  element : ∀ key i (h : i < parts.length), key.IsTextKey → Decimal.Spells key.text.toList i →
    (base.lookup key).map Found.value = .ok parts[i]
  /-- A text that is neither finds null. -/
  missing : ∀ key, key.text ≠ "length" →
    (∀ i < parts.length, ¬ Decimal.Spells key.text.toList i) →
    (base.lookup key).map Found.value = .ok null
  /-- An array is no position, whatever its text. -/
  array : ∀ items, (array items).text ≠ "length" →
    (base.lookup (.array items)).map Found.value = .ok null
  /-- A key finds what its text finds, unless it is an array or a float with the numeral of a
  position. -/
  text : ∀ key, key.IsTextKey ∨ (∀ i < parts.length, ¬ Decimal.Spells key.text.toList i) →
    (base.lookup key).map Found.value = (base.lookup (.string key.text)).map Found.value
  /-- A key other than that text selects the part at one position, or it finds null. -/
  found : ∀ key, key.text ≠ "length" →
    (∃ i, ∃ h : i < parts.length, key.position? = some i ∧
      (base.lookup key).map Found.value = .ok parts[i]) ∨
    (∀ i < parts.length, key.position? ≠ some i) ∧
      (base.lookup key).map Found.value = .ok null
  /-- Keys that select the part at the same position are numerals of the same number, whether or
  not other parts are equal to it. -/
  same : ∀ (key key' : Value) (i : Nat), i < parts.length → key.position? = some i →
    key'.position? = some i → Decimal.Spells key.text.toList i ∧ Decimal.Spells key'.text.toList i

/-- Access to the elements of an array and the characters of a string follows one rule. -/
theorem elementRule {base : Value} {parts : List Value} (hparts : base.parts? = some parts)
    (hlength : parts.length ≤ positionBound) : ElementRule base parts := by
  have hmissing : ∀ key, key.text ≠ "length" →
      (∀ i < parts.length, ¬ Decimal.Spells key.text.toList i) →
      (base.lookup key).map Found.value = .ok null := by
    intro key hkey hspells
    rcases lookup_position hparts hkey with ⟨i, hi, hposition, -⟩ | ⟨-, hnull⟩
    · exact absurd (spells_of_position? hposition) (hspells i hi)
    · exact hnull
  have hlengthKey : ∀ key, key.text = "length" →
      (base.lookup key).map Found.value = .ok (int parts.length) := by
    intro key hkey
    rw [lookup_parts hparts, if_pos hkey]
  refine ⟨hlengthKey, ?_, hmissing, ?_, ?_, fun _ => lookup_position hparts, ?_⟩
  · intro key i hi hkey hspells
    have hposition : key.position? = some i := by
      rw [position?_eq_of_isTextKey hkey]
      exact positionOfText?_eq_some_iff.mpr ⟨hspells, Nat.lt_of_lt_of_le hi hlength⟩
    have hne : key.text ≠ "length" := by
      intro heq
      rw [heq] at hspells
      exact nomatch positionOfText?_eq_some_iff.mpr ⟨hspells, Nat.lt_of_lt_of_le hi hlength⟩
    rw [lookup_parts hparts, if_neg hne, atPosition?, hposition, Option.bind_some,
      List.getElem?_eq_getElem hi]
    rfl
  · intro items hitems
    rw [lookup_parts hparts, if_neg hitems]
    rfl
  · rintro key (hkey | hspells)
    · rw [lookup_text hkey]
    · by_cases hlen : key.text = "length"
      · rw [hlengthKey key hlen, hlengthKey (string key.text) hlen]
      · rw [hmissing key hlen hspells, hmissing (string key.text) hlen hspells]
  · intro key key' i _ hkey hkey'
    exact ⟨spells_of_position? hkey, spells_of_position? hkey'⟩

/-- A character behind zeros and a plus sign, an array with the text of a position, and an array
with the text of the length. -/
theorem elementRule_naive :
    let base := string "naïve"
    let parts := ["n", "a", "ï", "v", "e"].map string
    base.parts? = some parts ∧ parts.length ≤ positionBound ∧ ElementRule base parts ∧
      (base.lookup (string "+02")).map Found.value = .ok (string "ï") ∧
      (base.lookup (array [int 2])).map Found.value = .ok null ∧
      (base.lookup (array [string "length"])).map Found.value = .ok (int 5) := by
  intro base parts
  have hparts : base.parts? = some parts := by rfl
  have hlength : parts.length ≤ positionBound := by decide
  have hrule := elementRule hparts hlength
  have htwo : Decimal.Spells "+02".toList 2 := ⟨['+'], _, .inr rfl, ⟨1, rfl⟩, by decide⟩
  refine ⟨hparts, hlength, hrule, hrule.element (string "+02") 2 (by decide) trivial htwo,
    hrule.array _ (by decide +kernel), hrule.length _ ?_⟩
  decide +kernel

/-- A numeral with a sign finds the element that its canonical numeral finds, and an array with the
text of a canonical numeral finds none. -/
theorem lookup_not_canonical :
    let base := array [int 10, int 20]
    (base.lookup (string "+1")).map Found.value = .ok (int 20) ∧
      (base.lookup (string "1")).map Found.value = .ok (int 20) ∧
      (∀ i : Nat, (string "+1").text ≠ toString i) ∧
      (array [int 1]).text = toString 1 ∧
      (base.lookup (array [int 1])).map Found.value = .ok null := by
  refine ⟨by rfl, by rfl, ?_, by decide +kernel, by rfl⟩
  intro i htext
  have hdigits : "+1".toList = Nat.toDigits 10 i := by
    have hchars := congrArg String.toList htext
    simpa [text] using hchars
  have hplus : '+' ∈ Nat.toDigits 10 i := hdigits ▸ List.mem_cons_self
  exact absurd (Nat.isDigit_of_mem_toDigits (by decide) (by decide) hplus) (by decide)

end Value

end Stencil
