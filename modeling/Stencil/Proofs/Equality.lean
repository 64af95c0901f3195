import Stencil.Proofs.FloatOrder
import Stencil.Value.Compare

/-! # Strict and loose equality

Both equalities are reflexive where no number is NaN, both are symmetric, and strictly equal values
are loosely equal.
-/

namespace Stencil.Value

mutual

/-- Whether a number in a value is NaN. -/
def hasNaN : Value → Bool
  | number (.float x) => x.isNaN
  | array items => itemsHaveNaN items
  | object fields => fieldsHaveNaN fields
  | _ => false

/-- Whether a number in one of the elements of an array is NaN. -/
def itemsHaveNaN : List Value → Bool
  | [] => false
  | v :: vs => hasNaN v || itemsHaveNaN vs

/-- Whether a number in one of the fields of an object is NaN. -/
def fieldsHaveNaN : List (String × Value) → Bool
  | [] => false
  | (_, v) :: fs => hasNaN v || fieldsHaveNaN fs

end

/-! ## Structure -/

theorem sameNumber_comm (m n : Number) : sameNumber m n = sameNumber n m := by
  cases m with
  | int i =>
      cases n with
      | int j => exact Bool.beq_comm
      | float y => rfl
  | float x =>
      cases n with
      | int j => rfl
      | float y => exact Binary64.beq_comm x y

mutual

theorem same_comm (a b : Value) : same a b = same b a := by
  cases a with
  | array xs =>
      cases b with
      | array ys =>
          rw [same, same]
          exact sameItems_comm xs ys
      | _ => simp only [same]
  | object fs =>
      cases b with
      | object gs =>
          rw [same, same]
          exact sameFields_comm fs gs
      | _ => simp only [same]
  | number m =>
      cases b with
      | number n =>
          rw [same, same]
          exact sameNumber_comm m n
      | _ => simp only [same]
  | null => cases b <;> simp only [same]
  | bool x => cases b <;> simp only [same, Bool.beq_comm]
  | string s => cases b <;> simp only [same, Bool.beq_comm]

theorem sameItems_comm (xs ys : List Value) : sameItems xs ys = sameItems ys xs := by
  cases xs with
  | nil => cases ys <;> simp only [sameItems]
  | cons x xs =>
      cases ys with
      | nil => simp only [sameItems]
      | cons y ys => rw [sameItems, sameItems, same_comm x y, sameItems_comm xs ys]

theorem sameFields_comm (fs gs : List (String × Value)) : sameFields fs gs = sameFields gs fs := by
  cases fs with
  | nil => cases gs <;> simp only [sameFields]
  | cons f fs =>
      cases gs with
      | nil => simp only [sameFields]
      | cons g gs =>
          rw [sameFields, sameFields, same_comm f.2 g.2, sameFields_comm fs gs, Bool.beq_comm]

end

mutual

theorem same_self : ∀ {a : Value}, a.hasNaN = false → same a a = true
  | .null, _ | .bool _, _ | .string _, _ | .number (.int _), _ => by simp [same, sameNumber]
  | .number (.float x), h => by
      rw [hasNaN] at h
      rw [same, sameNumber, Binary64.beq_self h]
  | .array items, h => by
      rw [hasNaN] at h
      rw [same, sameItems_self h]
  | .object fields, h => by
      rw [hasNaN] at h
      rw [same, sameFields_self h]

theorem sameItems_self : ∀ {items : List Value}, itemsHaveNaN items = false →
    sameItems items items = true
  | [], _ => rfl
  | v :: vs, h => by
      obtain ⟨hv, hvs⟩ := Bool.or_eq_false_iff.mp h
      rw [sameItems, same_self hv, sameItems_self hvs, Bool.and_self]

theorem sameFields_self : ∀ {fields : List (String × Value)}, fieldsHaveNaN fields = false →
    sameFields fields fields = true
  | [], _ => rfl
  | (key, v) :: fs, h => by
      obtain ⟨hv, hfs⟩ := Bool.or_eq_false_iff.mp h
      rw [sameFields, same_self hv, sameFields_self hfs, BEq.rfl, Bool.and_self, Bool.and_self]

end

/-! ## The two equalities -/

theorem isNaN_toFloat {n : Number} (h : (number n).hasNaN = false) : n.toFloat.isNaN = false := by
  cases n with
  | int i => exact Binary64.isNaN_ofInt i
  | float x =>
      rw [hasNaN] at h
      exact h

theorem strictEq_self {a : Value} (h : a.hasNaN = false) : a.strictEq a = true := by
  cases a with
  | number n => exact Binary64.beq_self (isNaN_toFloat h)
  | _ => exact same_self h

theorem strictEq_comm (a b : Value) : a.strictEq b = b.strictEq a := by
  cases a with
  | number m =>
      cases b with
      | number n => exact Binary64.beq_comm m.toFloat n.toFloat
      | _ => exact same_comm _ _
  | _ => cases b <;> exact same_comm _ _

theorem looseEqScalar_comm (a b : Value) : a.looseEqScalar b = b.looseEqScalar a := by
  cases a with
  | null => cases b <;> rfl
  | string s =>
      cases b with
      | null => rfl
      | string t => exact Bool.beq_comm
      | _ => exact Binary64.beq_comm _ _
  | _ =>
      cases b with
      | null => rfl
      | _ => exact Binary64.beq_comm _ _

theorem looseEq_comm (a b : Value) : a.looseEq b = b.looseEq a := by
  rw [looseEq, looseEq, same_comm a b, looseEqScalar_comm a.scalar b.scalar, Bool.and_comm]

theorem looseEq_self {a : Value} (h : a.hasNaN = false) : a.looseEq a = true := by
  cases a with
  | null => rfl
  | bool b =>
      refine Binary64.beq_self ?_
      cases b with
      | false => exact Binary64.isNaN_ofNat 0
      | true => exact Binary64.isNaN_ofNat 1
  | number n => exact Binary64.beq_self (isNaN_toFloat h)
  | string s => exact BEq.rfl
  | array items => exact same_self h
  | object fields => exact same_self h

/-- Only values of the same kind are strictly equal, and these are compared alike loosely. -/
theorem looseEq_of_strictEq {a b : Value} (h : a.strictEq b = true) : a.looseEq b = true := by
  cases a with
  | null =>
      cases b with
      | null => rfl
      | _ => simp [strictEq, same] at h
  | bool x =>
      cases b with
      | bool y =>
          obtain rfl : x = y := by simpa [strictEq, same] using h
          exact looseEq_self rfl
      | _ => simp [strictEq, same] at h
  | number m =>
      cases b with
      | number n => exact h
      | _ => simp [strictEq, same] at h
  | string s =>
      cases b with
      | string t => simpa [strictEq, same, looseEq, looseEqScalar, isComposite, scalar] using h
      | _ => simp [strictEq, same] at h
  | array xs =>
      cases b with
      | array ys => exact h
      | _ => simp [strictEq, same] at h
  | object fs =>
      cases b with
      | object gs => exact h
      | _ => simp [strictEq, same] at h

theorem looseEq_null_iff {a : Value} : looseEq null a = true ↔ a = null := by
  cases a with
  | null => exact iff_of_true rfl rfl
  | _ => simp [looseEq, looseEqScalar, isComposite, scalar]

/-- Strict and loose equality are reflexive on values without NaN and symmetric, the strict one
implies the loose one, and null is loosely equal to nothing but null. -/
theorem equality_coherent (a b : Value) :
    (a.hasNaN = false → a.strictEq a = true ∧ a.looseEq a = true) ∧
      a.strictEq b = b.strictEq a ∧ a.looseEq b = b.looseEq a ∧
      (a.strictEq b = true → a.looseEq b = true) ∧
      (looseEq null a = true ↔ a = null) ∧ (a.looseEq null = true ↔ a = null) := by
  refine ⟨fun h => ⟨strictEq_self h, looseEq_self h⟩, strictEq_comm a b, looseEq_comm a b,
    looseEq_of_strictEq, looseEq_null_iff, ?_⟩
  rw [looseEq_comm]
  exact looseEq_null_iff

/-- An array with a float, an integer that no float stands for, and an object in it. -/
theorem equality_coherent_nested :
    let fields := [("k", null), ("l", string "1")]
    let a := array [number (.float 0.5), int 9007199254740993, object fields]
    let b := array [number (.float 0.5), int 9007199254740992, object fields]
    a.hasNaN = false ∧ a.strictEq a = true ∧ a.looseEq a = true ∧ a.looseEq b = b.looseEq a := by
  intro fields a b
  have h : a.hasNaN = false := by
    have hhalf : (0.5 : Float).isNaN = false := by decide +kernel
    simp only [a, fields, hasNaN, itemsHaveNaN, fieldsHaveNaN, int, hhalf, Bool.or_false]
  obtain ⟨hself, -, hcomm, -⟩ := equality_coherent a b
  exact ⟨h, (hself h).1, (hself h).2, hcomm⟩

end Stencil.Value
