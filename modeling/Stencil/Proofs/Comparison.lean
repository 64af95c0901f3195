import Stencil.Expr.Eval
import Stencil.Proofs.FloatOrder

/-! # Order and loose equality

The comparison operators between booleans, numbers and strings. The order is partial: a comparison
by number has no outcome if one side is NaN. Where there is an outcome, it agrees with loose
equality, and comparing in the other order turns it around.
-/

namespace Stencil

namespace Value

/-- Booleans, numbers and strings. -/
def IsScalar : Value → Prop
  | bool _ => True
  | number _ => True
  | string _ => True
  | null => False
  | array _ => False
  | object _ => False

/-- Both values are strings, which are not compared by number. -/
def BothStrings : Value → Value → Prop
  | string _, string _ => True
  | _, _ => False

/-! ## The order of floats -/

/-- The order of floats is that of the numbers that they are unpacked to. -/
theorem compareFloat_eq (x y : Float) :
    compareFloat x y = x.toModel.unpack.compare y.toModel.unpack := by
  have hswap := Binary64.compare_swap y.toModel.unpack x.toModel.unpack
  simp only [compareFloat, Binary64.lt_iff_compare, Binary64.beq_iff_compare, hswap]
  rcases x.toModel.unpack.compare y.toModel.unpack with _ | _ | _ | _ <;> rfl

theorem compareFloat_swap (x y : Float) :
    compareFloat x y = (compareFloat y x).map Ordering.swap := by
  rw [compareFloat_eq, compareFloat_eq, Binary64.compare_swap]

theorem compareFloat_eq_eq_iff {x y : Float} :
    compareFloat x y = some .eq ↔ (x == y) = true := by
  rw [compareFloat_eq, Binary64.beq_iff_compare]

theorem compareFloat_eq_none_iff {x y : Float} :
    compareFloat x y = none ↔ x.isNaN = true ∨ y.isNaN = true := by
  rw [compareFloat_eq, Binary64.compare_eq_none_iff]
  rfl

/-! ## The order of values -/

theorem compare_swap (a b : Value) : a.compare b = (b.compare a).map Ordering.swap := by
  cases a with
  | string s =>
      cases b with
      | string t => exact congrArg some Std.OrientedCmp.eq_swap
      | _ => exact compareFloat_swap _ _
  | _ => cases b <;> exact compareFloat_swap _ _

/-- Where two scalars are the same by their order they are loosely equal. -/
theorem compare_eq_eq_iff {a b : Value} (ha : a.IsScalar) (hb : b.IsScalar) :
    a.compare b = some .eq ↔ a.looseEq b = true := by
  cases a with
  | string s =>
      cases b with
      | string t =>
          change some (Ord.compare s t) = some .eq ↔ (s == t) = true
          rw [Option.some_inj, Std.compare_eq_iff_eq, beq_iff_eq]
      | bool | number => exact compareFloat_eq_eq_iff
      | null | array | object => exact hb.elim
  | bool | number =>
      cases b with
      | bool | number | string => exact compareFloat_eq_eq_iff
      | null | array | object => exact hb.elim
  | null | array | object => exact ha.elim

theorem compare_eq_compareFloat {a b : Value} (h : ¬ BothStrings a b) :
    a.compare b = compareFloat a.toFloat b.toFloat := by
  cases a with
  | string s =>
      cases b with
      | string t => exact absurd trivial h
      | _ => rfl
  | _ => rfl

theorem compare_ne_none_of_bothStrings {a b : Value} (h : BothStrings a b) :
    a.compare b ≠ none := by
  cases a with
  | string s =>
      cases b with
      | string t => exact Option.some_ne_none _
      | _ => exact h.elim
  | _ => exact h.elim

/-- Two values have no order exactly if they are compared by number and one of them is NaN. -/
theorem compare_eq_none_iff {a b : Value} :
    a.compare b = none ↔
      ¬ BothStrings a b ∧ (a.toFloat.isNaN = true ∨ b.toFloat.isNaN = true) := by
  by_cases hstrings : BothStrings a b
  · exact iff_of_false (compare_ne_none_of_bothStrings hstrings) fun h => h.1 hstrings
  · rw [compare_eq_compareFloat hstrings, compareFloat_eq_none_iff, and_iff_right hstrings]

end Value

/-! ## The operators -/

namespace Expr

/-- A binary operator between two expressions has the value true. -/
def Holds (env : Env) (op : BinaryOp) (left right : Expr) : Prop :=
  (binary op left right).eval env = .ok (.bool true)

/-- The operators that compare by order, and loose equality. -/
def comparisons : List BinaryOp := [.lt, .le, .eq, .ge, .gt]

/-- How the comparisons of two expressions with the values `a` and `b` belong together. -/
structure Coherent (env : Env) (left right : Expr) (a b : Value) : Prop where
  /-- Each comparison has an outcome. -/
  decided : ∀ op ∈ comparisons, ∃ outcome,
    (binary op left right).eval env = .ok (.bool outcome)
  not_lt_eq : ¬ (Holds env .lt left right ∧ Holds env .eq left right)
  not_lt_gt : ¬ (Holds env .lt left right ∧ Holds env .gt left right)
  not_eq_gt : ¬ (Holds env .eq left right ∧ Holds env .gt left right)
  le_iff : Holds env .le left right ↔ Holds env .lt left right ∨ Holds env .eq left right
  ge_iff : Holds env .ge left right ↔ Holds env .gt left right ∨ Holds env .eq left right
  /-- Comparing in the other order mirrors the operator. -/
  lt_iff_gt : Holds env .lt left right ↔ Holds env .gt right left
  /-- None of the three holds exactly if the comparison is by number and one side is NaN. -/
  none_iff :
    ¬ Holds env .lt left right ∧ ¬ Holds env .eq left right ∧ ¬ Holds env .gt left right ↔
      ¬ Value.BothStrings a b ∧ (a.toFloat.isNaN = true ∨ b.toFloat.isNaN = true)

variable {env : Env} {left right : Expr} {a b : Value}

theorem eval_binary (hleft : left.eval env = .ok a) (hright : right.eval env = .ok b)
    (op : BinaryOp) : (binary op left right).eval env = .ok (op.apply a b) := by
  rw [eval, hleft, hright]
  rfl

theorem holds_lt_iff (hleft : left.eval env = .ok a) (hright : right.eval env = .ok b) :
    Holds env .lt left right ↔ a.compare b = some .lt := by
  simp [Holds, eval_binary hleft hright, BinaryOp.apply]

theorem holds_gt_iff (hleft : left.eval env = .ok a) (hright : right.eval env = .ok b) :
    Holds env .gt left right ↔ a.compare b = some .gt := by
  simp [Holds, eval_binary hleft hright, BinaryOp.apply]

theorem holds_le_iff (hleft : left.eval env = .ok a) (hright : right.eval env = .ok b) :
    Holds env .le left right ↔ a.compare b = some .lt ∨ a.compare b = some .eq := by
  simp [Holds, eval_binary hleft hright, BinaryOp.apply]

theorem holds_ge_iff (hleft : left.eval env = .ok a) (hright : right.eval env = .ok b) :
    Holds env .ge left right ↔ a.compare b = some .gt ∨ a.compare b = some .eq := by
  simp [Holds, eval_binary hleft hright, BinaryOp.apply]

/-- Between scalars loose equality is the middle outcome of the order. -/
theorem holds_eq_iff (hleft : left.eval env = .ok a) (hright : right.eval env = .ok b)
    (ha : a.IsScalar) (hb : b.IsScalar) :
    Holds env .eq left right ↔ a.compare b = some .eq := by
  simp [Holds, eval_binary hleft hright, BinaryOp.apply, Value.compare_eq_eq_iff ha hb]

/-- The comparisons of two scalars all follow from one partial order, in which loose equality is
the middle outcome. -/
theorem comparisons_coherent (hleft : left.eval env = .ok a) (hright : right.eval env = .ok b)
    (ha : a.IsScalar) (hb : b.IsScalar) : Coherent env left right a b := by
  have hlt := holds_lt_iff hleft hright
  have heq := holds_eq_iff hleft hright ha hb
  have hgt := holds_gt_iff hleft hright
  refine ⟨?_, ?_, ?_, ?_, ?_, ?_, ?_, ?_⟩
  · intro op hop
    rw [eval_binary hleft hright]
    simp only [comparisons, List.mem_cons, List.not_mem_nil, or_false] at hop
    rcases hop with rfl | rfl | rfl | rfl | rfl <;> exact ⟨_, rfl⟩
  · rw [hlt, heq]
    grind
  · rw [hlt, hgt]
    grind
  · rw [heq, hgt]
    grind
  · rw [hlt, heq, holds_le_iff hleft hright]
  · rw [hgt, heq, holds_ge_iff hleft hright]
  · rw [hlt, holds_gt_iff hright hleft, Value.compare_swap]
    rcases b.compare a with _ | _ | _ | _ <;> decide
  · rw [hlt, heq, hgt, ← Value.compare_eq_none_iff]
    rcases a.compare b with _ | _ | _ | _ <;> decide

/-- A string that is compared with a number by number and not by its digits, and a string that
stands for no number. -/
theorem comparisons_coherent_text :
    let env : Env := [("n", .string " 2 "), ("word", .string "two")]
    let ten := literal (.int 10)
    Coherent env (name "n") ten (.string " 2 ") (.int 10) ∧ Holds env .lt (name "n") ten ∧
      Coherent env (name "word") ten (.string "two") (.int 10) ∧
      ¬ Holds env .lt (name "word") ten ∧ ¬ Holds env .eq (name "word") ten ∧
      ¬ Holds env .gt (name "word") ten := by
  intro env ten
  have hn : (name "n").eval env = .ok (.string " 2 ") := by rfl
  have hword : (name "word").eval env = .ok (.string "two") := by rfl
  have hten : ten.eval env = .ok (.int 10) := rfl
  have hnan : (Value.string "two").toFloat.isNaN = true := by decide +kernel
  have hless : (Value.string " 2 ").compare (.int 10) = some .lt := by decide +kernel
  have hcoherent := comparisons_coherent hword hten trivial trivial
  exact ⟨comparisons_coherent hn hten trivial trivial, (holds_lt_iff hn hten).mpr hless,
    hcoherent, hcoherent.none_iff.mpr ⟨id, .inl hnan⟩⟩

end Expr

end Stencil
