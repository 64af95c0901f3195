import Stencil.Value.Basic

/-! # Expressions

The expressions of the template language and the names that occur in them.
-/

namespace Stencil

/-- Operators with one operand. -/
inductive UnaryOp where
  | not
  | neg
deriving DecidableEq, Repr

/-- Operators that evaluate both of their operands. -/
inductive BinaryOp where
  | eq
  | notEq
  | strictEq
  | strictNotEq
  | lt
  | le
  | gt
  | ge
  | add
  | sub
  | mul
  | div
  | rem
deriving DecidableEq, Repr

/-- Operators that may leave their second operand unevaluated. -/
inductive LogicOp where
  | and
  | or
deriving DecidableEq, Repr

/-- An expression. -/
inductive Expr where
  | literal (value : Value)
  | name (id : String)
  | member (base : Expr) (key : String)
  | index (base key : Expr)
  | unary (op : UnaryOp) (operand : Expr)
  | binary (op : BinaryOp) (left right : Expr)
  | logical (op : LogicOp) (left right : Expr)

instance : Inhabited Expr := ⟨.literal .null⟩

namespace Expr

/-- The number of operators of an expression, member and element access included. -/
def operators : Expr → Nat
  | literal _ => 0
  | name _ => 0
  | member base _ => base.operators + 1
  | index base key => base.operators + key.operators + 1
  | unary _ operand => operand.operators + 1
  | binary _ left right => left.operators + right.operators + 1
  | logical _ left right => left.operators + right.operators + 1

end Expr

end Stencil
