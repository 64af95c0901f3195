import Stencil.Expr.Basic
import Stencil.Value.Access
import Stencil.Value.Compact
import Stencil.Value.Compare

/-! # Evaluation of expressions

The value of an expression where names have given values. Operators with two operands evaluate
the left one first; the logical operators give the operand that decides.
-/

namespace Stencil

/-- Names and their values, the innermost binding first. -/
abbrev Env := List (String × Value)

/-- The value of a name. -/
def Env.get (env : Env) (name : String) : Except Fault Value :=
  match env.lookup name with
  | some v => .ok v
  | none => .error (.undefined name)

/-- The value of a unary operator. -/
def UnaryOp.apply : UnaryOp → Value → Value
  | not, v => .bool (!v.truthy)
  | neg, v => Value.ofFloat (-v.toFloat)

/-- The value of a binary operator. -/
def BinaryOp.apply : BinaryOp → Value → Value → Value
  | eq, a, b => .bool (a.looseEq b)
  | notEq, a, b => .bool (!a.looseEq b)
  | strictEq, a, b => .bool (a.strictEq b)
  | strictNotEq, a, b => .bool (!a.strictEq b)
  | lt, a, b => .bool (a.compare b == some .lt)
  | le, a, b => .bool (a.compare b == some .lt || a.compare b == some .eq)
  | gt, a, b => .bool (a.compare b == some .gt)
  | ge, a, b => .bool (a.compare b == some .gt || a.compare b == some .eq)
  | add, a, b => a.add b
  | sub, a, b => Value.ofFloat (a.toFloat - b.toFloat)
  | mul, a, b => Value.ofFloat (a.toFloat * b.toFloat)
  | div, a, b => Value.ofFloat (a.toFloat / b.toFloat)
  | rem, a, b => Value.ofFloat (Decimal.remainder a.toFloat b.toFloat)

/-- Whether the left operand decides a logical operator. -/
def LogicOp.decides : LogicOp → Value → Bool
  | and, v => !v.truthy
  | or, v => v.truthy

namespace Expr

/-- The value of an expression. -/
def eval (env : Env) : Expr → Except Fault Value
  | literal v => .ok v
  | name id => env.get id
  | member base key => do
    let v ← base.eval env
    let found ← v.lookup (.string key)
    .ok found.value
  | index base key => do
    let v ← base.eval env
    let k ← key.eval env
    let found ← v.lookup k
    .ok found.value
  | unary op operand => do
    let v ← operand.eval env
    .ok (op.apply v)
  | binary op left right => do
    let a ← left.eval env
    let b ← right.eval env
    .ok (op.apply a b)
  | logical op left right => do
    let a ← left.eval env
    if op.decides a then .ok a else right.eval env

/-- A short description of an expression for messages. -/
def brief : Expr → String
  | name id => id
  | member base key => base.brief ++ "." ++ key
  | index base _ => base.brief ++ "[…]"
  | literal v => String.ofList v.compact
  | unary _ _ => "表达式"
  | binary _ _ _ => "表达式"
  | logical _ _ _ => "表达式"

end Expr

end Stencil
