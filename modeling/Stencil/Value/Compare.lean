import Stencil.Decimal.Reading
import Stencil.Text.Blank
import Stencil.Value.Basic

/-! # Comparing and combining values

Conversion to numbers, strict and loose equality, order, and the operator `+`. Loose equality and
order convert their operands to numbers unless both are strings.
-/

namespace Stencil.Value

/-- The number that a text stands for: zero when it is blank, NaN when it is no decimal. -/
def floatOfText (s : String) : Float :=
  match Text.trim s.toList with
  | [] => 0
  | cs => (Decimal.float? cs).getD (0 / 0)

mutual

/-- The number that a value stands for in arithmetic. -/
def toFloat : Value → Float
  | null => 0
  | bool b => if b then 1 else 0
  | number n => n.toFloat
  | string s => floatOfText s
  | array items => floatOfItems items
  | object _ => 0 / 0

/-- An array of one element stands for the number of that element. -/
def floatOfItems : List Value → Float
  | [] => 0
  | [v] => v.toFloat
  | _ :: _ :: _ => 0 / 0

end

/-- Whether two numbers are stored alike: an integer never equals a float here. -/
def sameNumber : Number → Number → Bool
  | .int m, .int n => m == n
  | .float x, .float y => x == y
  | _, _ => false

mutual

/-- Whether two values have the same structure. -/
def same : Value → Value → Bool
  | null, null => true
  | bool a, bool b => a == b
  | number m, number n => sameNumber m n
  | string s, string t => s == t
  | array xs, array ys => sameItems xs ys
  | object fs, object gs => sameFields fs gs
  | _, _ => false

/-- Whether two arrays have the same elements. -/
def sameItems : List Value → List Value → Bool
  | [], [] => true
  | x :: xs, y :: ys => same x y && sameItems xs ys
  | _, _ => false

/-- Whether two objects have the same fields. -/
def sameFields : List (String × Value) → List (String × Value) → Bool
  | [], [] => true
  | (k, x) :: fs, (l, y) :: gs => k == l && same x y && sameFields fs gs
  | _, _ => false

end

/-- Strict equality: numbers by their nearest floats, all else by structure. -/
def strictEq : Value → Value → Bool
  | number m, number n => m.toFloat == n.toFloat
  | a, b => same a b

/-- Whether a value is an array or an object. -/
def isComposite : Value → Bool
  | array _ => true
  | object _ => true
  | _ => false

/-- Loose equality of values that are neither arrays nor objects. -/
def looseEqScalar : Value → Value → Bool
  | null, null => true
  | null, _ => false
  | _, null => false
  | string s, string t => s == t
  | a, b => a.toFloat == b.toFloat

/-- A scalar as it is, an array or object as its text. -/
def scalar (v : Value) : Value := if v.isComposite then string v.text else v

/-- Loose equality: null equals null alone, two composite values are compared by structure, and
a composite value meets a scalar as its text. -/
def looseEq (a b : Value) : Bool :=
  if a.isComposite && b.isComposite then same a b
  else looseEqScalar a.scalar b.scalar

/-- The order of two floats; NaN has none. -/
def compareFloat (x y : Float) : Option Ordering :=
  if x < y then some .lt
  else if x == y then some .eq
  else if y < x then some .gt
  else none

/-- The order of two values: strings by code points, all else by number. -/
def compare : Value → Value → Option Ordering
  | string s, string t => some (Ord.compare s t)
  | a, b => compareFloat a.toFloat b.toFloat

/-- Whether a value makes `+` join texts. -/
def joins : Value → Bool
  | string _ => true
  | v => v.isComposite

/-- The operator `+`: joins texts if either side is a string, an array or an object, and adds
numbers otherwise. -/
def add (a b : Value) : Value :=
  if a.joins || b.joins then string (a.text ++ b.text) else ofFloat (a.toFloat + b.toFloat)

end Stencil.Value
