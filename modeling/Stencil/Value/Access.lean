import Stencil.Decimal.Reading
import Stencil.Fault
import Stencil.Value.Basic

/-! # Members and elements

Access by key: fields of objects by the text of the key, elements of arrays and characters of
strings by position, and the length of both.
-/

namespace Stencil

/-- What access by key finds: a part of the value, or a value made for the answer. -/
inductive Found where
  | child (value : Value)
  | derived (value : Value)

/-- The value that was found. -/
def Found.value : Found → Value
  | child v => v
  | derived v => v

namespace Value

/-- Positions are below this bound. -/
def positionBound : Nat := Nat.pow 2 64

/-- Reads a position: ASCII digits, optionally behind a plus sign. -/
def positionOfText? (cs : List Char) : Option Nat :=
  let digits := match cs with
    | '+' :: ds => ds
    | ds => ds
  if digits.isEmpty || !digits.all Decimal.isDigit then none
  else
    let n := Decimal.natOfDigits digits
    if n < positionBound then some n else none

/-- The position that a key denotes: a stored natural number or a text of digits. A float is no
position, whatever its value. -/
def position? : Value → Option Nat
  | number (.int n) => if 0 ≤ n ∧ n < positionBound then some n.toNat else none
  | string s => positionOfText? s.toList
  | _ => none

/-- A part at the position of a key, if the key has one. -/
def atPosition? (parts : List α) (key : Value) : Option α :=
  key.position?.bind (parts[·]?)

/-- The value at a key. A key that is not there gives null; only null has no keys at all. -/
def lookup (base key : Value) : Except Fault Found :=
  match base with
  | null => .error (.memberOfNull key.text)
  | object fields =>
    match fields.lookup key.text with
    | some v => .ok (.child v)
    | none => .ok (.derived null)
  | array items =>
    if key.text = "length" then .ok (.derived (int items.length))
    else
      match atPosition? items key with
      | some v => .ok (.child v)
      | none => .ok (.derived null)
  | string s =>
    if key.text = "length" then .ok (.derived (int s.toList.length))
    else
      match atPosition? s.toList key with
      | some c => .ok (.derived (string (String.ofList [c])))
      | none => .ok (.derived null)
  | bool _ => .ok (.derived null)
  | number _ => .ok (.derived null)

end Value

end Stencil
