import Stencil.Text.Quoted
import Stencil.Value.Basic

/-! # Values in JSON notation

A value written as JSON without blanks between its parts.
-/

namespace Stencil

/-- A number in JSON notation; NaN and the infinities are written as null. -/
def Number.compact : Number → List Char
  | .int n => (toString n).toList
  | .float x => if x.isFinite then Decimal.Style.compact.float x else "null".toList

namespace Value

/-- Texts in a row with commas between them. -/
def commas : List (List Char) → List Char
  | [] => []
  | [part] => part
  | part :: rest => part ++ ',' :: commas rest

mutual

/-- A value in JSON notation. -/
def compact : Value → List Char
  | null => "null".toList
  | bool b => (if b then "true" else "false").toList
  | number n => n.compact
  | string s => Text.compactQuote s.toList
  | array items => '[' :: commas (compactItems items) ++ [']']
  | object fields => '\x7b' :: commas (compactFields fields) ++ ['\x7d']

/-- The elements of an array in JSON notation. -/
def compactItems : List Value → List (List Char)
  | [] => []
  | v :: vs => v.compact :: compactItems vs

/-- The fields of an object in JSON notation. -/
def compactFields : List (String × Value) → List (List Char)
  | [] => []
  | (key, v) :: fs => (Text.compactQuote key.toList ++ ':' :: v.compact) :: compactFields fs

end

end Value

end Stencil
