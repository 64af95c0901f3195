import Stencil.Decimal.Layout

/-! # Values

The data that templates are rendered with. An integer and a float are different values even when
they stand for the same number.
-/

namespace Stencil

/-- A number as it is stored. -/
inductive Number where
  | int (n : Int)
  | float (x : Float)

namespace Number

/-- The float nearest to a number. -/
def toFloat : Number → Float
  | int n => Float.ofInt n
  | float x => x

/-- The number in decimal digits, without an exponent. -/
def text : Number → String
  | int n => toString n
  | float x => String.ofList (Decimal.Style.plain.float x)

end Number

/-- A value. The fields of an object have distinct keys in increasing order. -/
inductive Value where
  | null
  | bool (b : Bool)
  | number (n : Number)
  | string (s : String)
  | array (items : List Value)
  | object (fields : List (String × Value))

instance : Inhabited Value := ⟨.null⟩

/-- Sets a field in a list of fields with increasing keys. -/
def insertField (key : String) (value : Value) :
    List (String × Value) → List (String × Value)
  | [] => [(key, value)]
  | (k, v) :: rest =>
    if key < k then (key, value) :: (k, v) :: rest
    else if key = k then (key, value) :: rest
    else (k, v) :: insertField key value rest

namespace Value

/-- An object of the given fields; of two fields with the same key the later one counts. -/
def ofFields (fields : List (String × Value)) : Value :=
  object (fields.foldl (fun acc (key, value) => insertField key value acc) [])

/-- The integer `n` as a value. -/
def int (n : Int) : Value := number (.int n)

/-- The value of a computed float: a whole number below `2 ^ 53` becomes an integer, and NaN and
the infinities become null. -/
def ofFloat (x : Float) : Value :=
  match Decimal.Binary.ofFloat? x with
  | none => null
  | some b =>
    match b.toInt? with
    | some n => if n.natAbs < Nat.pow 2 53 then int n else number (.float x)
    | none => number (.float x)

/-- Whether a value counts as true in a condition. -/
def truthy : Value → Bool
  | null => false
  | bool b => b
  | number n => n.toFloat != 0 && !n.toFloat.isNaN
  | string s => s ≠ ""
  | array _ => true
  | object _ => true

/-- Whether a value is null. -/
def isNull : Value → Bool
  | null => true
  | _ => false

mutual

/-- The text that a value has in output. -/
def text : Value → String
  | null => "null"
  | bool b => if b then "true" else "false"
  | number n => n.text
  | string s => s
  | array items => String.intercalate "," (elementTexts items)
  | object _ => "[object Object]"

/-- The texts of the elements of an array, where null is empty. -/
def elementTexts : List Value → List String
  | [] => []
  | v :: vs => (if v.isNull then "" else v.text) :: elementTexts vs

end

/-- The fields of a value; only an object has any. -/
def fields : Value → List (String × Value)
  | object fields => fields
  | _ => []

end Value

end Stencil
