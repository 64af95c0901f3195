import Stencil.Decimal.Shortest

/-! # The text of a float

A style fixes how the shortest decimal of a float is laid out: in full or with an exponent, and
with or without a point behind a whole number.
-/

namespace Stencil.Decimal

/-- The decisions of a float format. `isPlain` tells whether a number is written in full, given
the power of ten of its first digit. -/
structure Style where
  tie : Tie
  pointed : Bool
  isPlain : Int → Bool

/-- Every number is written in full and a whole number without a point. -/
def Style.plain : Style := ⟨.up, false, fun _ => true⟩

/-- Numbers from `10 ^ -5` up to `10 ^ 16` are written in full and all others with an exponent;
a whole number has a point and a zero. -/
def Style.compact : Style := ⟨.even, true, fun e => -5 ≤ e && e < 16⟩

/-- Digits and power of ten written in full. -/
def Scaled.inFull (pointed : Bool) (digits : List Char) (exponent : Int) : List Char :=
  if 0 ≤ exponent then
    digits ++ List.replicate exponent.toNat '0' ++ (if pointed then ['.', '0'] else [])
  else
    let places := (-exponent).toNat
    let padded := List.replicate (places + 1 - digits.length) '0' ++ digits
    let whole := padded.length - places
    padded.take whole ++ '.' :: padded.drop whole

/-- Digits and power of ten written with an exponent of the first digit. -/
def Scaled.withExponent (digits : List Char) (exponent : Int) : List Char :=
  let first := exponent + digits.length - 1
  let mark := if first < 0 then ['e', '-'] else ['e', '+']
  let fraction := match digits.drop 1 with
    | [] => []
    | rest => '.' :: rest
  digits.take 1 ++ fraction ++ mark ++ Nat.toDigits 10 first.natAbs

/-- The text of a decimal. -/
def Style.decimal (style : Style) (s : Scaled) : List Char :=
  let digits := Nat.toDigits 10 s.digits
  if style.isPlain (s.exponent + digits.length - 1) then
    Scaled.inFull style.pointed digits s.exponent
  else
    Scaled.withExponent digits s.exponent

/-- The text of a float. -/
def Style.float (style : Style) (x : Float) : List Char :=
  match Binary.ofFloat? x with
  | none => if x.isNaN then "NaN".toList else if x < 0 then "-inf".toList else "inf".toList
  | some b =>
    let sign := if b.negative then ['-'] else []
    let size := if b.mantissa = 0 then ⟨0, 0⟩ else shortest style.tie b.mantissa b.exponent
    sign ++ style.decimal size

end Stencil.Decimal
