/-! # Reading decimals

Two ways to turn a decimal into a float. *Exact* reading rounds the decimal itself to the
nearest float. *Stepwise* reading first rounds a bounded significand and then multiplies or
divides it by powers of ten, so its last digit may differ.
-/

namespace Stencil.Decimal

/-- Whether a character is an ASCII digit. -/
def isDigit (c : Char) : Bool := '0' ≤ c && c ≤ '9'

/-- The value of an ASCII digit. -/
def digitValue (c : Char) : Nat := c.toNat - '0'.toNat

/-- The number that a text of ASCII digits denotes. -/
def natOfDigits (digits : List Char) : Nat :=
  digits.foldl (fun n c => 10 * n + digitValue c) 0

/-- The float nearest to `digits · 10 ^ exponent`. Decimals beyond the range of floats are
decided by the place of their first digit. -/
def nearest (digits : Nat) (exponent : Int) : Float :=
  if digits = 0 then 0
  else
    let top := exponent + (Nat.toDigits 10 digits).length
    if 400 < top then 1 / 0
    else if top < -400 then 0
    else Float.ofScientific digits (exponent < 0) exponent.natAbs

/-- A decimal as it is written: an optional sign, whole digits, digits behind a point and an
exponent. -/
structure Written where
  negative : Bool
  whole : List Char
  fraction : List Char
  exponent : Int

namespace Written

/-- The float nearest to a written decimal. -/
def toFloat (w : Written) : Float :=
  let size := nearest (natOfDigits (w.whole ++ w.fraction)) (w.exponent - w.fraction.length)
  if w.negative then -size else size

end Written

/-- The digits of an unsigned exponent; at least one. -/
def exponentDigits? (cs : List Char) : Option (Int × List Char) :=
  let digits := cs.takeWhile isDigit
  if digits.isEmpty then none else some (natOfDigits digits, cs.dropWhile isDigit)

/-- An exponent behind its mark, with an optional sign. -/
def exponent? : List Char → Option (Int × List Char)
  | '-' :: cs => (exponentDigits? cs).map fun (n, rest) => (-n, rest)
  | '+' :: cs => exponentDigits? cs
  | cs => exponentDigits? cs

/-- Reads a text that is a decimal from end to end: digits with at most one point among or
around them and an optional exponent. -/
def unsigned? (negative : Bool) (cs : List Char) : Option Written :=
  let whole := cs.takeWhile isDigit
  let (fraction, rest) := match cs.dropWhile isDigit with
    | '.' :: ds => (ds.takeWhile isDigit, ds.dropWhile isDigit)
    | ds => ([], ds)
  if whole.isEmpty && fraction.isEmpty then none
  else
    match rest with
    | [] => some ⟨negative, whole, fraction, 0⟩
    | c :: ds =>
      if c = 'e' || c = 'E' then
        match exponent? ds with
        | some (n, []) => some ⟨negative, whole, fraction, n⟩
        | _ => none
      else none

/-- The infinity or NaN that a word names, in any mix of cases. -/
def special? (negative : Bool) (cs : List Char) : Option Float :=
  let word := String.ofList (cs.map Char.toLower)
  if word = "inf" || word = "infinity" then some (if negative then -1 / 0 else 1 / 0)
  else if word = "nan" then some (0 / 0)
  else none

/-- Reads the text of a float: a decimal with an optional sign, or the name of an infinity or of
NaN. -/
def float? (cs : List Char) : Option Float :=
  let (negative, size) := match cs with
    | '-' :: ds => (true, ds)
    | '+' :: ds => (false, ds)
    | ds => (false, ds)
  match special? negative size with
  | some x => some x
  | none => (unsigned? negative size).map Written.toFloat

/-- The largest significand of stepwise reading. -/
def significandBound : Nat := Nat.pow 2 64 - 1

/-- Digits taken into a significand as long as it stays in its bound: the significand and the
digits that no longer fit. -/
def significand : Nat → List Char → Nat × List Char
  | n, [] => (n, [])
  | n, c :: cs =>
    if 10 * n + digitValue c ≤ significandBound then significand (10 * n + digitValue c) cs
    else (n, c :: cs)

/-- Scales a float by a power of ten in steps of at most `10 ^ 308`, given a bound on their
number. There is no result beyond the range of floats. -/
def scale? : Nat → Float → Int → Option Float
  | 0, _, _ => none
  | steps + 1, x, exponent =>
    if exponent.natAbs ≤ 308 then
      let power := Float.ofScientific 1 false exponent.natAbs
      if 0 ≤ exponent then
        if (x * power).isFinite then some (x * power) else none
      else
        some (x / power)
    else if x == 0 then some x
    else if 0 ≤ exponent then none
    else scale? steps (x / 1e308) (exponent + 308)

/-- The float that stepwise reading gives for a written decimal. -/
def Written.stepwise? (w : Written) : Option Float :=
  let (first, spare) := significand 0 w.whole
  let (second, dropped) := significand first w.fraction
  let exponent : Int := spare.length - (w.fraction.length - dropped.length : Nat) + w.exponent
  (scale? 4 (Float.ofNat second) exponent).map fun x => if w.negative then -x else x

end Stencil.Decimal
