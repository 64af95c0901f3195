/-! # Binary numbers behind floats

A finite float is a sign, a natural number and a power of two. Remainders and whole parts are
computed on this form, where nothing is rounded.
-/

namespace Stencil.Decimal

/-- The number `± mantissa · 2 ^ exponent`. -/
structure Binary where
  negative : Bool
  mantissa : Nat
  exponent : Int

namespace Binary

/-- The number that a float stands for; infinities and NaN stand for none. -/
def ofFloat? (x : Float) : Option Binary :=
  let bits : Nat := x.toBits.toNat
  let fraction : Nat := bits % Nat.pow 2 52
  let field : Nat := bits / Nat.pow 2 52 % Nat.pow 2 11
  let negative := bits / Nat.pow 2 63 == 1
  if field = 2047 then none
  else if field = 0 then some ⟨negative, fraction, -1074⟩
  else some ⟨negative, Nat.pow 2 52 + fraction, (field : Int) - 1075⟩

/-- The float of a number whose mantissa has at most 53 digits to the base 2, where the float
that holds it exists. -/
def toFloat (b : Binary) : Float :=
  let lead := 53 - (if b.mantissa = 0 then 0 else b.mantissa.log2 + 1)
  let shift := min lead (b.exponent + 1074).toNat
  let mantissa := b.mantissa * Nat.pow 2 shift
  let exponent := b.exponent - shift
  let field := if mantissa < Nat.pow 2 52 then 0 else (exponent + 1075).toNat
  let sign := if b.negative then Nat.pow 2 63 else 0
  Float.ofBits (UInt64.ofNat (sign + field * Nat.pow 2 52 + mantissa % Nat.pow 2 52))

/-- The number as an integer, if it is one. -/
def toInt? (b : Binary) : Option Int :=
  let scale := Nat.pow 2 b.exponent.natAbs
  if 0 ≤ b.exponent then
    some (if b.negative then -(b.mantissa * scale : Nat) else (b.mantissa * scale : Nat))
  else if b.mantissa % scale = 0 then
    some (if b.negative then -(b.mantissa / scale : Nat) else (b.mantissa / scale : Nat))
  else
    none

/-- The remainder of a division that is cut toward zero; it has the sign of the dividend. -/
def rem (a b : Binary) : Binary :=
  let low := min a.exponent b.exponent
  let dividend := a.mantissa * Nat.pow 2 (a.exponent - low).toNat
  let divisor := b.mantissa * Nat.pow 2 (b.exponent - low).toNat
  ⟨a.negative, dividend % divisor, low⟩

end Binary

/-- The remainder of a division of floats that is cut toward zero, without rounding. There is
none for an infinite dividend, for the divisor zero or next to NaN. -/
def remainder (x y : Float) : Float :=
  match Binary.ofFloat? x, Binary.ofFloat? y with
  | some a, some b => if b.mantissa = 0 then 0 / 0 else (a.rem b).toFloat
  | some _, none => if y.isNaN then y else x
  | none, _ => 0 / 0

end Stencil.Decimal
