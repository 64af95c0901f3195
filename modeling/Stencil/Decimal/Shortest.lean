import Stencil.Decimal.Binary

/-! # Shortest decimals

The decimal with the fewest digits among those that are read back as a given binary number, and
of these the one nearest to it.
-/

namespace Stencil.Decimal

/-- What happens to a number halfway between two decimals. -/
inductive Tie where
  | up
  | even
deriving DecidableEq, Repr

/-- The number `digits · 10 ^ exponent`. -/
structure Scaled where
  digits : Nat
  exponent : Int

/-- The real numbers that are rounded to `mantissa · 2 ^ exponent`, as bounds on a common
denominator: a number `n / den` lies inside when `low ≤ n ≤ high`, where the bounds themselves
count only if `closed`. The number itself is `mid / den`. -/
structure Rounding where
  low : Nat
  mid : Nat
  high : Nat
  den : Nat
  closed : Bool

namespace Rounding

/-- The reals that are rounded to a positive binary number. Below a power of two the floats lie
twice as close, except at the lowest exponent. -/
def ofBinary (mantissa : Nat) (exponent : Int) : Rounding :=
  let below := if mantissa = Nat.pow 2 52 ∧ exponent ≠ -1074 then 1 else 2
  let scale := Nat.pow 2 (exponent - 2).toNat
  let den := Nat.pow 2 (2 - exponent).toNat
  { low := (4 * mantissa - below) * scale
    mid := 4 * mantissa * scale
    high := (4 * mantissa + 2) * scale
    den
    closed := mantissa % 2 = 0 }

/-- Whether the number `n / r.den` is rounded to the middle. -/
def holds (r : Rounding) (n : Nat) : Bool :=
  if r.closed then r.low ≤ n && n ≤ r.high else r.low < n && n < r.high

/-- The multiple of `10 ^ exponent` that is rounded to the middle, if there is one: of the two
neighbours of the middle the nearer one that lies inside. -/
def onGrid? (tie : Tie) (r : Rounding) (exponent : Int) : Option Scaled :=
  let up := Nat.pow 10 exponent.toNat
  let down := Nat.pow 10 (-exponent).toNat
  let step := r.den * up
  let scaled : Rounding :=
    { r with low := r.low * down, mid := r.mid * down, high := r.high * down }
  let floor := scaled.mid / step
  let left := scaled.mid - floor * step
  let right := (floor + 1) * step - scaled.mid
  let preferUpper :=
    right < left ||
      (right = left && (match tie with | .up => true | .even => floor % 2 = 1))
  match scaled.holds (floor * step), scaled.holds ((floor + 1) * step) with
  | false, false => none
  | true, false => some ⟨floor, exponent⟩
  | false, true => some ⟨floor + 1, exponent⟩
  | true, true => some ⟨if preferUpper then floor + 1 else floor, exponent⟩

/-- The first hit on grids that grow finer, from `10 ^ exponent` on. -/
def search (tie : Tie) (r : Rounding) : Nat → Int → Option Scaled
  | 0, _ => none
  | steps + 1, exponent =>
    match r.onGrid? tie exponent with
    | some s => some s
    | none => search tie r steps (exponent - 1)

end Rounding

/-- An exponent of ten that lies above a positive binary number by at most two. -/
def ceilingExponent (mantissa : Nat) (exponent : Int) : Int :=
  (mantissa.log2 + 1 + exponent) * 30103 / 100000 + 1

/-- The shortest decimal that is read back as the positive number `mantissa · 2 ^ exponent`. The
search starts above the number and grids of seventeen digits always hit. -/
def shortest (tie : Tie) (mantissa : Nat) (exponent : Int) : Scaled :=
  ((Rounding.ofBinary mantissa exponent).search tie 24 (ceilingExponent mantissa exponent)).getD
    ⟨mantissa, exponent⟩

end Stencil.Decimal
