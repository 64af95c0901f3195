import Stencil.Decimal.Reading
import Stencil.Toml.Text
import Stencil.Value.Basic

/-! # Numbers, dates and words of TOML -/

namespace Stencil.Toml

open Stencil.Text (Reader)

/-- Digits of a given kind with single underscores between them; the first argument bounds their
number. -/
def digitsFrom (isDigit : Char → Bool) : Nat → Reader (List Char)
  | 0, cs => some ([], cs)
  | bound + 1, '_' :: c :: rest =>
    if isDigit c then (digitsFrom isDigit bound rest).map fun (ds, rest) => (c :: ds, rest)
    else none
  | _ + 1, ['_'] => none
  | bound + 1, c :: rest =>
    if isDigit c then (digitsFrom isDigit bound rest).map fun (ds, rest) => (c :: ds, rest)
    else some ([], c :: rest)
  | _ + 1, [] => some ([], [])

/-- One or more digits of a given kind with single underscores between them. -/
def digits? (isDigit : Char → Bool) : Reader (List Char)
  | [] => none
  | c :: rest =>
    if isDigit c then
      (digitsFrom isDigit (rest.length + 1) rest).map fun (ds, rest) => (c :: ds, rest)
    else none

/-- Decimal digits of a whole number: a zero has none behind it. -/
def whole? : Reader (List Char)
  | '0' :: rest => some (['0'], rest)
  | cs => digits? Decimal.isDigit cs

/-- Digits behind a point, if there is one. -/
def fraction? : Reader (Option (List Char))
  | '.' :: rest => (digits? Decimal.isDigit rest).map fun (ds, rest) => (some ds, rest)
  | cs => some (none, cs)

/-- An exponent, if there is one. -/
def exponent? : Reader (Option Int)
  | c :: rest =>
    if c = 'e' || c = 'E' then do
      let (negative, rest) := match rest with
        | '-' :: rest => (true, rest)
        | '+' :: rest => (false, rest)
        | rest => (false, rest)
      let (ds, rest) ← digits? Decimal.isDigit rest
      let n : Int := Decimal.natOfDigits ds
      some (some (if negative then -n else n), rest)
    else some (none, c :: rest)
  | [] => some (none, [])

/-- The number that digits denote to a base. -/
def natOfBase (base : Nat) (digits : List Char) : Nat :=
  digits.foldl (fun n c => base * n + (Text.hexValue? c).getD 0) 0

/-- Whether a character is a digit to a base. -/
def isDigitOf (base : Nat) (c : Char) : Bool := (Text.hexValue? c).any (· < base)

/-- An integer of 64 bits. -/
def int64? (n : Int) : Option Value :=
  if -(Nat.pow 2 63 : Int) ≤ n ∧ n < (Nat.pow 2 63 : Int) then some (.int n) else none

/-- An integer to a base behind its mark. -/
def based? (base : Nat) : Reader Value := fun cs => do
  let (ds, rest) ← digits? (isDigitOf base) cs
  let v ← int64? (natOfBase base ds)
  some (v, rest)

/-- A number in decimal digits behind its sign. There is no float above the range of floats; one
below it is the negative infinity. -/
def decimal? (negative : Bool) : Reader Value := fun cs => do
  let (whole, rest) ← whole? cs
  let (fraction, rest) ← fraction? rest
  let (exponent, rest) ← exponent? rest
  match fraction, exponent with
  | none, none => do
    let n : Int := Decimal.natOfDigits whole
    let v ← int64? (if negative then -n else n)
    some (v, rest)
  | _, _ =>
    let x := Decimal.Written.toFloat ⟨negative, whole, fraction.getD [], exponent.getD 0⟩
    if x.isInf && !negative then none else some (.number (.float x), rest)

/-- A number behind its sign. -/
def signed? (negative : Bool) : Reader Value
  | 'i' :: 'n' :: 'f' :: rest =>
    some (.number (.float (if negative then -1 / 0 else 1 / 0)), rest)
  | 'n' :: 'a' :: 'n' :: rest => some (.number (.float (0 / 0)), rest)
  | cs => decimal? negative cs

/-- A number. -/
def number? : Reader Value
  | '+' :: rest => signed? false rest
  | '-' :: rest => signed? true rest
  | '0' :: 'x' :: rest => based? 16 rest
  | '0' :: 'o' :: rest => based? 8 rest
  | '0' :: 'b' :: rest => based? 2 rest
  | cs => signed? false cs

/-- Exactly `count` decimal digits. -/
def fixed? (count : Nat) : Reader Nat := fun cs =>
  let ds := cs.take count
  if ds.length = count && ds.all Decimal.isDigit then
    some (Decimal.natOfDigits ds, cs.drop count)
  else none

/-- A number of two digits within bounds. -/
def two? (low high : Nat) : Reader Nat := fun cs => do
  let (n, rest) ← fixed? 2 cs
  if low ≤ n ∧ n ≤ high then some (n, rest) else none

/-- What follows a given character. -/
def past? (c : Char) : List Char → Option (List Char)
  | d :: rest => if c = d then some rest else none
  | [] => none

/-- The number of days of a month. -/
def daysOfMonth (year month : Nat) : Nat :=
  if month = 2 then
    if year % 4 = 0 ∧ (year % 100 ≠ 0 ∨ year % 400 = 0) then 29 else 28
  else if month = 4 ∨ month = 6 ∨ month = 9 ∨ month = 11 then 30
  else 31

/-- What follows a date. -/
def date? (cs : List Char) : Option (List Char) := do
  let (year, rest) ← fixed? 4 cs
  let rest ← past? '-' rest
  let (month, rest) ← two? 1 12 rest
  let rest ← past? '-' rest
  let (_, rest) ← two? 1 (daysOfMonth year month) rest
  some rest

/-- What follows a time of day. -/
def time? (cs : List Char) : Option (List Char) := do
  let (_, rest) ← two? 0 23 cs
  let rest ← past? ':' rest
  let (_, rest) ← two? 0 59 rest
  let rest ← past? ':' rest
  let (_, rest) ← two? 0 60 rest
  match rest with
  | '.' :: c :: more =>
    if Decimal.isDigit c then some (more.dropWhile Decimal.isDigit) else none
  | ['.'] => none
  | rest => some rest

/-- What follows the offset of a time, if there is one. -/
def skipZone (cs : List Char) : List Char :=
  match cs with
  | 'Z' :: rest => rest
  | 'z' :: rest => rest
  | c :: rest =>
    if c = '+' || c = '-' then
      (do
        let (_, rest) ← two? 0 23 rest
        let rest ← past? ':' rest
        let (_, rest) ← two? 0 59 rest
        some rest).getD cs
    else cs
  | [] => []

/-- What follows a date with or without a time. -/
def dateTime? (cs : List Char) : Option (List Char) := do
  let rest ← date? cs
  match rest with
  | c :: more =>
    if c = 'T' || c = 't' || c = ' ' then
      match time? more with
      | some after => some (skipZone after)
      | none => some rest
    else some rest
  | [] => some []

/-- A date or time as a value: a record of its text under a key that no configuration uses. -/
def moment (cs rest : List Char) : Value :=
  .object [("$moment", .string (String.ofList (cs.take (cs.length - rest.length))))]

/-- A date, a time, a number or a word. -/
def scalar? : Reader Value := fun cs =>
  match dateTime? cs with
  | some rest => some (moment cs rest, rest)
  | none =>
    match time? cs with
    | some rest => some (moment cs rest, rest)
    | none =>
      match cs with
      | 't' :: 'r' :: 'u' :: 'e' :: rest => some (.bool true, rest)
      | 'f' :: 'a' :: 'l' :: 's' :: 'e' :: rest => some (.bool false, rest)
      | _ => number? cs

end Stencil.Toml
