import Stencil.Decimal.Reading
import Stencil.Text.Basic
import Stencil.Text.Hex
import Stencil.Value.Basic

/-! # Reading JSON

A reader of JSON documents with a bound on nesting. A number without point and exponent that
fits into 64 bits is an integer, except minus zero; every other number is a float that is read
stepwise.
-/

namespace Stencil.Json

open Text (Reader)

/-- Blank characters between the tokens of a document. -/
def isSpace (c : Char) : Bool := c = ' ' || c = '\t' || c = '\n' || c = '\r'

/-- A text without the blanks at its start. -/
def skip (cs : List Char) : List Char := cs.dropWhile isSpace

/-- Four digits to the base 16. -/
def unit? : Reader Nat := Text.hexNumber? 0 4

/-- An escape behind `\u`: one unit, or two units that make up a surrogate pair. -/
def escapedUnits? : Reader Char := fun cs => do
  let (high, rest) ← unit? cs
  if 0xd800 ≤ high ∧ high < 0xdc00 then
    match rest with
    | '\\' :: 'u' :: more =>
      let (low, rest) ← unit? more
      if 0xdc00 ≤ low ∧ low < 0xe000 then
        some (Char.ofNat (0x10000 + (high - 0xd800) * 0x400 + (low - 0xdc00)), rest)
      else none
    | _ => none
  else if 0xdc00 ≤ high ∧ high < 0xe000 then none
  else some (Char.ofNat high, rest)

/-- The character that a one-letter escape stands for. -/
def escaped? : Char → Option Char
  | '"' => some '"'
  | '\\' => some '\\'
  | '/' => some '/'
  | 'b' => some '\x08'
  | 'f' => some '\x0c'
  | 'n' => some '\n'
  | 'r' => some '\r'
  | 't' => some '\t'
  | _ => none

/-- The rest of a string behind its opening quote; the first argument bounds its length. -/
def stringRest? : Nat → Reader (List Char)
  | 0, _ => none
  | _ + 1, [] => none
  | _ + 1, '"' :: rest => some ([], rest)
  | bound + 1, '\\' :: 'u' :: rest => do
    let (c, rest) ← escapedUnits? rest
    let (cs, rest) ← stringRest? bound rest
    some (c :: cs, rest)
  | bound + 1, '\\' :: e :: rest => do
    let c ← escaped? e
    let (cs, rest) ← stringRest? bound rest
    some (c :: cs, rest)
  | bound + 1, c :: rest =>
    if c = '\\' || c.toNat < 0x20 then none
    else do
      let (cs, rest) ← stringRest? bound rest
      some (c :: cs, rest)

/-- The string behind an opening quote. -/
def string? : Reader String := fun cs =>
  (stringRest? (cs.length + 1) cs).map fun (s, rest) => (String.ofList s, rest)

/-- Digits of a whole number: a zero has nothing behind it. -/
def whole? : Reader (List Char) := fun cs =>
  match cs.takeWhile Decimal.isDigit, cs.dropWhile Decimal.isDigit with
  | [], _ => none
  | '0' :: _ :: _, _ => none
  | digits, rest => some (digits, rest)

/-- The digits behind a point, if there is one; then at least one digit follows. -/
def fraction? : Reader (List Char)
  | '.' :: cs =>
    let digits := cs.takeWhile Decimal.isDigit
    if digits.isEmpty then none else some (digits, cs.dropWhile Decimal.isDigit)
  | cs => some ([], cs)

/-- The exponent, if there is one. -/
def exponent? : Reader (Option Int)
  | c :: cs =>
    if c = 'e' || c = 'E' then
      (Decimal.exponent? cs).map fun (n, rest) => (some n, rest)
    else some (none, c :: cs)
  | [] => some (none, [])

/-- The number that stands behind an optional minus sign. -/
def number? (negative : Bool) : Reader Number := fun cs => do
  let (whole, rest) ← whole? cs
  let (fraction, rest) ← fraction? rest
  let (exponent, rest) ← exponent? rest
  let size := Decimal.natOfDigits whole
  let isInt :=
    fraction.isEmpty && exponent.isNone &&
      (if negative then 0 < size && size ≤ Nat.pow 2 63 else size < Nat.pow 2 64)
  if isInt then
    some (.int (if negative then -(size : Int) else size), rest)
  else
    let written : Decimal.Written := ⟨negative, whole, fraction, exponent.getD 0⟩
    written.stepwise?.map fun x => (.float x, rest)

/-- The elements of an array behind its opening bracket or a comma; the first argument bounds
their number. -/
def items? (item : Reader Value) : Nat → Reader (List Value)
  | 0, _ => none
  | bound + 1, cs => do
    let (v, rest) ← item cs
    match skip rest with
    | ',' :: rest => do
      let (vs, rest) ← items? item bound rest
      some (v :: vs, rest)
    | ']' :: rest => some ([v], rest)
    | _ => none

/-- The fields of an object behind its opening brace or a comma; the first argument bounds their
number. -/
def fields? (item : Reader Value) : Nat → Reader (List (String × Value))
  | 0, _ => none
  | bound + 1, cs => do
    let '"' :: rest := skip cs | none
    let (key, rest) ← string? rest
    let ':' :: rest := skip rest | none
    let (v, rest) ← item rest
    match skip rest with
    | ',' :: rest => do
      let (fs, rest) ← fields? item bound rest
      some ((key, v) :: fs, rest)
    | '\x7d' :: rest => some ([(key, v)], rest)
    | _ => none

/-- A word that stands for a value. -/
def word? : Reader Value
  | 'n' :: 'u' :: 'l' :: 'l' :: rest => some (.null, rest)
  | 't' :: 'r' :: 'u' :: 'e' :: rest => some (.bool true, rest)
  | 'f' :: 'a' :: 'l' :: 's' :: 'e' :: rest => some (.bool false, rest)
  | _ => none

/-- A value with at most the given number of arrays and objects around one another. -/
def value? : Nat → Reader Value
  | 0, cs => scalar? (skip cs)
  | depth + 1, cs =>
    match skip cs with
    | '[' :: rest =>
      match skip rest with
      | ']' :: rest => some (.array [], rest)
      | _ => (items? (value? depth) rest.length rest).map fun (vs, rest) => (.array vs, rest)
    | '\x7b' :: rest =>
      match skip rest with
      | '\x7d' :: rest => some (.object [], rest)
      | _ =>
        (fields? (value? depth) rest.length rest).map fun (fs, rest) => (Value.ofFields fs, rest)
    | cs => scalar? cs
where
  /-- A value that is neither an array nor an object. -/
  scalar? (cs : List Char) : Option (Value × List Char) :=
    match cs with
    | '"' :: rest => (string? rest).map fun (s, rest) => (.string s, rest)
    | '-' :: rest => (number? true rest).map fun (n, rest) => (.number n, rest)
    | c :: rest =>
      if Decimal.isDigit c then
        (number? false (c :: rest)).map fun (n, rest) => (.number n, rest)
      else word? (c :: rest)
    | [] => none

/-- The value of a whole document. -/
def parse (depth : Nat) (cs : List Char) : Option Value :=
  match value? depth cs with
  | some (v, rest) => if (skip rest).isEmpty then some v else none
  | none => none

/-- The nesting bound of a data file. -/
def dataDepth : Nat := 127

end Stencil.Json
