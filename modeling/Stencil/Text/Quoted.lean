import Stencil.Text.Hex
import Stencil.Text.Printable

/-! # Quoted texts

A text between double quotes, in the two forms that messages use. In a *revealing* quote every
character that would not show is written as an escape; in a *compact* quote only the characters
that the JSON grammar excludes are escaped. A text that is shown without quotes may be *tamed*, so
that a terminal does not take parts of it for commands.
-/

namespace Stencil.Text

/-- One character of a revealing quote. -/
def revealChar (c : Char) : List Char :=
  if c = '\x00' then ['\\', '0']
  else if c = '\t' then ['\\', 't']
  else if c = '\r' then ['\\', 'r']
  else if c = '\n' then ['\\', 'n']
  else if c = '\\' || c = '"' then ['\\', c]
  else if isPrintable c then [c]
  else ['\\', 'u', '\x7b'] ++ hexDigits c.toNat ++ ['\x7d']

/-- The revealing quote of a text. -/
def reveal (cs : List Char) : List Char := '"' :: cs.flatMap revealChar ++ ['"']

/-- One character of a compact quote. -/
def compactChar (c : Char) : List Char :=
  if c = '"' || c = '\\' then ['\\', c]
  else if c = '\x08' then ['\\', 'b']
  else if c = '\t' then ['\\', 't']
  else if c = '\n' then ['\\', 'n']
  else if c = '\x0c' then ['\\', 'f']
  else if c = '\r' then ['\\', 'r']
  else if c.toNat < 0x20 then
    let digits := hexDigits c.toNat
    ['\\', 'u'] ++ List.replicate (4 - digits.length) '0' ++ digits
  else [c]

/-- The compact quote of a text. -/
def compactQuote (cs : List Char) : List Char := '"' :: cs.flatMap compactChar ++ ['"']

/-- The two digits to the base 16 behind which a tamed text hides a control character that
terminals obey. Tabs and line breaks are harmless. -/
def commandDigits? : Char → Option (List Char)
  | '\x07' => some ['0', '7']
  | '\x08' => some ['0', '8']
  | '\x0c' => some ['0', 'c']
  | '\x1b' => some ['1', 'b']
  | '\x7f' => some ['7', 'f']
  | _ => none

/-- One character of a tamed text. -/
def tameChar (c : Char) : List Char :=
  match commandDigits? c with
  | some digits => '\\' :: 'x' :: digits
  | none =>
    if 0x80 ≤ c.toNat && c.toNat ≤ 0x9f then ['\\', 'u', '\x7b'] ++ hexDigits c.toNat ++ ['\x7d']
    else [c]

/-- A text without characters that a terminal obeys. -/
def tame (cs : List Char) : List Char := cs.flatMap tameChar

end Stencil.Text
