import Stencil.Text.Basic
import Stencil.Text.Hex

/-! # The lexical level of TOML

Blanks, comments and line ends, the four kinds of strings, and keys.
-/

namespace Stencil.Toml

open Stencil.Text (Reader)

/-- Whether a character is a blank within a line. -/
def isSpace (c : Char) : Bool := c = ' ' || c = '\t'

/-- A text without the blanks at its start. -/
def skipSpace (cs : List Char) : List Char := cs.dropWhile isSpace

/-- What follows a line break at the start of a text. -/
def newline? : List Char → Option (List Char)
  | '\n' :: rest => some rest
  | '\r' :: '\n' :: rest => some rest
  | _ => none

/-- Whether a character may stand in a comment or a string: a tab or no control character. -/
def isShown (c : Char) : Bool := c = '\t' || (' ' ≤ c && c ≠ '\x7f')

/-- A text without the comment at its start, if there is one. -/
def skipComment : List Char → List Char
  | '#' :: rest => rest.dropWhile isShown
  | cs => cs

/-- What follows the end of a line: blanks, a comment, and a line break or the end of the text. -/
def lineEnd? (cs : List Char) : Option (List Char) :=
  match skipComment (skipSpace cs) with
  | [] => some []
  | rest => newline? rest

/-- A text without the blanks, comments and line breaks at its start; the first argument bounds
their number. -/
def skipLines : Nat → List Char → List Char
  | 0, cs => cs
  | bound + 1, cs =>
    let rest := skipComment (skipSpace cs)
    match newline? rest with
    | some next => skipLines bound next
    | none => rest

/-- A text without the blanks, comments and line breaks at its start. -/
def skipAll (cs : List Char) : List Char := skipLines (cs.length + 1) cs

/-- A text without the blanks and line breaks at its start; the first argument bounds their
number. -/
def skipBlankLines : Nat → List Char → List Char
  | 0, cs => cs
  | bound + 1, cs =>
    let rest := skipSpace cs
    match newline? rest with
    | some next => skipBlankLines bound next
    | none => rest

/-- The character behind the backslash of an escape. -/
def escape? : Reader Char
  | 'b' :: rest => some ('\x08', rest)
  | 't' :: rest => some ('\t', rest)
  | 'n' :: rest => some ('\n', rest)
  | 'f' :: rest => some ('\x0c', rest)
  | 'r' :: rest => some ('\r', rest)
  | '"' :: rest => some ('"', rest)
  | '\\' :: rest => some ('\\', rest)
  | 'u' :: rest => (Text.hexNumber? 0 4 rest).bind scalar?
  | 'U' :: rest => (Text.hexNumber? 0 8 rest).bind scalar?
  | _ => none
where
  /-- The character with a given code point. -/
  scalar? : Nat × List Char → Option (Char × List Char)
    | (n, rest) => if n.isValidChar then some (Char.ofNat n, rest) else none

/-- A string behind its opening double quote; the first argument bounds its length. -/
def basic? : Nat → Reader (List Char)
  | 0, _ => none
  | _ + 1, [] => none
  | bound + 1, c :: rest =>
    if c = '"' then some ([], rest)
    else if c = '\\' then do
      let (e, rest) ← escape? rest
      let (s, rest) ← basic? bound rest
      some (e :: s, rest)
    else if isShown c then do
      let (s, rest) ← basic? bound rest
      some (c :: s, rest)
    else none

/-- A string behind its opening single quote. -/
def literal? : Reader (List Char) := fun cs =>
  match cs.span fun c => isShown c && c ≠ '\'' with
  | (s, '\'' :: rest) => some (s, rest)
  | _ => none

/-- The quotes at the end of a string of several lines: up to two of them belong to the string,
and three close it. -/
def closing? (quote : Char) (cs : List Char) : Option (List Char × List Char) :=
  let run := (cs.takeWhile (· = quote)).length
  if run < 3 then none
  else
    let own := min (run - 3) 2
    some (List.replicate own quote, cs.drop (own + 3))

/-- A line break in a string, written as one character. -/
def break? (cs : List Char) : Option (Char × List Char) := (newline? cs).map ('\n', ·)

/-- A string of several lines behind its three double quotes; the first argument bounds its
length. A backslash at the end of a line removes the blanks and line breaks behind it. -/
def basicLines? : Nat → Reader (List Char)
  | 0, _ => none
  | _ + 1, [] => none
  | bound + 1, c :: rest =>
    match closing? '"' (c :: rest) with
    | some closed => some closed
    | none =>
      if c = '\\' then
        match newline? (skipSpace rest) with
        | some next => basicLines? bound (skipBlankLines next.length next)
        | none => do
          let (e, rest) ← escape? rest
          let (s, rest) ← basicLines? bound rest
          some (e :: s, rest)
      else do
        let (d, rest) ← if isShown c then some (c, rest) else break? (c :: rest)
        let (s, rest) ← basicLines? bound rest
        some (d :: s, rest)

/-- A string of several lines behind its three single quotes; the first argument bounds its
length. -/
def literalLines? : Nat → Reader (List Char)
  | 0, _ => none
  | _ + 1, [] => none
  | bound + 1, c :: rest =>
    match closing? '\'' (c :: rest) with
    | some closed => some closed
    | none => do
      let (d, rest) ← if isShown c then some (c, rest) else break? (c :: rest)
      let (s, rest) ← literalLines? bound rest
      some (d :: s, rest)

/-- A text without the line break at its start, if there is one. -/
def skipBreak (cs : List Char) : List Char := (newline? cs).getD cs

/-- A string of one line. -/
def lineString? : Reader (List Char)
  | '"' :: rest => basic? (rest.length + 1) rest
  | '\'' :: rest => literal? rest
  | _ => none

/-- A string of any kind. -/
def string? : Reader (List Char)
  | '"' :: '"' :: '"' :: rest => basicLines? (rest.length + 1) (skipBreak rest)
  | '\'' :: '\'' :: '\'' :: rest => literalLines? (rest.length + 1) (skipBreak rest)
  | cs => lineString? cs

/-- Whether a character may stand in a key without quotes. -/
def isKeyChar (c : Char) : Bool := c.isAlphanum || c = '_' || c = '-'

/-- One part of a key. -/
def keyPart? : Reader String := fun cs =>
  match cs.span isKeyChar with
  | ([], _) => (lineString? cs).map fun (s, rest) => (String.ofList s, rest)
  | (word, rest) => some (String.ofList word, rest)

/-- The number of parts that a key may have. -/
def maxKeyParts : Nat := 79

/-- A key with points between its parts, of which there are at most as many as the first argument
says. -/
def key? : Nat → Reader (List String)
  | 0, _ => none
  | bound + 1, cs => do
    let (part, rest) ← keyPart? (skipSpace cs)
    match skipSpace rest with
    | '.' :: rest => do
      let (parts, rest) ← key? bound rest
      some (part :: parts, rest)
    | rest => some ([part], rest)

end Stencil.Toml
