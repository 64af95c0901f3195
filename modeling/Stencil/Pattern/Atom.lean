import Stencil.Text.Basic
import Stencil.Text.Blank
import Stencil.Text.Hex

/-! # Atoms of patterns

A pattern is a regular expression. Its smallest parts are characters, classes of characters that
have a name of one letter, and edges of the text, of a line or of a word. There are no counts and
no names between braces, so an opening brace is never part of an atom.
-/

namespace Stencil.Pattern

open Stencil.Text (Reader)

/-- What the reading of a pattern depends on: whether blanks and comments have no meaning, and
whether the pattern is about characters rather than bytes. -/
structure Mode where
  spaced : Bool
  unicode : Bool
deriving DecidableEq, Repr

namespace Mode

/-- The mode in which every pattern starts. -/
def standard : Mode := ⟨false, true⟩

/-- A text without the blanks and comments at its start; the first argument bounds their
number. -/
def skipFrom : Nat → List Char → List Char
  | 0, cs => cs
  | _ + 1, [] => []
  | bound + 1, c :: cs =>
    if Text.isBlank c then skipFrom bound cs
    else if c = '#' then skipFrom bound ((cs.dropWhile (· ≠ '\n')).drop 1)
    else c :: cs

/-- A text without what has no meaning at its start. -/
def skip (mode : Mode) (cs : List Char) : List Char :=
  if mode.spaced then skipFrom cs.length cs else cs

/-- The first character that is neither blank nor the first sign of a comment. -/
def firstShown? (commented : Bool) : List Char → Option Char
  | [] => none
  | c :: cs =>
    if Text.isBlank c then firstShown? commented cs
    else if c = '#' && !commented then firstShown? true cs
    else some c

/-- The character behind a hyphen that decides whether the hyphen makes a range. Where blanks have
no meaning it may be the first character of a comment. -/
def peek? (mode : Mode) (cs : List Char) : Option Char :=
  if mode.spaced then (firstShown? false cs).orElse fun _ => cs.head? else cs.head?

end Mode

/-- The smallest parts of a pattern. -/
inductive Atom where
  /-- A character. It may stand for a byte when it is written in two digits to the base 16. -/
  | char (c : Char) (maybeByte : Bool)
  /-- Any character except a line break. -/
  | any
  /-- A class such as the digits, or the characters outside of it. -/
  | named (negated : Bool)
  /-- The characters with a Unicode property, or those without it. -/
  | property
  /-- An edge of the text or of a line. -/
  | edge
  /-- A place that is, or is not, an edge of a word. -/
  | wordEdge
deriving DecidableEq, Repr

namespace Atom

/-- Whether an atom can be used. A pattern about bytes matches no part of a character, and which
characters are around a place is known for bytes only. -/
def isUsable (unicode : Bool) : Atom → Bool
  | char c maybeByte => unicode || !maybeByte || c.toNat < 0x80
  | any => unicode
  | named negated => unicode || !negated
  | property => unicode
  | edge => true
  | wordEdge => !unicode

/-- Whether an atom can be a member of a set in brackets. -/
def isMember (unicode : Bool) : Atom → Bool
  | char c _ => unicode || c.toNat < 0x80
  | any => false
  | named negated => unicode || !negated
  | property => unicode
  | edge => false
  | wordEdge => false

/-- The control character that a letter behind a backslash stands for. -/
def control? : Char → Option Char
  | 'a' => some '\x07'
  | 'f' => some '\x0c'
  | 't' => some '\t'
  | 'n' => some '\n'
  | 'r' => some '\r'
  | 'v' => some '\x0b'
  | _ => none

/-- The number of digits to the base 16 that a letter behind a backslash announces. -/
def codeLength? : Char → Option Nat
  | 'x' => some 2
  | 'u' => some 4
  | 'U' => some 8
  | _ => none

/-- Reads the given number of digits to the base 16; `n` is the number before them. -/
def code? (mode : Mode) : Nat → Nat → Reader Nat
  | 0, n, cs => some (n, cs)
  | count + 1, n, cs =>
    match mode.skip cs with
    | [] => none
    | c :: rest => do
      let d ← Text.hexValue? c
      code? mode count (16 * n + d) rest

/-- Reads a character given by its code point. -/
def coded? (mode : Mode) (count : Nat) : Reader Atom := fun cs => do
  let (n, rest) ← code? mode count 0 cs
  if n.isValidChar then some (char (Char.ofNat n) (count = 2), rest) else none

/-- Reads the letter of a general category. -/
def category? (mode : Mode) : Reader Atom := fun cs =>
  match mode.skip cs with
  | [] => none
  | c :: rest => if "clmnpsz".toList.contains c.toLower then some (property, rest) else none

/-- Reads what stands behind a backslash. Letters and digits have fixed meanings or none; every
other ASCII character stands for itself. -/
def escaped? (mode : Mode) : Reader Atom
  | [] => none
  | c :: rest =>
    match codeLength? c, control? c with
    | some count, _ => coded? mode count rest
    | none, some control => some (char control false, rest)
    | none, none =>
      if c = 'p' || c = 'P' then category? mode rest
      else if c = 'd' || c = 's' || c = 'w' then some (named false, rest)
      else if c = 'D' || c = 'S' || c = 'W' then some (named true, rest)
      else if c = 'b' || c = 'B' || c = '<' || c = '>' then some (wordEdge, rest)
      else if c = 'A' || c = 'z' then some (edge, rest)
      else if c.isAlphanum || 0x80 ≤ c.toNat then none
      else some (char c false, rest)

end Atom

end Stencil.Pattern
