import Stencil.Pattern.Bracket
import Stencil.Text.Letter
import Stencil.Text.Numeral

/-! # Reading patterns

A pattern is a choice between rows of parts, and a part is an atom, a set in brackets, a group or
a part with a sign of repetition. Here a pattern is only checked: it can be read or not.
-/

namespace Stencil.Pattern

open Stencil.Text (Reader)

/-- What stands in a row: settings, which cannot be repeated, or a part with its depth. -/
inductive Entry where
  | settings
  | part (depth : Nat)

/-- The depth of an entry. -/
def Entry.depth : Entry → Nat
  | settings => 0
  | part depth => depth

/-- A group that is being read: the mode around it, the depths of its finished rows, and its
current row, the last entry first. -/
structure Group where
  outside : Mode
  rows : List Nat
  row : List Entry

namespace Group

/-- The group without entries in a mode. -/
def empty (outside : Mode) : Group := ⟨outside, [], []⟩

/-- Adds an entry. -/
def add (g : Group) (e : Entry) : Group := { g with row := e :: g.row }

/-- The depth of the current row; several entries are one level deeper than each. -/
def rowDepth (g : Group) : Nat :=
  match g.row with
  | [] => 0
  | [e] => e.depth
  | row => (row.map Entry.depth).foldl max 0 + 1

/-- The depth of all rows; several rows are one level deeper than each. -/
def depth (g : Group) : Nat :=
  match g.rows with
  | [] => g.rowDepth
  | rows => rows.foldl max g.rowDepth + 1

/-- Starts another row. -/
def split (g : Group) : Group := { g with rows := g.rowDepth :: g.rows, row := [] }

/-- Repeats the last entry of the row, if it can be repeated. -/
def repeated? (g : Group) : Option Group :=
  match g.row with
  | .part depth :: row => some { g with row := .part (depth + 1) :: row }
  | _ => none

end Group

/-- The letters of settings. -/
def settingLetters : List Char := ['i', 'm', 's', 'U', 'u', 'R', 'x']

/-- Whether a text is a row of settings: each at most once, and some behind a hyphen if there is
one. -/
def areSettings (cs : List Char) : Bool :=
  cs.all (fun c => c = '-' || settingLetters.contains c) && cs.Nodup && cs.getLast? ≠ some '-'

/-- The value that a row of settings gives to one of them: on before a hyphen and off behind it. -/
def settingOf (letter : Char) (default : Bool) (cs : List Char) : Bool :=
  if (cs.takeWhile (· ≠ '-')).contains letter then true
  else if cs.contains letter then false
  else default

/-- The mode after settings. -/
def Mode.change (mode : Mode) (cs : List Char) : Mode :=
  ⟨settingOf 'x' mode.spaced cs, settingOf 'u' mode.unicode cs⟩

/-- Whether a character can stand in the name of a group. -/
def isNameChar (c : Char) : Bool :=
  c = '_' || c = '.' || c = '[' || c = ']' || Text.isLetter c || Text.isNumeral c

/-- Whether a text is the name of a group. -/
def isName : List Char → Bool
  | [] => false
  | c :: cs => (c = '_' || Text.isLetter c) && cs.all isNameChar

/-- What an opening parenthesis begins. -/
inductive Opening where
  | group (name : Option (List Char)) (inside : Mode)
  | settings (behind : Mode)

/-- Reads the name of a group up to its closing angle bracket. -/
def named? (mode : Mode) : Reader Opening := fun cs =>
  match cs.span (· ≠ '>') with
  | (name, '>' :: rest) => if isName name then some (.group (some name) mode, rest) else none
  | _ => none

/-- Reads settings, which hold for a group or for what follows. -/
def settings? (mode : Mode) : Reader Opening := fun cs =>
  match cs.span fun c => c ≠ ':' && c ≠ ')' with
  | (letters, ':' :: rest) =>
    if areSettings letters then some (.group none (mode.change letters), rest) else none
  | (letters, ')' :: rest) =>
    if areSettings letters && !letters.isEmpty then some (.settings (mode.change letters), rest)
    else none
  | _ => none

/-- Reads what stands behind an opening parenthesis up to the content of the group. Looking
ahead or back is not possible. -/
def opening? (mode : Mode) : Reader Opening := fun cs =>
  match mode.skip cs with
  | '?' :: 'P' :: '<' :: rest => named? mode rest
  | '?' :: '<' :: '=' :: _ => none
  | '?' :: '<' :: '!' :: _ => none
  | '?' :: '<' :: rest => named? mode rest
  | '?' :: rest => settings? mode rest
  | rest => some (.group none mode, rest)

/-- Whether a character repeats what stands before it. -/
def isRepetition (c : Char) : Bool := c = '?' || c = '*' || c = '+'

/-- Reads an atom or a set. -/
def part? (mode : Mode) : Reader Nat
  | [] => none
  | '[' :: rest => set? mode rest
  | c :: rest => do
    let (atom, rest) ← match c with
      | '\\' => Atom.escaped? mode rest
      | '.' => some (.any, rest)
      | '^' => some (.edge, rest)
      | '$' => some (.edge, rest)
      | '\x7b' => none
      | _ => some (.char c false, rest)
    if atom.isUsable mode.unicode then some (0, rest) else none

/-- The depth of a pattern, given the names of its groups so far, the current group and the groups
around it; the first argument bounds the number of steps. -/
def depthFrom? : Nat → Mode → List (List Char) → Group → List Group → List Char → Option Nat
  | 0, _, _, _, _, _ => none
  | bound + 1, mode, names, group, around, cs =>
    match mode.skip cs with
    | [] => if around.isEmpty then some group.depth else none
    | '(' :: rest =>
      match opening? mode rest with
      | none => none
      | some (.settings behind, rest) =>
        depthFrom? bound behind names (group.add .settings) around rest
      | some (.group name inside, rest) =>
        if name.any names.contains then none
        else depthFrom? bound inside (name.toList ++ names) (.empty mode) (group :: around) rest
    | ')' :: rest =>
      match around with
      | [] => none
      | outer :: around =>
        depthFrom? bound group.outside names (outer.add (.part (group.depth + 1))) around rest
    | '|' :: rest => depthFrom? bound mode names group.split around rest
    | c :: rest =>
      if isRepetition c then
        match group.repeated? with
        | none => none
        | some group =>
          let rest := match rest with
            | '?' :: rest => rest
            | rest => rest
          depthFrom? bound mode names group around rest
      else
        match part? mode (c :: rest) with
        | none => none
        | some (depth, rest) => depthFrom? bound mode names (group.add (.part depth)) around rest

/-- The number of parts of a pattern that may lie around one another. -/
def maxDepth : Nat := 250

/-- Whether a text is a pattern. -/
def isPattern (cs : List Char) : Bool :=
  (depthFrom? (cs.length + 1) .standard [] (.empty .standard) [] cs).any (· ≤ maxDepth)

end Stencil.Pattern
