import Stencil.Pattern.Atom

/-! # Sets in brackets

A set of characters between brackets has members, ranges and further sets, joined by operations
on sets. In a pattern about bytes every set and every member lies in ASCII: the complement of such
a set would hold bytes that are only parts of characters, so nothing can be negated there. What
matters about a set beyond that is how deep it is nested.
-/

namespace Stencil.Pattern

open Stencil.Text (Reader)

/-- What follows an operation between two sets: the characters of both, those of the first only, or
those of one of the two. -/
def behindSetOp? : List Char → Option (List Char)
  | '&' :: '&' :: rest => some rest
  | '-' :: '-' :: rest => some rest
  | '~' :: '~' :: rest => some rest
  | _ => none

/-- The members of a set that have been read: the depth of what stands before the last operation,
and the number and the greatest depth of the members behind it. -/
structure Members where
  before : Option Nat
  count : Nat
  deepest : Nat

namespace Members

/-- No members. -/
def empty : Members := ⟨none, 0, 0⟩

/-- Adds a member of a given depth. -/
def add (m : Members) (depth : Nat) : Members :=
  { m with count := m.count + 1, deepest := max m.deepest depth }

/-- The depth of all members. Several members in a row are one level deeper than each, and so is an
operation than its two sides. -/
def depth (m : Members) : Nat :=
  let row := if 2 ≤ m.count then m.deepest + 1 else m.deepest
  match m.before with
  | none => row
  | some before => max before row + 1

/-- Puts an operation behind the members. -/
def operate (m : Members) : Members := { empty with before := some m.depth }

end Members

/-- Hyphens at the start of a set, which are members; at least one character follows. -/
def hyphens? (mode : Mode) : Nat → Members → Reader Members
  | 0, m, cs => some (m, cs)
  | bound + 1, m, cs =>
    match cs with
    | [] => none
    | '-' :: rest => hyphens? mode bound (m.add 0) (mode.skip rest)
    | _ => some (m, cs)

/-- Reads the start of a set behind its opening bracket: a sign of negation, hyphens, and a closing
bracket that is a member because it comes first. -/
def setStart? (mode : Mode) : Reader Members := fun cs => do
  let cs ← match mode.skip cs with
    | '^' :: rest => if mode.unicode then some (mode.skip rest) else none
    | rest => some rest
  let (members, cs) ← hyphens? mode (cs.length + 1) .empty cs
  match members.count, cs with
  | 0, ']' :: rest => some (members.add 0, mode.skip rest)
  | _, cs => some (members, cs)

/-- The names of the classes of ASCII characters. -/
def asciiClasses : List String :=
  ["alnum", "alpha", "ascii", "blank", "cntrl", "digit", "graph", "lower", "print", "punct",
    "space", "upper", "word", "xdigit"]

/-- Reads a class of ASCII characters behind its opening bracket: a name between colons. The result
tells whether the class is negated. -/
def asciiClass? : Reader Bool
  | ':' :: rest =>
    let (negated, rest) := match rest with
      | '^' :: rest => (true, rest)
      | rest => (false, rest)
    match rest.span (· ≠ ':') with
    | (name, ':' :: ']' :: rest) =>
      if asciiClasses.contains (String.ofList name) then some (negated, rest) else none
    | _ => none
  | _ => none

/-- Reads an end of a range or a member that is no set. -/
def setAtom? (mode : Mode) : Reader Atom
  | [] => none
  | '\\' :: rest => Atom.escaped? mode rest
  | c :: rest => some (.char c false, rest)

/-- What follows a member that is no set, or a range. A hyphen before another hyphen or before the
end of the set makes no range. -/
def behindMember? (mode : Mode) (cs : List Char) : Option (List Char) := do
  let (first, rest) ← setAtom? mode cs
  let single := if first.isMember mode.unicode then some (mode.skip rest) else none
  match mode.skip rest with
  | '-' :: more =>
    if mode.peek? more = some ']' || mode.peek? more = some '-' then single
    else do
      let (last, rest) ← setAtom? mode (mode.skip more)
      match first, last with
      | .char a _, .char b _ =>
        if a ≤ b && first.isMember mode.unicode && last.isMember mode.unicode then some rest
        else none
      | _, _ => none
  | _ => single

/-- Reads the rest of a set up to its closing bracket and gives its depth; the first argument bounds
the number of steps. -/
def setRest? (mode : Mode) : Nat → Members → Reader Nat
  | 0, _, _ => none
  | bound + 1, m, cs =>
    match mode.skip cs with
    | [] => none
    | ']' :: rest => some (m.depth + 1, rest)
    | '[' :: rest =>
      match asciiClass? rest with
      | some (negated, rest) =>
        if negated && !mode.unicode then none else setRest? mode bound (m.add 0) rest
      | none => do
        let (inner, rest) ← setStart? mode rest
        let (depth, rest) ← setRest? mode bound inner rest
        setRest? mode bound (m.add depth) rest
    | cs =>
      match behindSetOp? cs with
      | some rest => setRest? mode bound m.operate rest
      | none => do
        let rest ← behindMember? mode cs
        setRest? mode bound (m.add 0) rest

/-- Reads a set behind its opening bracket and gives its depth. -/
def set? (mode : Mode) : Reader Nat := fun cs => do
  let (m, rest) ← setStart? mode cs
  setRest? mode (rest.length + 1) m rest

end Stencil.Pattern
