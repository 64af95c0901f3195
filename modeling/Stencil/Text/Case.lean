import Stencil.Text.CaseTable
import Stencil.Text.Cased

/-! # Upper and lower case

The full case mappings of Unicode that do not depend on a language: a character may become
several, and a capital sigma at the end of a word takes its final form.
-/

namespace Stencil.Text

/-- The mapping of one character by its expansion, else by its run, else to itself. -/
def mapCase (expansions : List (Nat × List Nat)) (runs : List CaseRun) (c : Char) : List Char :=
  match expansions.lookup c.toNat with
  | some codes => codes.map Char.ofNat
  | none => [((runs.findSome? (·.image? c.toNat)).map Char.ofNat).getD c]

/-- The upper-case form of a character. -/
def upperChar (c : Char) : List Char := mapCase upperExpansions upperRuns c

/-- The lower-case form of a character that stands alone. -/
def lowerChar (c : Char) : List Char := mapCase lowerExpansions lowerRuns c

/-- The upper-case form of a text. -/
def upper (cs : List Char) : List Char := cs.flatMap upperChar

/-- Whether the first character that is not looked through belongs to a word. -/
def meetsCased (cs : List Char) : Bool :=
  match cs.dropWhile isCaseIgnorable with
  | [] => false
  | c :: _ => isCased c

/-- The lower-case form of a text that follows the characters `before`, the nearest first. A
capital sigma is final when a word leads up to it and none goes on behind it. -/
def lowerAfter (before : List Char) : List Char → List Char
  | [] => []
  | c :: cs =>
    let form :=
      if c = 'Σ' then
        if meetsCased before && !meetsCased cs then ['ς'] else ['σ']
      else
        lowerChar c
    form ++ lowerAfter (c :: before) cs

/-- The lower-case form of a text. -/
def lower (cs : List Char) : List Char := lowerAfter [] cs

end Stencil.Text
