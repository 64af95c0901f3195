import Stencil.Text.CharSet

/-! # Blank characters and words

White space in the sense of Unicode, trimming, and the first word of a text.
-/

namespace Stencil.Text

/-- The characters with the Unicode property `White_Space`. -/
def blanks : CharSet :=
  [
    (0x9, 0xd), (0x20, 0x20), (0x85, 0x85), (0xa0, 0xa0), (0x1680, 0x1680), (0x2000, 0x200a),
    (0x2028, 0x2029), (0x202f, 0x202f), (0x205f, 0x205f), (0x3000, 0x3000)]

/-- Whether `c` has the Unicode property `White_Space`. -/
def isBlank (c : Char) : Bool := blanks.contains c

/-- A text without the blanks at its start. -/
def trimStart (cs : List Char) : List Char := cs.dropWhile isBlank

/-- A text without the blanks at its end. -/
def trimEnd (cs : List Char) : List Char := (trimStart cs.reverse).reverse

/-- A text without the blanks at both of its ends. -/
def trim (cs : List Char) : List Char := trimEnd (trimStart cs)

/-- The characters before the first blank. -/
def leadingWord (cs : List Char) : List Char := cs.takeWhile (!isBlank ·)

/-- The first word of a text; empty exactly when the text has blanks only. -/
def firstWord (cs : List Char) : List Char := leadingWord (trimStart cs)

end Stencil.Text
