/-! # Sets of characters

A set of characters is a list of ranges of code points in increasing order, each with both of
its ends.
-/

namespace Stencil.Text

/-- Ranges of code points in increasing order. -/
abbrev CharSet := List (Nat × Nat)

namespace CharSet

/-- Whether a range holds the code point `n`; ranges above `n` are not looked at. -/
def containsCode : CharSet → Nat → Bool
  | [], _ => false
  | (first, last) :: rest, n => first ≤ n && (n ≤ last || containsCode rest n)

/-- Whether the set holds the character `c`. -/
def contains (set : CharSet) (c : Char) : Bool := set.containsCode c.toNat

end CharSet

end Stencil.Text
