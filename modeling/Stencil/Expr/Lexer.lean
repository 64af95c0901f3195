import Stencil.Decimal.Reading
import Stencil.Expr.Problem
import Stencil.Text.Basic
import Stencil.Text.Blank
import Stencil.Text.Letter
import Stencil.Text.Numeral

/-! # From text to tokens

At each place that is not blank the longest spelling of a token is taken. A text whose places
cannot all be covered in this way has no tokens at all.
-/

namespace Stencil.Lexer

/-- Whether a name can start with a character. -/
def isNameStart (c : Char) : Bool := Text.isLetter c || c = '_' || c = '$'

/-- Whether a name can go on with a character. -/
def isNamePart (c : Char) : Bool := isNameStart c || Text.isNumeral c

/-- The number at the start of a text: whole digits, then digits behind a point if the point has
a digit right behind it. -/
def numeral (cs : List Char) : Decimal.Written :=
  let fraction := match cs.dropWhile Decimal.isDigit with
    | '.' :: rest => rest.takeWhile Decimal.isDigit
    | _ => []
  ⟨false, cs.takeWhile Decimal.isDigit, fraction, 0⟩

/-- The length of the spelling of a number. -/
def numeralLength (w : Decimal.Written) : Nat :=
  w.whole.length + (if w.fraction.isEmpty then 0 else w.fraction.length + 1)

/-- The character that a backslash and `c` stand for. -/
def unescape (c : Char) : Char :=
  if c = 'n' then '\n' else if c = 't' then '\t' else c

/-- The content of a string behind its opening quote, and the number of characters up to and
with the closing quote. -/
def quoted? (quote : Char) : List Char → Option (List Char × Nat)
  | [] => none
  | c :: cs =>
    if c = quote then some ([], 1)
    else if c = '\\' then
      match cs with
      | [] => none
      | e :: rest => (quoted? quote rest).map fun (s, n) => (unescape e :: s, n + 2)
    else (quoted? quote cs).map fun (s, n) => (c :: s, n + 1)

/-- The token at the start of a text that begins with `c`, which is not blank, and the length of
its spelling. -/
def lexeme (c : Char) (cs : List Char) : Except Problem (Token.Kind × Nat) :=
  if isNameStart c then
    let word := c :: cs.takeWhile isNamePart
    .ok (Token.Kind.ofWord word, word.length)
  else if Decimal.isDigit c then
    let written := numeral (c :: cs)
    .ok (.number written.toFloat, numeralLength written)
  else if c = '"' || c = '\'' then
    match quoted? c cs with
    | some (s, n) => .ok (.string (String.ofList s), n + 1)
    | none => .error .unclosedString
  else
    match Sign.read? (c :: cs) with
    | some sign => .ok (.sign sign, sign.spelling.length)
    | none => .error (.strayChar c)

/-- The tokens of a text that starts at byte `pos`. -/
def tokensFrom (pos : Nat) : List Char → Except ParseError (List Token)
  | [] => .ok []
  | c :: cs =>
    if Text.isBlank c then tokensFrom (pos + c.utf8Size) cs
    else
      match lexeme c cs with
      | .error problem => .error ⟨problem, pos⟩
      | .ok (kind, n) => do
        let behind := pos + Text.size ((c :: cs).take n)
        let tokens ← tokensFrom behind (cs.drop (n - 1))
        .ok (⟨kind, pos⟩ :: tokens)
termination_by cs => cs.length

/-- The tokens of a text. -/
def tokens (source : List Char) : Except ParseError (List Token) := tokensFrom 0 source

end Stencil.Lexer
