import Stencil.Text.Basic
import Stencil.Text.Quoted

/-! # Markers

A directive of a template stands between an opening and a closing marker, and the markers tell
its kind. The body of a directive has at least one character and ends at the first closing
marker behind that character.
-/

namespace Stencil

/-- The kinds of directives. -/
inductive Kind where
  /-- A comment that leaves no trace in the output. -/
  | silent
  /-- A comment that is kept in the output. -/
  | comment
  /-- An expression whose value is written. -/
  | output
  /-- A statement. -/
  | statement
  /-- The end of a block. -/
  | blockEnd
deriving DecidableEq, Repr

namespace Kind

/-- All kinds, in the order that decides between directives with the same start. -/
def all : List Kind := [silent, comment, output, statement, blockEnd]

/-- The name of a kind in configurations and log events. -/
def label : Kind → String
  | silent => "no_comment"
  | comment => "comment"
  | output => "var"
  | statement => "eval"
  | blockEnd => "end_eval"

end Kind

/-- An opening and a closing marker, neither of them empty. -/
structure Markers where
  opening : List Char
  closing : List Char
  opening_ne_nil : opening ≠ []
  closing_ne_nil : closing ≠ []

/-- What a marker pair finds in a text: the text before the directive, the body between the
markers, and the text behind the directive. -/
structure Hit where
  before : List Char
  body : List Char
  behind : List Char

namespace Markers

/-- A pair of markers, unless one of them is empty. -/
def ofTexts? (opening closing : List Char) : Option Markers :=
  if h : opening ≠ [] ∧ closing ≠ [] then some ⟨opening, closing, h.1, h.2⟩ else none

/-- The message about a pair with an empty marker. -/
def refusal (opening closing : List Char) : String :=
  "分隔符不能为空：[" ++ String.ofList (Text.reveal opening) ++ ", "
    ++ String.ofList (Text.reveal closing) ++ "]"

/-- The directive at the first opening marker. When the text behind that marker has no closing
marker, no later opening marker has one either. -/
def find? (m : Markers) (cs : List Char) : Option Hit :=
  match Text.cut? m.opening cs with
  | none => none
  | some (_, []) => none
  | some (before, first :: more) =>
    (Text.cut? m.closing more).map fun (body, behind) => ⟨before, first :: body, behind⟩

theorem eq_of_find? {m : Markers} {cs : List Char} {hit : Hit} (h : m.find? cs = some hit) :
    cs = hit.before ++ (m.opening ++ (hit.body ++ (m.closing ++ hit.behind))) := by
  unfold find? at h
  split at h
  · simp at h
  · simp at h
  · rename_i before first more hopen
    obtain ⟨⟨body, behind⟩, hclose, rfl⟩ := Option.map_eq_some_iff.mp h
    rw [Text.eq_append_of_cut? hopen, Text.eq_append_of_cut? hclose, List.cons_append]

theorem length_behind_lt {m : Markers} {cs : List Char} {hit : Hit}
    (h : m.find? cs = some hit) : hit.behind.length < cs.length := by
  have heq := congrArg List.length (eq_of_find? h)
  have hopen := List.length_pos_iff.mpr m.opening_ne_nil
  simp only [List.length_append] at heq
  omega

end Markers

/-- The markers of all kinds of directives. -/
structure Signs where
  output : Markers
  statement : Markers
  blockEnd : Markers
  comment : Markers
  silent : Markers

namespace Markers

/-- The markers made of the given characters. -/
def ofChars (o : Char) (os : List Char) (c : Char) (cs : List Char) : Markers :=
  ⟨o :: os, c :: cs, List.cons_ne_nil o os, List.cons_ne_nil c cs⟩

end Markers

namespace Signs

/-- The markers that are used where no others are set. -/
def standard : Signs :=
  { output := .ofChars '\x7b' ['\x7b'] '\x7d' ['\x7d']
    statement := .ofChars '\x7b' ['@'] '@' ['\x7d']
    blockEnd := .ofChars '\x7b' ['/', '@'] '@' ['\x7d']
    comment := .ofChars '<' ['!', '-', '-'] '-' ['-', '>']
    silent := .ofChars '\x7b' ['#'] '#' ['\x7d'] }

/-- The markers of a kind. -/
def get (signs : Signs) : Kind → Markers
  | .silent => signs.silent
  | .comment => signs.comment
  | .output => signs.output
  | .statement => signs.statement
  | .blockEnd => signs.blockEnd

/-- The same markers except for one kind. -/
def set (signs : Signs) (kind : Kind) (m : Markers) : Signs :=
  match kind with
  | .silent => { signs with silent := m }
  | .comment => { signs with comment := m }
  | .output => { signs with output := m }
  | .statement => { signs with statement := m }
  | .blockEnd => { signs with blockEnd := m }

end Signs

end Stencil
