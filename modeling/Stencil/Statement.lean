import Stencil.Expr.Parser

/-! # Statements

A statement binds a name, evaluates an expression for its faults, or opens, splits or closes a
block. The blocks have keywords, which are read only where the syntax mode is on.
-/

namespace Stencil

/-- A statement. -/
inductive Statement where
  /-- Opens a block that depends on a condition. -/
  | cond (test : Expr)
  /-- Goes on with another condition. -/
  | elseCond (test : Expr)
  /-- Goes on without a condition. -/
  | otherwise
  /-- Opens a block that is repeated for each element. -/
  | each (collection : Expr)
  /-- Closes a block. -/
  | close
  /-- Binds a name in the innermost scope. -/
  | bind (name : String) (value : Expr)
  /-- Evaluates an expression and drops its value. -/
  | eval (value : Expr)

/-- The words with which the statements of the syntax mode start. -/
inductive Keyword where
  | ifWord
  | elifWord
  | elseWord
  | eachWord
deriving DecidableEq, Repr

namespace Keyword

/-- The spelling of a keyword. -/
def spelling : Keyword → String
  | ifWord => "if"
  | elifWord => "elif"
  | elseWord => "else"
  | eachWord => "each"

/-- All keywords. -/
def all : List Keyword := [ifWord, elifWord, elseWord, eachWord]

/-- The keyword that is spelled like a word. -/
def ofWord? (word : List Char) : Option Keyword := all.find? (·.spelling.toList = word)

/-- The keyword that is the first word of a text. -/
def leading? (body : List Char) : Option Keyword := ofWord? (Text.firstWord body)

end Keyword

namespace Statement

/-- Reads a binding behind the name that it binds. -/
def bindingFrom (name : String) (c : Cursor) : Except ParseError Statement := do
  let c ← c.expect .assign .bindingWithoutEquals
  let value ← Parser.expression.toEnd c
  .ok (bind name value)

/-- Reads a statement without keywords: a binding or an expression. -/
def parseRaw (source : List Char) : Except ParseError Statement := do
  let c ← Parser.start source
  match c.rest with
  | ⟨.name first, _⟩ :: ⟨.name name, _⟩ :: rest =>
    if first = "let" then bindingFrom name { c with rest }
    else (Parser.expression.toEnd c).map eval
  | _ => (Parser.expression.toEnd c).map eval

/-- Reads the condition behind a keyword. `offset` is the byte at which `rest` starts. -/
def condition (keyword : Keyword) (rest : List Char) (offset : Nat) :
    Except ParseError Expr :=
  if (Text.trim rest).isEmpty then
    .error ⟨.missingCondition keyword.spelling, offset⟩
  else
    (Expr.parse rest).mapError (·.shift offset)

/-- Reads a statement of the syntax mode: one that starts with a keyword, or any other. -/
def parse (body : List Char) : Except ParseError Statement :=
  let trimmed := Text.trim body
  let word := Text.leadingWord trimmed
  let rest := trimmed.drop word.length
  let offset := Text.size body - Text.size (Text.trimStart body) + Text.size word
  match Keyword.ofWord? word with
  | some .ifWord => (condition .ifWord rest offset).map cond
  | some .elifWord => (condition .elifWord rest offset).map elseCond
  | some .eachWord => (condition .eachWord rest offset).map each
  | some .elseWord =>
    if (Text.trim rest).isEmpty then .ok otherwise
    else
      .error
        ⟨.elseWithCondition, offset + (Text.size rest - Text.size (Text.trimStart rest))⟩
  | none => parseRaw body

end Statement

end Stencil
