import Stencil.Diagnostic
import Stencil.Filter
import Stencil.Marker
import Stencil.Statement

/-! # Segments

A template is a row of texts and directives. Each directive stands for one segment, or for none
if it is a blank statement; the first directive that cannot be read makes the whole template
unreadable.
-/

namespace Stencil

/-- A filter together with the name under which it was found. -/
structure FilterCall where
  name : String
  apply : Filter

/-- An expression whose text is written after it went through filters. -/
structure Output where
  expr : Expr
  filters : List FilterCall

/-- A part of a template that has been read. -/
inductive Segment where
  | text (content : List Char)
  | output (out : Output)
  /-- A statement and the byte at which its directive starts. -/
  | statement (statement : Statement) (offset : Nat)
  | comment (content : List Char)
  | silent

/-- A directive as it stands in a template: its kind, the bytes at which it and its body start,
its body, and the byte behind it. -/
structure Directive where
  kind : Kind
  start : Nat
  bodyStart : Nat
  body : List Char
  stop : Nat

/-- A part of a template before it is read. -/
inductive Piece where
  | text (content : List Char)
  | directive (d : Directive)

/-- What the reading of directives depends on. -/
structure Dialect where
  registry : Registry
  syntaxMode : Bool

namespace Directive

/-- A diagnostic about the syntax of the template `source`. -/
def malformed (source : List Char) (offset : Nat) (problem : Problem) : Diagnostic :=
  .malformed problem.message none (Place.ofByte source offset)

/-- Looks up the filters of a pipeline. `start` is the byte at which the pipeline starts. -/
def resolve (registry : Registry) (source : List Char) (start : Nat) :
    List (String × Nat) → Except Diagnostic (List FilterCall)
  | [] => .ok []
  | (name, offset) :: rest =>
    match registry.get? name with
    | none => .error (.unknownFilter name (Place.ofByte source (start + offset)))
    | some filter => do
      let calls ← resolve registry source start rest
      .ok (⟨name, filter⟩ :: calls)

/-- Reads the body of an output directive. -/
def output (registry : Registry) (source : List Char) (d : Directive) :
    Except Diagnostic Segment :=
  match Pipeline.parse d.body with
  | .error e => .error (malformed source (d.bodyStart + e.pos) e.problem)
  | .ok pipeline => do
    let filters ← resolve registry source d.bodyStart pipeline.filters
    .ok (.output ⟨pipeline.base, filters⟩)

/-- The body of a statement with its escaped comparison signs restored. -/
def unescaped (body : List Char) : List Char :=
  Text.replace "&gt;".toList ['>'] (Text.replace "&lt;".toList ['<'] body)

/-- Reads the body of a statement directive; a blank body gives no segment. Problems point at
the start of the body, because restoring comparison signs moves what follows them. -/
def statement (syntaxMode : Bool) (source : List Char) (d : Directive) :
    Except Diagnostic (Option Segment) :=
  let body := unescaped d.body
  let trimmed := Text.trim body
  if trimmed.isEmpty then .ok none
  else if !syntaxMode && (Keyword.leading? body).isSome then
    .error
      (.malformed ("无法解析语句：" ++ String.ofList trimmed)
        (some "if / elif / else / each 仅在语法模式下可用") (Place.ofByte source d.bodyStart))
  else
    match if syntaxMode then Statement.parse body else Statement.parseRaw body with
    | .error e => .error (malformed source d.bodyStart e.problem)
    | .ok s => .ok (some (.statement s d.start))

/-- Reads a directive of the template `source`. -/
def read (dialect : Dialect) (source : List Char) (d : Directive) :
    Except Diagnostic (Option Segment) :=
  match d.kind with
  | .silent => .ok (some .silent)
  | .comment => .ok (some (.comment d.body))
  | .output => (d.output dialect.registry source).map some
  | .statement => d.statement dialect.syntaxMode source
  | .blockEnd =>
    if dialect.syntaxMode then .ok (some (.statement .close d.start))
    else .error (.blockEndOutside (Place.ofByte source d.start))

end Directive

namespace Piece

/-- Reads a piece of the template `source`. -/
def read (dialect : Dialect) (source : List Char) : Piece → Except Diagnostic (Option Segment)
  | text content => .ok (some (.text content))
  | directive d => d.read dialect source

/-- Reads the pieces of the template `source` in order. -/
def readAll (dialect : Dialect) (source : List Char) :
    List Piece → Except Diagnostic (List Segment)
  | [] => .ok []
  | piece :: rest => do
    let segment ← piece.read dialect source
    let segments ← readAll dialect source rest
    .ok (segment.toList ++ segments)

/-- The directives that are looked at when the pieces of a template are read: all up to the first
that cannot be read. -/
def visited (dialect : Dialect) (source : List Char) : List Piece → List Directive
  | [] => []
  | text _ :: rest => visited dialect source rest
  | directive d :: rest =>
    d :: (match d.read dialect source with
      | .ok _ => visited dialect source rest
      | .error _ => [])

end Piece

end Stencil
