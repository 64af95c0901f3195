import Stencil.Expr.Basic
import Stencil.Expr.Lexer

/-! # From tokens to expressions

Six levels of left-associative operators lie above unary operators, access by key and primary
expressions. The levels are built from the inside out: what may stand between brackets and
behind a unary operator is given by the nesting that is left, and the operators that are left
bound the turns of every loop.
-/

namespace Stencil

/-- An operator between two expressions. -/
inductive Connective where
  | binary (op : BinaryOp)
  | logical (op : LogicOp)
deriving DecidableEq, Repr

/-- The expression that an operator makes of its operands. -/
def Connective.join : Connective → Expr → Expr → Expr
  | binary op, left, right => .binary op left right
  | logical op, left, right => .logical op left right

/-- The levels of operators, the loosest first. -/
inductive Level where
  | or
  | and
  | equality
  | order
  | sum
  | product
deriving DecidableEq, Repr

namespace Level

/-- All levels, the loosest first. -/
def all : List Level := [or, and, equality, order, sum, product]

/-- The operator that a sign stands for on a level. -/
def connective? : Level → Sign → Option Connective
  | or, .or => some (.logical .or)
  | and, .and => some (.logical .and)
  | equality, .eq => some (.binary .eq)
  | equality, .notEq => some (.binary .notEq)
  | equality, .strictEq => some (.binary .strictEq)
  | equality, .strictNotEq => some (.binary .strictNotEq)
  | order, .lt => some (.binary .lt)
  | order, .le => some (.binary .le)
  | order, .gt => some (.binary .gt)
  | order, .ge => some (.binary .ge)
  | sum, .plus => some (.binary .add)
  | sum, .minus => some (.binary .sub)
  | product, .star => some (.binary .mul)
  | product, .slash => some (.binary .div)
  | product, .percent => some (.binary .rem)
  | _, _ => none

end Level

/-- The unary operator that a sign stands for. -/
def UnaryOp.ofSign? : Sign → Option UnaryOp
  | .bang => some .not
  | .minus => some .neg
  | _ => none

/-- A place between tokens: the tokens that follow, the byte at which the text ends, and the
number of operators that may still occur. -/
structure Cursor where
  rest : List Token
  stop : Nat
  spare : Nat

namespace Cursor

/-- The byte at which the next token starts, or the text ends. -/
def here (c : Cursor) : Nat :=
  match c.rest with
  | [] => c.stop
  | token :: _ => token.pos

/-- The sign at a place, and the place behind it. -/
def sign? (c : Cursor) : Option (Sign × Cursor) :=
  match c.rest with
  | ⟨.sign s, _⟩ :: rest => some (s, { c with rest })
  | _ => none

/-- Takes one operator from those that may still occur. -/
def spend (c : Cursor) : Except ParseError Cursor :=
  match c.spare with
  | 0 => .error ⟨.tooLong, c.here⟩
  | spare + 1 => .ok { c with spare }

/-- The place behind a given sign. -/
def expect (s : Sign) (problem : Problem) (c : Cursor) : Except ParseError Cursor :=
  match c.sign? with
  | some (t, after) => if t = s then .ok after else .error ⟨problem, c.here⟩
  | none => .error ⟨problem, c.here⟩

end Cursor

/-- Reads a part at a place and gives the place behind it. -/
abbrev Parser (α : Type) := Cursor → Except ParseError (α × Cursor)

namespace Parser

/-- Operators of one level and their right operands, up to the first token that is none; `left`
is the expression before them. -/
def chainFrom (level : Level) (operand : Parser Expr) : Nat → Expr → Parser Expr
  | 0, left, c => .ok (left, c)
  | turns + 1, left, c =>
    match c.sign? with
    | none => .ok (left, c)
    | some (sign, after) =>
      match level.connective? sign with
      | none => .ok (left, c)
      | some connective => do
        let c ← after.spend
        let (right, c) ← operand c
        chainFrom level operand turns (connective.join left right) c

/-- Operands with operators of one level between them. -/
def chain (level : Level) (operand : Parser Expr) : Parser Expr := fun c => do
  let (left, c) ← operand c
  chainFrom level operand (c.spare + 1) left c

/-- Operands with operators of any level between them. -/
def joined (operand : Parser Expr) : Parser Expr := Level.all.foldr chain operand

/-- What may stand inside: whole expressions between brackets, and operands behind a unary
operator. -/
structure Inner where
  whole : Parser Expr
  operand : Parser Expr

/-- An expression without operators, or a whole expression in parentheses. -/
def primary (inner : Inner) : Parser Expr := fun c =>
  match c.rest with
  | [] => .error ⟨.missingExpression, c.stop⟩
  | token :: rest =>
    let after := { c with rest }
    match token.kind with
    | .name id => .ok (.name id, after)
    | .number x => .ok (.literal (Value.ofFloat x), after)
    | .string s => .ok (.literal (.string s), after)
    | .bool b => .ok (.literal (.bool b), after)
    | .null => .ok (.literal .null, after)
    | .sign .leftParen => do
      let (e, c) ← inner.whole after
      let c ← c.expect .rightParen .missingParen
      .ok (e, c)
    | kind => .error ⟨.misplaced kind, token.pos⟩

/-- Members and elements taken from `base`, up to the first token that takes none. -/
def accessFrom (inner : Inner) : Nat → Expr → Parser Expr
  | 0, base, c => .ok (base, c)
  | turns + 1, base, c =>
    match c.sign? with
    | some (.dot, after) => do
      let c ← after.spend
      match c.rest with
      | ⟨.name id, _⟩ :: rest => accessFrom inner turns (.member base id) { c with rest }
      | token :: _ => .error ⟨.memberNameExpected, token.pos⟩
      | [] => .error ⟨.memberNameMissing, c.stop⟩
    | some (.leftBracket, after) => do
      let c ← after.spend
      let (key, c) ← inner.whole c
      let c ← c.expect .rightBracket .missingBracket
      accessFrom inner turns (.index base key) c
    | _ => .ok (base, c)

/-- A primary expression with members and elements taken from it. -/
def postfixed (inner : Inner) : Parser Expr := fun c => do
  let (base, c) ← primary inner c
  accessFrom inner (c.spare + 1) base c

/-- Unary operators before a postfixed expression. -/
def unary (inner : Inner) : Parser Expr := fun c =>
  match c.sign? with
  | none => postfixed inner c
  | some (sign, after) =>
    match UnaryOp.ofSign? sign with
    | none => postfixed inner c
    | some op => do
      let c ← after.spend
      let (operand, c) ← inner.operand c
      .ok (.unary op operand, c)

/-- What may stand inside when the given number of nestings is left. -/
def inner : Nat → Inner
  | 0 =>
    let refuse : Parser Expr := fun c => .error ⟨.tooDeep, c.here⟩
    ⟨refuse, refuse⟩
  | depth + 1 =>
    let operand := unary (inner depth)
    ⟨joined operand, operand⟩

/-- An expression within the bounds on nesting. -/
def expression : Parser Expr := joined (unary (inner maxDepth))

/-- Accepts a part that nothing follows. -/
def toEnd (part : Parser α) (c : Cursor) : Except ParseError α := do
  let (a, c) ← part c
  match c.rest with
  | [] => .ok a
  | token :: _ => .error ⟨.trailing token.kind, token.pos⟩

/-- The place before all tokens of a text. -/
def start (source : List Char) : Except ParseError Cursor := do
  let tokens ← Lexer.tokens source
  .ok ⟨tokens, Text.size source, maxOperators⟩

/-- The names of filters, each behind a pipe sign, with the bytes at which they start. -/
def filterNames (stop : Nat) : List Token →
    Except ParseError (List (String × Nat) × List Token)
  | [⟨.sign .pipe, _⟩] => .error ⟨.filterNameMissing, stop⟩
  | ⟨.sign .pipe, _⟩ :: ⟨.name id, pos⟩ :: rest => do
    let (names, rest) ← filterNames stop rest
    .ok ((id, pos) :: names, rest)
  | ⟨.sign .pipe, _⟩ :: token :: _ => .error ⟨.filterNameExpected, token.pos⟩
  | rest => .ok ([], rest)

end Parser

/-- An expression and the filters that its text passes through, each with the byte at which its
name starts. -/
structure Pipeline where
  base : Expr
  filters : List (String × Nat)

namespace Parser

/-- An expression with filters behind it. -/
def pipeline : Parser Pipeline := fun c => do
  let (base, c) ← expression c
  let (filters, rest) ← filterNames c.stop c.rest
  .ok (⟨base, filters⟩, { c with rest })

end Parser

/-- Reads a text that is one expression. -/
def Expr.parse (source : List Char) : Except ParseError Expr := do
  Parser.expression.toEnd (← Parser.start source)

/-- Reads a text that is one expression with filters behind it. -/
def Pipeline.parse (source : List Char) : Except ParseError Pipeline := do
  Parser.pipeline.toEnd (← Parser.start source)

end Stencil
