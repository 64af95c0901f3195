import Stencil.Segment

/-! # Blocks

A compiled template is a tree of nodes: conditions and loops hold the nodes between their
opening statement and the end of their block. The tree is built from a row of segments with a
stack of open blocks.
-/

namespace Stencil

/-- A node of a compiled template. -/
inductive Node where
  | text (content : List Char)
  | comment (content : List Char)
  | output (out : Output)
  | bind (name : String) (value : Expr)
  | eval (value : Expr)
  /-- Branches with a condition each, and the nodes for the case that none of them holds. -/
  | cond (branches : List (Expr × List Node)) (otherwise : Option (List Node))
  /-- Nodes that are rendered once for each element of a collection. -/
  | each (collection : Expr) (body : List Node)

/-- The number of blocks that may lie around one another. -/
def maxBlockDepth : Nat := 128

/-- Why a row of segments is no tree. -/
inductive BlockProblem where
  | nothingToClose
  | unclosed (keyword : Keyword)
  | withoutIf (keyword : Keyword)
  | insideEach (keyword : Keyword)
  | afterElse (keyword : Keyword)
  | tooDeep
deriving DecidableEq, Repr

namespace BlockProblem

/-- The wording of a problem. -/
def message : BlockProblem → String
  | nothingToClose => "没有可结束的块"
  | unclosed keyword => "未闭合的 " ++ keyword.spelling ++ " 块，缺少块结束标记"
  | withoutIf keyword => keyword.spelling ++ " 之前没有 if"
  | insideEach keyword => keyword.spelling ++ " 不能出现在 each 块中"
  | afterElse keyword => keyword.spelling ++ " 不能出现在 else 之后"
  | tooDeep => "块嵌套过深（最多 " ++ toString maxBlockDepth ++ " 层）"

/-- The diagnostic of a problem at a byte of the template `source`. -/
def diagnostic (problem : BlockProblem) (source : List Char) (offset : Nat) : Diagnostic :=
  let place := Place.ofByte source offset
  match problem with
  | tooDeep => .malformed problem.message none place
  | _ => .unbalanced problem.message place

end BlockProblem

/-- A problem and the byte of the statement that it concerns. -/
structure BlockError where
  problem : BlockProblem
  offset : Nat
deriving DecidableEq, Repr

/-- What kind of block is open. A condition has finished branches, the last one first, and the
test of the current branch unless that is the branch without a test. -/
inductive Opened where
  | cond (finished : List (Expr × List Node)) (test : Option Expr)
  | each (collection : Expr)

namespace Opened

/-- The keyword that opens a block. -/
def keyword : Opened → Keyword
  | cond _ _ => .ifWord
  | each _ => .eachWord

/-- The node of a block that is closed with the given nodes in its current branch. -/
def node (body : List Node) : Opened → Node
  | cond finished (some test) => .cond (((test, body) :: finished).reverse) none
  | cond finished none => .cond finished.reverse (some body)
  | each collection => .each collection body

end Opened

/-- An open block: the byte of its opening statement, its kind, and the nodes of its current
branch, the last one first. -/
structure Frame where
  offset : Nat
  opened : Opened
  body : List Node

/-- A tree under construction: the nodes outside of all blocks, the last one first, and the open
blocks, the innermost one first. -/
structure Builder where
  root : List Node
  frames : List Frame

namespace Builder

/-- The tree without nodes. -/
def empty : Builder := ⟨[], []⟩

/-- Adds a node to the innermost block. -/
def add (b : Builder) (node : Node) : Builder :=
  match b.frames with
  | [] => { b with root := node :: b.root }
  | frame :: rest => { b with frames := { frame with body := node :: frame.body } :: rest }

/-- Opens a block. -/
def push (b : Builder) (offset : Nat) (opened : Opened) : Except BlockError Builder :=
  if maxBlockDepth ≤ b.frames.length then .error ⟨.tooDeep, offset⟩
  else .ok { b with frames := ⟨offset, opened, []⟩ :: b.frames }

/-- Finishes the current branch of the innermost block and starts the next one, which has a
test or not. -/
def split (b : Builder) (offset : Nat) (keyword : Keyword) (test : Option Expr) :
    Except BlockError Builder :=
  match b.frames with
  | [] => .error ⟨.withoutIf keyword, offset⟩
  | frame :: rest =>
    match frame.opened with
    | .each _ => .error ⟨.insideEach keyword, offset⟩
    | .cond _ none => .error ⟨.afterElse keyword, offset⟩
    | .cond finished (some current) =>
      let opened := .cond ((current, frame.body.reverse) :: finished) test
      .ok { b with frames := { frame with opened, body := [] } :: rest }

/-- Closes the innermost block. -/
def close (b : Builder) (offset : Nat) : Except BlockError Builder :=
  match b.frames with
  | [] => .error ⟨.nothingToClose, offset⟩
  | frame :: rest => .ok ({ b with frames := rest }.add (frame.opened.node frame.body.reverse))

/-- Takes in a statement. -/
def statement (b : Builder) (offset : Nat) : Statement → Except BlockError Builder
  | .bind name value => .ok (b.add (.bind name value))
  | .eval value => .ok (b.add (.eval value))
  | .cond test => b.push offset (.cond [] (some test))
  | .each collection => b.push offset (.each collection)
  | .elseCond test => b.split offset .elifWord (some test)
  | .otherwise => b.split offset .elseWord none
  | .close => b.close offset

/-- Takes in a segment. -/
def step (b : Builder) : Segment → Except BlockError Builder
  | .text content => .ok (b.add (.text content))
  | .comment content => .ok (b.add (.comment content))
  | .silent => .ok b
  | .output out => .ok (b.add (.output out))
  | .statement s offset => b.statement offset s

/-- Takes in segments in order. -/
def steps (b : Builder) : List Segment → Except BlockError Builder
  | [] => .ok b
  | segment :: rest => do
    let b ← b.step segment
    b.steps rest

/-- The finished tree, if no block is open. -/
def finish (b : Builder) : Except BlockError (List Node) :=
  match b.frames with
  | [] => .ok b.root.reverse
  | frame :: _ => .error ⟨.unclosed frame.opened.keyword, frame.offset⟩

end Builder

/-- The tree of a row of segments. -/
def Node.ofSegments (segments : List Segment) : Except BlockError (List Node) := do
  let b ← Builder.empty.steps segments
  b.finish

end Stencil
