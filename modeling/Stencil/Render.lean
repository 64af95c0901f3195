import Stencil.Block
import Stencil.Expr.Eval

/-! # Rendering

The text of a tree of nodes where names have given values. A binding is visible to the nodes
behind it, also outside of a condition, but not outside of the round of a loop that makes it.
-/

namespace Stencil

namespace FilterCall

/-- A text after it went through filters in order. -/
def applyAll (calls : List FilterCall) (cs : List Char) : List Char :=
  calls.foldl (fun text call => call.apply text) cs

end FilterCall

namespace Output

/-- The text of an output: the text of its value after it went through its filters. -/
def render (out : Output) (env : Env) : Except Fault (List Char) := do
  let v ← out.expr.eval env
  .ok (FilterCall.applyAll out.filters v.text.toList)

end Output

namespace Value

/-- The elements over which a loop over a value runs: those of an array, the characters of a
string, and none otherwise. Null cannot be looped over. -/
def elements? : Value → Option (List Value)
  | null => none
  | array items => some items
  | string s => some (s.toList.map fun c => string (String.ofList [c]))
  | _ => some []

end Value

namespace Env

/-- The names that a round of a loop defines. -/
def enter (env : Env) (item : Value) (index count : Nat) : Env :=
  ("item", item) :: ("index", .int index) :: ("len", .int count) :: env

end Env

/-- The text of a loop whose body has the text `round` in an environment; the rounds start at
`index`. -/
def renderRounds (round : Env → Except Fault (List Char)) (env : Env) (count : Nat) :
    Nat → List Value → Except Fault (List Char)
  | _, [] => .ok []
  | index, item :: rest => do
    let first ← round (env.enter item index count)
    let others ← renderRounds round env count (index + 1) rest
    .ok (first ++ others)

namespace Node

mutual

/-- The text of a node, and the environment behind it. -/
def render (env : Env) : Node → Except Fault (List Char × Env)
  | text content => .ok (content, env)
  | comment content => .ok ("<!--".toList ++ content ++ "-->".toList, env)
  | output out => do
    let cs ← out.render env
    .ok (cs, env)
  | bind name value => do
    let v ← value.eval env
    .ok ([], (name, v) :: env)
  | eval value => do
    let _ ← value.eval env
    .ok ([], env)
  | cond branches none => do
    let chosen ← renderBranches env branches
    .ok (chosen.getD ([], env))
  | cond branches (some body) => do
    match ← renderBranches env branches with
    | some result => .ok result
    | none => renderAll env body
  | each collection body => do
    let v ← collection.eval env
    match v.elements? with
    | none => .error (.loopOverNull collection.brief)
    | some items => do
      let cs ← renderRounds (fun env => (renderAll env body).map (·.1)) env items.length 0 items
      .ok (cs, env)

/-- The text of nodes in order, and the environment behind them. -/
def renderAll (env : Env) : List Node → Except Fault (List Char × Env)
  | [] => .ok ([], env)
  | node :: rest => do
    let (first, env) ← render env node
    let (others, env) ← renderAll env rest
    .ok (first ++ others, env)

/-- The text of the first branch whose test holds, and the environment behind it. -/
def renderBranches (env : Env) : List (Expr × List Node) →
    Except Fault (Option (List Char × Env))
  | [] => .ok none
  | (test, body) :: rest => do
    let v ← test.eval env
    if v.truthy then (renderAll env body).map some else renderBranches env rest

end

end Node

/-- The text of a tree with the fields of `data` as names; data that is no object has none. -/
def renderNodes (nodes : List Node) (data : Value) : Except Fault (List Char) :=
  (Node.renderAll data.fields nodes).map (·.1)

end Stencil
