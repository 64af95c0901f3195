import Stencil.Proofs.Scoping

/-! # A stack of scopes

Rendering as a machine, which holds the data, the open scopes and the text so far. A binding goes
into the innermost scope, a round of a loop opens a scope and closes it again, and a name is looked
up in one scope after the other and then in the data. The machine ends with the text, or the fault,
of rendering in an environment; it never writes to the data or to a scope behind the innermost one.
-/

namespace Stencil

/-- The names of a scope and their values, each name once. -/
abbrev Scope := List (String × Value)

/-- A rendering on its way; the innermost scope is the first one. -/
structure Renderer where
  data : Value
  scopes : List Scope
  out : List Char

namespace Renderer

/-- A rendering at its start. The scope that is open stays open. -/
def start (data : Value) : Renderer := ⟨data, [[]], []⟩

/-- The value of a name in the first scope that has it or, if there is none, in the data. -/
def lookup? (r : Renderer) (name : String) : Option Value :=
  (r.scopes.findSome? (·.lookup name)).or (r.data.fields.lookup name)

/-- The value of a name. -/
def get (r : Renderer) (name : String) : Except Fault Value :=
  match r.lookup? name with
  | some v => .ok v
  | none => .error (.undefined name)

/-- Appends to the text. -/
def write (r : Renderer) (cs : List Char) : Renderer := { r with out := r.out ++ cs }

/-- Binds a name in the innermost scope. -/
def bind (r : Renderer) (name : String) (v : Value) : Renderer :=
  match r.scopes with
  | [] => r
  | scope :: outer => { r with scopes := insertField name v scope :: outer }

/-- Opens the scope of a round. -/
def enter (r : Renderer) (item : Value) (index count : Nat) : Renderer :=
  { r with scopes := Env.enter [] item index count :: r.scopes }

/-- Closes the innermost scope. -/
def leave (r : Renderer) : Renderer := { r with scopes := r.scopes.tail }

/-- The value of an expression whose names are looked up in the scopes. -/
def eval (r : Renderer) : Expr → Except Fault Value
  | .literal v => .ok v
  | .name id => r.get id
  | .member base key => do
    let v ← r.eval base
    let found ← v.lookup (.string key)
    .ok found.value
  | .index base key => do
    let v ← r.eval base
    let k ← r.eval key
    let found ← v.lookup k
    .ok found.value
  | .unary op operand => do
    let v ← r.eval operand
    .ok (op.apply v)
  | .binary op left right => do
    let a ← r.eval left
    let b ← r.eval right
    .ok (op.apply a b)
  | .logical op left right => do
    let a ← r.eval left
    if op.decides a then .ok a else r.eval right

/-- Goes through the rounds of a loop, which start at `index`. The scope of a round is open while
the body is rendered. -/
def rounds (body : Renderer → Except Fault Renderer) (count : Nat) :
    Nat → List Value → Renderer → Except Fault Renderer
  | _, [], r => .ok r
  | index, item :: rest, r => do
    let behind ← body (r.enter item index count)
    rounds body count (index + 1) rest behind.leave

mutual

/-- Renders a node. -/
def node (r : Renderer) : Node → Except Fault Renderer
  | .text content => .ok (r.write content)
  | .comment content => .ok (r.write ("<!--".toList ++ content ++ "-->".toList))
  | .output out => do
    let v ← r.eval out.expr
    .ok (r.write (FilterCall.applyAll out.filters v.text.toList))
  | .bind name value => do
    let v ← r.eval value
    .ok (r.bind name v)
  | .eval value => do
    let _ ← r.eval value
    .ok r
  | .cond branches none => do
    let chosen ← firstBranch r branches
    .ok (chosen.getD r)
  | .cond branches (some body) => do
    match ← firstBranch r branches with
    | some behind => .ok behind
    | none => nodes r body
  | .each collection body => do
    let v ← r.eval collection
    match v.elements? with
    | none => .error (.loopOverNull collection.brief)
    | some items => rounds (fun r => nodes r body) items.length 0 items r

/-- Renders nodes in order. -/
def nodes (r : Renderer) : List Node → Except Fault Renderer
  | [] => .ok r
  | first :: rest => do
    let behind ← node r first
    nodes behind rest

/-- Renders the first branch whose test holds. -/
def firstBranch (r : Renderer) : List (Expr × List Node) → Except Fault (Option Renderer)
  | [] => .ok none
  | (test, body) :: rest => do
    let v ← r.eval test
    if v.truthy then (nodes r body).map some else firstBranch r rest

end

/-- The text of a tree that is rendered with a stack of scopes. -/
def run (tree : List Node) (data : Value) : Except Fault (List Char) :=
  (nodes (start data) tree).map Renderer.out

/-! ## A stack and an environment -/

variable {r r' : Renderer} {outer : List Scope} {env : Env}

/-- The environment of all scopes and the data. -/
def flat (r : Renderer) : Env := r.scopes.flatten ++ r.data.fields

/-- The names have the values of an environment, and `outer` is behind the innermost scope. -/
structure Stands (r : Renderer) (outer : List Scope) (env : Env) : Prop where
  scopes : ∃ scope, r.scopes = scope :: outer
  names : ∀ name, r.lookup? name = env.lookup name

theorem lookup?_eq_flat (r : Renderer) (name : String) : r.lookup? name = r.flat.lookup name := by
  rw [lookup?, flat, List.lookup_append]
  congr 1
  induction r.scopes with
  | nil => rfl
  | cons scope scopes ih =>
      rw [List.findSome?_cons, List.flatten_cons, List.lookup_append, ← ih]
      cases scope.lookup name with
      | none => rfl
      | some v => rfl

theorem lookup?_bind {scope : Scope} (h : r.scopes = scope :: outer) (key : String) (v : Value)
    (name : String) :
    (r.bind key v).lookup? name = if name = key then some v else r.lookup? name := by
  simp only [bind, lookup?, h, List.findSome?_cons, Value.lookup_insertField]
  by_cases heq : name = key
  · rw [if_pos heq, if_pos heq]
    rfl
  · rw [if_neg heq, if_neg heq]

theorem lookup?_enter (r : Renderer) (item : Value) (index count : Nat) (name : String) :
    (r.enter item index count).lookup? name =
      ((Env.enter [] item index count).lookup name).or (r.lookup? name) := by
  simp only [lookup?, enter, List.findSome?_cons]
  cases (Env.enter [] item index count).lookup name with
  | none => rfl
  | some v => rfl

namespace Stands

theorem of_scopes {scope : Scope} (h : r.scopes = scope :: outer) : r.Stands outer r.flat :=
  ⟨⟨scope, h⟩, r.lookup?_eq_flat⟩

theorem get (h : r.Stands outer env) (name : String) : r.get name = env.get name := by
  cases hname : env.lookup name with
  | none => simp only [Renderer.get, Env.get, h.names, hname]
  | some v => simp only [Renderer.get, Env.get, h.names, hname]

theorem bind (h : r.Stands outer env) (key : String) (v : Value) :
    (r.bind key v).Stands outer ((key, v) :: env) := by
  obtain ⟨scope, hscopes⟩ := h.scopes
  refine ⟨⟨insertField key v scope, ?_⟩, ?_⟩
  · rw [Renderer.bind, hscopes]
  · intro name
    rw [lookup?_bind hscopes, h.names, Env.lookup_cons_eq_ite]

theorem enter (h : r.Stands outer env) (item : Value) (index count : Nat) :
    (r.enter item index count).Stands r.scopes (env.enter item index count) := by
  refine ⟨⟨_, rfl⟩, ?_⟩
  intro name
  rw [lookup?_enter, h.names, ← List.lookup_append]
  rfl

theorem eval (h : r.Stands outer env) (e : Expr) : r.eval e = e.eval env := by
  induction e with
  | literal v => rfl
  | name id => exact h.get id
  | member base key ih => rw [Renderer.eval, Expr.eval, ih]
  | index base key ihbase ihkey => rw [Renderer.eval, Expr.eval, ihbase, ihkey]
  | unary op operand ih => rw [Renderer.eval, Expr.eval, ih]
  | binary op left right ihleft ihright => rw [Renderer.eval, Expr.eval, ihleft, ihright]
  | logical op left right ihleft ihright => rw [Renderer.eval, Expr.eval, ihleft, ihright]

end Stands

/-- A rendering has gone on from `r` to `r'` with the given text, and stands in an environment. The
data and the scopes behind the innermost one are as they were. -/
structure Ends (r : Renderer) (outer : List Scope) (r' : Renderer)
    (result : List Char × Env) : Prop where
  data : r'.data = r.data
  out : r'.out = r.out ++ result.1
  stands : r'.Stands outer result.2

namespace Ends

theorem refl (h : r.Stands outer env) : Ends r outer r ([], env) :=
  ⟨rfl, (List.append_nil _).symm, h⟩

theorem write (h : r.Stands outer env) (cs : List Char) : Ends r outer (r.write cs) (cs, env) :=
  ⟨rfl, rfl, h.scopes, h.names⟩

theorem bind (h : r.Stands outer env) (key : String) (v : Value) :
    Ends r outer (r.bind key v) ([], (key, v) :: env) := by
  obtain ⟨scope, hscopes⟩ := h.scopes
  refine ⟨?_, ?_, h.bind key v⟩
  · rw [Renderer.bind, hscopes]
  · rw [Renderer.bind, hscopes, List.append_nil]

theorem trans {r'' : Renderer} {cs ds : List Char} {env' env'' : Env}
    (h : Ends r outer r' (cs, env')) (h' : Ends r' outer r'' (ds, env'')) :
    Ends r outer r'' (cs ++ ds, env'') := by
  refine ⟨h'.data.trans h.data, ?_, h'.stands⟩
  rw [h'.out, h.out, List.append_assoc]

/-- Behind a round the stack is what it was before it. -/
theorem leave (h : r.Stands outer env) {item : Value} {index count : Nat} {cs : List Char}
    {env' : Env} (hround : Ends (r.enter item index count) r.scopes r' (cs, env')) :
    Ends r outer r'.leave (cs, env) := by
  obtain ⟨scope, hscopes⟩ := hround.stands.scopes
  have hstack : r'.leave.scopes = r.scopes := by rw [Renderer.leave, hscopes, List.tail_cons]
  have hdata : r'.leave.data = r.data := hround.data
  refine ⟨hdata, hround.out, ?_, ?_⟩
  · rw [hstack]
    exact h.scopes
  · intro name
    rw [lookup?, hstack, hdata]
    exact h.names name

end Ends

/-! ## Rendering in both -/

theorem rounds_follows {body : Renderer → Except Fault Renderer}
    {round : Env → Except Fault (List Char)}
    (hbody : ∀ {r outer env}, r.Stands outer env →
      Follows False (fun r' cs => ∃ env', Ends r outer r' (cs, env')) (body r) (round env))
    (h : r.Stands outer env) (count index : Nat) (items : List Value) :
    Follows False (fun r' cs => Ends r outer r' (cs, env)) (rounds body count index items r)
      (renderRounds round env count index items) := by
  induction items generalizing r index with
  | nil => exact .ok (.refl h)
  | cons item items ih =>
      apply (hbody (h.enter item index count)).bind
      rintro r' first ⟨env', hround⟩
      have hleft := Ends.leave h hround
      apply (ih hleft.stands (index + 1)).bind_ok
      intro r'' others hothers
      exact hleft.trans hothers

mutual

theorem node_follows : ∀ (node : Node) {r : Renderer} {outer : List Scope} {env : Env},
    r.Stands outer env → Follows False (Ends r outer) (r.node node) (node.render env)
  | .text content, _, _, _, h => .ok (.write h content)
  | .comment content, _, _, _, h => .ok (.write h _)
  | .output out, r, _, env, h => by
      rw [Renderer.node, Node.render, Output.render, h.eval]
      cases out.expr.eval env with
      | error fault => exact .error fault
      | ok v => exact .ok (.write h _)
  | .bind name value, _, _, _, h => by
      rw [Renderer.node, Node.render, h.eval]
      apply Follows.bind_eq (.same _)
      intro v
      exact .ok (.bind h name v)
  | .eval value, _, _, _, h => by
      rw [Renderer.node, Node.render, h.eval]
      apply Follows.bind_eq (.same _)
      intro v
      exact .ok (.refl h)
  | .cond branches none, _, _, _, h => by
      rw [Renderer.node, Node.render]
      apply (firstBranch_follows branches h).bind
      intro a b hab
      cases hab with
      | some hab => exact .ok hab
      | none => exact .ok (.refl h)
  | .cond branches (some body), _, _, _, h => by
      rw [Renderer.node, Node.render]
      apply (firstBranch_follows branches h).bind
      intro a b hab
      cases hab with
      | some hab => exact .ok hab
      | none => exact nodes_follows body h
  | .each collection body, _, _, _, h => by
      -- what a round binds is dropped with its environment, and with its scope
      have hbody : ∀ {r outer env}, r.Stands outer env →
          Follows False (fun r' cs => ∃ env', Ends r outer r' (cs, env')) (r.nodes body)
            ((Node.renderAll env body).map (·.1)) := by
        intro _ _ _ h
        exact (nodes_follows body h).bind_ok fun _ result hends => ⟨result.2, hends⟩
      rw [Renderer.node, Node.render, h.eval]
      apply Follows.bind_eq (.same _)
      intro v
      cases v.elements? with
      | none => exact .error _
      | some items =>
          apply (rounds_follows hbody h items.length 0 items).bind_ok
          intro _ _ hends
          exact hends

theorem nodes_follows : ∀ (nodes : List Node) {r : Renderer} {outer : List Scope} {env : Env},
    r.Stands outer env → Follows False (Ends r outer) (r.nodes nodes) (Node.renderAll env nodes)
  | [], _, _, _, h => .ok (.refl h)
  | first :: rest, _, _, _, h => by
      rw [Renderer.nodes, Node.renderAll]
      apply (node_follows first h).bind
      intro a b hab
      apply (nodes_follows rest hab.stands).bind_ok
      intro c d hcd
      exact hab.trans hcd

theorem firstBranch_follows : ∀ (branches : List (Expr × List Node)) {r : Renderer}
    {outer : List Scope} {env : Env}, r.Stands outer env →
      Follows False (Option.Rel (Ends r outer)) (r.firstBranch branches)
        (Node.renderBranches env branches)
  | [], _, _, _, _ => .ok .none
  | (test, body) :: rest, _, _, _, h => by
      rw [Renderer.firstBranch, Node.renderBranches, h.eval]
      apply Follows.bind_eq (.same _)
      intro v
      split
      next => exact (nodes_follows body h).map fun _ _ hab => .some hab
      next => exact firstBranch_follows rest h

end

/-- A tree that is rendered with a stack of scopes has the text, or the fault, that it has in the
environment of its data. -/
theorem run_eq (tree : List Node) (data : Value) : run tree data = renderNodes tree data := by
  have hstart : (start data).Stands [] data.fields := .of_scopes rfl
  apply Follows.eq
  apply (nodes_follows tree hstart).map
  intro r result hends
  exact hends.out

/-- Rendering binds names in the innermost scope only: the data and the scopes behind that are
neither changed nor closed, and no other scope is left open. -/
theorem scopes_behind {scope : Scope} (hscopes : r.scopes = scope :: outer) {tree : List Node}
    (h : r.nodes tree = .ok r') :
    r'.data = r.data ∧ ∃ inner, r'.scopes = inner :: outer := by
  have hfollows := nodes_follows tree (.of_scopes hscopes)
  rw [h] at hfollows
  generalize Node.renderAll r.flat tree = rendered at hfollows
  cases hfollows with
  | ok hends => exact ⟨hends.data, hends.stands.scopes⟩

/-- A loop in a loop, each of which binds a name that is bound around it. -/
example :
    let body : List Node := [.bind "last" (.name "item"), .output ⟨.name "last", []⟩]
    let tree : List Node :=
      [.bind "last" (.name "rows"), .each (.name "rows") (.each (.name "item") body :: body),
        .output ⟨.member (.name "last") "length", []⟩]
    run tree (.object [("rows", .array [.string "ab", .string "c"])]) =
      .ok "ababcc2".toList := by
  rfl

end Renderer

end Stencil
