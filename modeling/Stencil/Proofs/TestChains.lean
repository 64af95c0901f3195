import Stencil.Proofs.BlockDepth
import Stencil.Render

/-! # Chains of tests

A further test of a condition is short for a condition inside the branch without a test. Rows of
segments and trees are rewritten so that no condition has a further test. If a row has a tree, the
rewritten row has the rewritten tree unless it nests too deep, and both trees have the same text, or
the same fault, with all data.
-/

namespace Stencil

namespace Segment

/-- What a segment is rewritten to. A further test becomes a statement that goes on without a test
and one that opens a condition. The conditions that come from the further tests of a block end
where the block does; `owed` counts them for each open block, the innermost one first. -/
def replacement (owed : List Nat) : Segment → List Segment
  | .statement (.elseCond test) offset =>
    [.statement .otherwise offset, .statement (.cond test) offset]
  | .statement .close offset => List.replicate (owed.headD 0 + 1) (.statement .close offset)
  | s => [s]

/-- The number of additional ends that each open block owes behind a segment. -/
def owedBehind (owed : List Nat) : Segment → List Nat
  | .statement (.cond _) _ => 0 :: owed
  | .statement (.each _) _ => 0 :: owed
  | .statement (.elseCond _) _ => owed.modifyHead (· + 1)
  | .statement .close _ => owed.tail
  | _ => owed

/-- A row in which each further test of a condition is a condition of its own. It starts inside of
blocks that owe the given numbers of additional ends. -/
def unchain (owed : List Nat) : List Segment → List Segment
  | [] => []
  | s :: rest => replacement owed s ++ unchain (owedBehind owed s) rest

end Segment

namespace Node

mutual

/-- A node in which each condition has one branch with a test. -/
def unchain : Node → Node
  | text content => text content
  | comment content => comment content
  | output out => output out
  | bind name value => bind name value
  | eval value => eval value
  | cond [] otherwise => cond [] (unchainLast otherwise)
  | cond ((test, body) :: more) otherwise =>
    cond [(test, unchainAll body)] (unchainMore (unchainLast otherwise) more)
  | each collection body => each collection (unchainAll body)

def unchainAll : List Node → List Node
  | [] => []
  | node :: rest => unchain node :: unchainAll rest

def unchainLast : Option (List Node) → Option (List Node)
  | none => none
  | some body => some (unchainAll body)

/-- The branch without a test that takes the place of further branches and of `last`. -/
def unchainMore (last : Option (List Node)) : List (Expr × List Node) → Option (List Node)
  | [] => last
  | (test, body) :: more => some [cond [(test, unchainAll body)] (unchainMore last more)]

end

end Node

/-! ## Rows -/

namespace Segment

variable {owed : List Nat}

@[simp] theorem unchain_cond (test : Expr) (offset : Nat) (row : List Segment) :
    unchain owed (.statement (.cond test) offset :: row) =
      .statement (.cond test) offset :: unchain (0 :: owed) row := rfl

@[simp] theorem unchain_elseCond (count : Nat) (test : Expr) (offset : Nat)
    (row : List Segment) :
    unchain (count :: owed) (.statement (.elseCond test) offset :: row) =
      .statement .otherwise offset :: .statement (.cond test) offset ::
        unchain ((count + 1) :: owed) row := rfl

theorem elseCond_notMem_replacement (s : Segment) (test : Expr) (offset : Nat) :
    .statement (.elseCond test) offset ∉ replacement owed s := by
  cases s with
  | text | output | comment | silent => simp [replacement]
  | statement st place => cases st <;> simp [replacement]

theorem elseCond_notMem_unchain (row : List Segment) (test : Expr) (offset : Nat) :
    .statement (.elseCond test) offset ∉ unchain owed row := by
  induction row generalizing owed with
  | nil => exact List.not_mem_nil
  | cons s row ih =>
      rw [unchain, List.mem_append, not_or]
      exact ⟨elseCond_notMem_replacement s test offset, ih⟩

/-- A row that is laid out like a rewritten one has no further tests either. -/
theorem elseCond_notMem_of_bare {row rewritten : List Segment}
    (h : rewritten.filterMap bare? = (unchain owed row).filterMap bare?) (test : Expr)
    (offset : Nat) : .statement (.elseCond test) offset ∉ rewritten := by
  intro hmem
  have hbare : Segment.statement (.elseCond test) 0 ∈ rewritten.filterMap bare? :=
    List.mem_filterMap.mpr ⟨_, hmem, rfl⟩
  rw [h] at hbare
  obtain ⟨s, hs, heq⟩ := List.mem_filterMap.mp hbare
  obtain ⟨place, rfl⟩ := Builder.eq_statement_of_bare? heq
  exact elseCond_notMem_unchain row test place hs

theorem bare_replacement (owed : List Nat) {s bare : Segment} (h : s.bare? = some bare) :
    (replacement owed s).filterMap bare? = replacement owed bare ∧
      owedBehind owed s = owedBehind owed bare := by
  cases s with
  | silent => exact nomatch h
  | text | comment | output =>
      cases h
      exact ⟨rfl, rfl⟩
  | statement st offset =>
      cases h
      cases st with
      | close => exact ⟨List.filterMap_replicate_of_some rfl, rfl⟩
      | cond | elseCond | otherwise | each | bind | eval => exact ⟨rfl, rfl⟩

/-- Silent comments stay where they are, and the bytes of statements do not matter. -/
theorem bare_unchain (row : List Segment) :
    (unchain owed row).filterMap bare? = unchain owed (row.filterMap bare?) := by
  induction row generalizing owed with
  | nil => rfl
  | cons s row ih =>
      rw [unchain, List.filterMap_append, ih]
      cases hs : s.bare? with
      | none =>
          obtain rfl := eq_silent_of_bare? hs
          rfl
      | some bare =>
          obtain ⟨hreplacement, howed⟩ := bare_replacement owed hs
          rw [List.filterMap_cons_some hs, unchain, hreplacement, howed]

/-- A stretch of a row is rewritten to another one wherever it stands, and owes no ends behind
it. -/
def Unchains (row row' : List Segment) : Prop :=
  ∀ owed rest, unchain owed (row ++ rest) = row' ++ unchain owed rest

theorem Unchains.append {row row' more more' : List Segment} (h : Unchains row row')
    (hmore : Unchains more more') : Unchains (row ++ more) (row' ++ more') := by
  intro owed rest
  rw [List.append_assoc, h, hmore, List.append_assoc]

end Segment

/-! ## Layouts -/

namespace Node

open Segment

/-- The layout of a node is rewritten to that of the node that is rewritten. -/
def Unchained (node : Node) : Prop := Unchains node.layout node.unchain.layout

theorem unchains_layoutAll {nodes : List Node} (h : ∀ node ∈ nodes, node.Unchained) :
    Unchains (layoutAll nodes) (layoutAll (unchainAll nodes)) := by
  induction nodes with
  | nil => exact fun _ _ => rfl
  | cons node nodes ih =>
      obtain ⟨hnode, hnodes⟩ := List.forall_mem_cons.mp h
      exact hnode.append (ih hnodes)

theorem unchains_layoutLast {otherwise : Option (List Node)}
    (h : ∀ body, otherwise = some body → ∀ node ∈ body, node.Unchained) :
    Unchains (layoutLast otherwise) (layoutLast (unchainLast otherwise)) := by
  cases otherwise with
  | none => exact fun _ _ => rfl
  | some body => exact fun owed rest => congrArg _ (unchains_layoutAll (h body rfl) owed rest)

theorem layout_cond_single (test : Expr) (body : List Node) (otherwise : Option (List Node)) :
    (cond [(test, body)] otherwise).layout =
      .statement (.cond test) 0 ::
        (layoutAll body ++ (layoutLast otherwise ++ [.statement .close 0])) := by
  rw [layout_cond, layoutBranches, List.nil_append, List.append_assoc]

/-- Further branches become a branch without a test, behind which one more end stands for each
of them. -/
theorem unchain_layoutBranches {more : List (Expr × List Node)} {otherwise : Option (List Node)}
    (hmore : ∀ branch ∈ more, ∀ node ∈ branch.2, node.Unchained)
    (hotherwise : ∀ body, otherwise = some body → ∀ node ∈ body, node.Unchained)
    (owed : List Nat) (count : Nat) (rest : List Segment) :
    Segment.unchain (count :: owed)
        (layoutBranches .elseCond more ++
          (layoutLast otherwise ++ .statement .close 0 :: rest)) =
      layoutLast (unchainMore (unchainLast otherwise) more) ++
        (List.replicate (count + 1) (.statement .close 0) ++ Segment.unchain owed rest) := by
  -- the condition that a further test opens is one more that ends where the block does
  induction more generalizing count with
  | nil => exact unchains_layoutLast hotherwise (count :: owed) (.statement .close 0 :: rest)
  | cons branch more ih =>
      obtain ⟨test, body⟩ := branch
      obtain ⟨hbody, hmore⟩ := List.forall_mem_cons.mp hmore
      rw [layoutBranches, List.cons_append, unchain_elseCond, List.append_assoc,
        unchains_layoutAll hbody, ih hmore, unchainMore, layoutLast, layoutAll_cons, layoutAll_nil,
        layout_cond_single, List.replicate_succ]
      simp

theorem unchained_cond {branches : List (Expr × List Node)} {otherwise : Option (List Node)}
    (hne : branches ≠ []) (hbranches : ∀ branch ∈ branches, ∀ node ∈ branch.2, node.Unchained)
    (hotherwise : ∀ body, otherwise = some body → ∀ node ∈ body, node.Unchained) :
    (cond branches otherwise).Unchained := by
  obtain ⟨⟨test, body⟩, more, rfl⟩ := List.exists_cons_of_ne_nil hne
  obtain ⟨hbody, hmore⟩ := List.forall_mem_cons.mp hbranches
  intro owed rest
  have hinner := unchain_layoutBranches hmore hotherwise owed 0 rest
  rw [layout_cond, unchain, layout_cond_single]
  simp only [List.cons_append, List.append_assoc, List.nil_append] at hinner ⊢
  rw [unchain_cond, unchains_layoutAll hbody, hinner]
  rfl

theorem unchained_each (collection : Expr) {body : List Node}
    (h : ∀ node ∈ body, node.Unchained) : (each collection body).Unchained := by
  intro owed rest
  have hinner := unchains_layoutAll h (0 :: owed) (.statement .close 0 :: rest)
  rw [layout, unchain, layout]
  simp only [List.cons_append, List.append_assoc, List.nil_append]
  exact congrArg _ hinner

theorem unchained_of_fits {n : Nat} {node : Node} (h : node.Fits n) : node.Unchained := by
  induction h with
  | text | comment | output | bind | eval => exact fun _ _ => rfl
  | cond hne _ _ hbranches hotherwise => exact unchained_cond hne hbranches hotherwise
  | each collection _ hbody => exact unchained_each collection hbody

theorem unchain_layoutAll {n : Nat} {nodes : List Node} (h : ∀ node ∈ nodes, node.Fits n) :
    Segment.unchain [] (layoutAll nodes) = layoutAll (unchainAll nodes) := by
  have hall := unchains_layoutAll (fun node hnode => unchained_of_fits (h node hnode)) [] []
  rwa [List.append_nil, Segment.unchain, List.append_nil] at hall

/-! ## Depth -/

theorem unchainAll_eq_map (nodes : List Node) : unchainAll nodes = nodes.map unchain := by
  induction nodes with
  | nil => rfl
  | cons node nodes ih => rw [unchainAll, ih, List.map_cons]

theorem measured_unchainAll {nodes : List Node} (h : ∀ node ∈ nodes, node.unchain.Measured) :
    ∀ node ∈ unchainAll nodes, node.Measured := by
  rw [unchainAll_eq_map]
  exact List.forall_mem_map.mpr h

theorem measured_cond_single (test : Expr) {body : List Node} {otherwise : Option (List Node)}
    (hbody : ∀ node ∈ body, node.Measured)
    (hotherwise : ∀ last, otherwise = some last → ∀ node ∈ last, node.Measured) :
    (cond [(test, body)] otherwise).Measured :=
  measured_cond (List.cons_ne_nil _ _) (List.forall_mem_singleton.mpr hbody) hotherwise

theorem measured_unchainLast {otherwise : Option (List Node)}
    (h : ∀ body, otherwise = some body → ∀ node ∈ body, node.unchain.Measured) :
    ∀ body, unchainLast otherwise = some body → ∀ node ∈ body, node.Measured := by
  intro body hbody
  cases otherwise with
  | none => exact nomatch hbody
  | some last =>
      cases hbody
      exact measured_unchainAll (h last rfl)

theorem measured_unchainMore {last : Option (List Node)} {more : List (Expr × List Node)}
    (hlast : ∀ body, last = some body → ∀ node ∈ body, node.Measured)
    (hmore : ∀ branch ∈ more, ∀ node ∈ branch.2, node.unchain.Measured) :
    ∀ body, unchainMore last more = some body → ∀ node ∈ body, node.Measured := by
  induction more with
  | nil => exact hlast
  | cons branch more ih =>
      obtain ⟨test, nodes⟩ := branch
      obtain ⟨hnodes, hmore⟩ := List.forall_mem_cons.mp hmore
      intro body hbody
      cases hbody
      exact List.forall_mem_singleton.mpr
        (measured_cond_single test (measured_unchainAll hnodes) (ih hmore))

/-- The conditions that come from further tests count in the depth of a node as in that of its
layout. -/
theorem measured_unchain {n : Nat} {node : Node} (h : node.Fits n) : node.unchain.Measured := by
  induction h with
  | text content => exact measured_of_fits (.text (n := 0) content)
  | comment content => exact measured_of_fits (.comment (n := 0) content)
  | output out => exact measured_of_fits (.output (n := 0) out)
  | bind name value => exact measured_of_fits (.bind (n := 0) name value)
  | eval value => exact measured_of_fits (.eval (n := 0) value)
  | cond hne _ _ hbranches hotherwise =>
      obtain ⟨⟨test, body⟩, more, rfl⟩ := List.exists_cons_of_ne_nil hne
      obtain ⟨hbody, hmore⟩ := List.forall_mem_cons.mp hbranches
      exact measured_cond_single test (measured_unchainAll hbody)
        (measured_unchainMore (measured_unchainLast hotherwise) hmore)
  | each collection _ hbody => exact measured_each collection (measured_unchainAll hbody)

/-! ## Rendering -/

theorem renderAll_single (env : Env) (node : Node) : renderAll env [node] = render env node := by
  rw [renderAll]
  cases render env node with
  | error fault => rfl
  | ok result => exact congrArg (fun cs => Except.ok (cs, result.2)) (List.append_nil result.1)

theorem render_cond (env : Env) (branches : List (Expr × List Node))
    (otherwise : Option (List Node)) :
    render env (cond branches otherwise) =
      (renderBranches env branches).bind fun chosen =>
        chosen.elim (renderAll env (otherwise.getD [])) .ok := by
  cases otherwise with
  | none | some body =>
      rw [render]
      cases renderBranches env branches with
      | error fault => rfl
      | ok chosen => cases chosen <;> rfl

theorem render_cond_nil (env : Env) (otherwise : Option (List Node)) :
    render env (cond [] otherwise) = renderAll env (otherwise.getD []) := by
  rw [render_cond]
  rfl

/-- Where the first test of a condition does not hold, the condition goes on with its other
branches, in the same environment. -/
theorem render_cond_cons (env : Env) (test : Expr) (body : List Node)
    (more : List (Expr × List Node)) (otherwise : Option (List Node)) :
    render env (cond ((test, body) :: more) otherwise) =
      (test.eval env).bind fun v =>
        if v.truthy then renderAll env body else render env (cond more otherwise) := by
  rw [render_cond, render_cond, renderBranches]
  cases test.eval env with
  | error fault => rfl
  | ok v =>
      simp only [Bind.bind, Except.bind]
      by_cases hv : v.truthy
      · rw [if_pos hv, if_pos hv]
        cases renderAll env body with
        | error fault => rfl
        | ok result => rfl
      · rw [if_neg hv, if_neg hv]

mutual

theorem render_unchain : ∀ (node : Node) (env : Env), render env node.unchain = render env node
  | .text _, _ => rfl
  | .comment _, _ => rfl
  | .output _, _ => rfl
  | .bind _ _, _ => rfl
  | .eval _, _ => rfl
  | .cond [] otherwise, env => by
      rw [unchain, render_cond_nil, render_cond_nil, renderAll_unchainLast]
  | .cond ((test, body) :: more) otherwise, env => by
      have hmore := renderAll_unchainMore more env (renderAll_unchainLast otherwise env)
      rw [unchain, render_cond_cons, render_cond_cons, render_cond_nil, hmore,
        renderAll_unchain body]
  | .each collection body, env => by
      have hround : (fun env => (renderAll env (unchainAll body)).map (·.1)) =
          fun env => (renderAll env body).map (·.1) :=
        funext fun env => by rw [renderAll_unchain body]
      rw [unchain, render, render, hround]

theorem renderAll_unchain : ∀ (nodes : List Node) (env : Env),
    renderAll env (unchainAll nodes) = renderAll env nodes
  | [], _ => rfl
  | node :: rest, env => by
      rw [unchainAll, renderAll, renderAll, render_unchain node]
      simp only [renderAll_unchain rest]

theorem renderAll_unchainLast : ∀ (otherwise : Option (List Node)) (env : Env),
    renderAll env ((unchainLast otherwise).getD []) = renderAll env (otherwise.getD [])
  | none, _ => rfl
  | some body, env => renderAll_unchain body env

/-- The branch that takes the place of further branches is rendered like a condition that starts
with the first of them. -/
theorem renderAll_unchainMore {last otherwise : Option (List Node)} :
    ∀ (more : List (Expr × List Node)) (env : Env),
      renderAll env (last.getD []) = renderAll env (otherwise.getD []) →
        renderAll env ((unchainMore last more).getD []) = render env (cond more otherwise)
  | [], env, hlast => by rw [unchainMore, hlast, render_cond_nil]
  | (test, body) :: more, env, hlast => by
      rw [unchainMore, Option.getD_some, renderAll_single, render_cond_cons, render_cond_cons,
        render_cond_nil, renderAll_unchainMore more env hlast, renderAll_unchain body]

end

end Node

theorem renderNodes_unchain (nodes : List Node) (data : Value) :
    renderNodes (Node.unchainAll nodes) data = renderNodes nodes data := by
  rw [renderNodes, Node.renderAll_unchain, renderNodes]

/-- A further test of a condition is a condition inside the branch without a test. If a row has a
tree, the row in which all further tests are rewritten in this way has none left; it has a tree
exactly if it nests at most 128 deep, and this tree is rendered to the same text, or has the same
fault, as the tree of the row before. The bytes at which the new statements stand do not matter. -/
theorem Node.ofSegments_unchain {row rewritten : List Segment} {nodes : List Node}
    (h : Node.ofSegments row = .ok nodes)
    (hrewritten : rewritten.filterMap Segment.bare? =
      (Segment.unchain [] row).filterMap Segment.bare?) :
    (∀ test offset, .statement (.elseCond test) offset ∉ rewritten) ∧
      ((∃ nodes', Node.ofSegments rewritten = .ok nodes') ↔ Segment.NestsWithin 128 rewritten) ∧
      ∀ nodes', Node.ofSegments rewritten = .ok nodes' →
        ∀ data, renderNodes nodes' data = renderNodes nodes data := by
  obtain ⟨hlayout, hfits⟩ := layout_of_ofSegments h
  have hbare : rewritten.filterMap Segment.bare? = layoutAll (unchainAll nodes) := by
    rw [hrewritten, Segment.bare_unchain, hlayout, unchain_layoutAll hfits]
  have hmeasured := measured_unchainAll fun node hnode => measured_unchain (hfits node hnode)
  have htree := ofSegments_of_nestsWithin hbare hmeasured
  refine ⟨Segment.elseCond_notMem_of_bare hrewritten, ⟨?_, fun hdepth => ⟨_, htree hdepth⟩⟩, ?_⟩
  · rintro ⟨nodes', h'⟩
    exact nestsWithin_of_ofSegments h'
  · intro nodes' h' data
    cases h'.symm.trans (htree (nestsWithin_of_ofSegments h'))
    exact renderNodes_unchain nodes data

/-- Two further tests, a binding that is seen behind the condition, and a condition with a further
test inside the second branch. -/
theorem Node.ofSegments_unchain_nested :
    let row : List Segment := [
      .statement (.cond (.name "a")) 0, .text "A".toList,
      .statement (.elseCond (.name "b")) 11, .statement (.bind "x" (.name "b")) 24,
      .statement (.cond (.name "c")) 39, .silent, .statement (.elseCond (.name "b")) 49,
      .text "B".toList, .statement .close 63,
      .statement (.elseCond (.name "c")) 69, .statement .otherwise 82, .text "D".toList,
      .statement .close 93, .output ⟨.name "x", []⟩]
    let rewritten : List Segment := [
      .statement (.cond (.name "a")) 0, .text "A".toList,
      .statement .otherwise 11, .statement (.cond (.name "b")) 21,
      .statement (.bind "x" (.name "b")) 31,
      .statement (.cond (.name "c")) 46, .statement .otherwise 56,
      .statement (.cond (.name "b")) 66, .text "B".toList, .statement .close 77,
      .statement .close 83,
      .statement .otherwise 89, .statement (.cond (.name "c")) 99, .statement .otherwise 109,
      .text "D".toList, .statement .close 120, .statement .close 126, .statement .close 132,
      .output ⟨.name "x", []⟩]
    let data : Value := .object [("a", .null), ("b", .string "b"), ("c", .null)]
    ∃ nodes nodes', Node.ofSegments row = .ok nodes ∧
      rewritten.filterMap Segment.bare? = (Segment.unchain [] row).filterMap Segment.bare? ∧
      Segment.NestsWithin 128 rewritten ∧ Node.ofSegments rewritten = .ok nodes' ∧
      (∀ data, renderNodes nodes' data = renderNodes nodes data) ∧
      renderNodes nodes data = .ok "Bb".toList := by
  intro row rewritten data
  have hdepth : Segment.NestsWithin 128 rewritten := by decide
  obtain ⟨-, haccepted, hsame⟩ := @ofSegments_unchain row rewritten _ rfl rfl
  obtain ⟨nodes', h'⟩ := haccepted.mpr hdepth
  exact ⟨_, nodes', rfl, rfl, hdepth, h', hsame nodes' h', rfl⟩

end Stencil
