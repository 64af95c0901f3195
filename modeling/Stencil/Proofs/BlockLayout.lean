import Stencil.Block
import Stencil.Proofs.Result

/-! # Layouts of trees

A tree of nodes is laid out as a row of segments, with the statements that open, split and close
its blocks around what they hold. A tree under construction is laid out as what has been read,
and every step adds the segment that it takes in.
-/

namespace Stencil

/-- A segment without the byte at which it stands; a silent comment is left out. -/
def Segment.bare? : Segment → Option Segment
  | .silent => none
  | .statement s _ => some (.statement s 0)
  | segment => some segment

namespace Node

mutual

/-- The segments of a node: a block has its statements around the segments of what it holds. -/
def layout : Node → List Segment
  | text content => [.text content]
  | comment content => [.comment content]
  | output out => [.output out]
  | bind name value => [.statement (.bind name value) 0]
  | eval value => [.statement (.eval value) 0]
  | cond branches none => layoutBranches .cond branches ++ [.statement .close 0]
  | cond branches (some body) =>
    layoutBranches .cond branches ++
      .statement .otherwise 0 :: (layoutAll body ++ [.statement .close 0])
  | each collection body =>
    .statement (.each collection) 0 :: (layoutAll body ++ [.statement .close 0])

def layoutAll : List Node → List Segment
  | [] => []
  | node :: rest => layout node ++ layoutAll rest

/-- The segments of branches in order. The first one starts with the statement that `start` makes
of its test, the others with `elseCond`. -/
def layoutBranches (start : Expr → Statement) : List (Expr × List Node) → List Segment
  | [] => []
  | (test, body) :: rest =>
    .statement (start test) 0 :: (layoutAll body ++ layoutBranches .elseCond rest)

end

/-- At most `n` blocks of a node lie around one another, and all its conditions have a branch. -/
inductive Fits : Nat → Node → Prop
  | text {n} (content : List Char) : Fits n (.text content)
  | comment {n} (content : List Char) : Fits n (.comment content)
  | output {n} (out : Output) : Fits n (.output out)
  | bind {n} (name : String) (value : Expr) : Fits n (.bind name value)
  | eval {n} (value : Expr) : Fits n (.eval value)
  | cond {n branches otherwise} (hne : branches ≠ [])
      (hbranches : ∀ branch ∈ branches, ∀ node ∈ branch.2, Fits n node)
      (hotherwise : ∀ body, otherwise = some body → ∀ node ∈ body, Fits n node) :
      Fits (n + 1) (.cond branches otherwise)
  | each {n body} (collection : Expr) (hbody : ∀ node ∈ body, Fits n node) :
      Fits (n + 1) (.each collection body)

@[simp] theorem layoutAll_nil : layoutAll [] = [] := rfl

@[simp] theorem layoutAll_cons (node : Node) (nodes : List Node) :
    layoutAll (node :: nodes) = node.layout ++ layoutAll nodes := rfl

@[simp] theorem layoutAll_append (nodes more : List Node) :
    layoutAll (nodes ++ more) = layoutAll nodes ++ layoutAll more := by
  induction nodes with
  | nil => rfl
  | cons node nodes ih => simp [ih]

/-- Branches behind others do not start with the first statement. -/
theorem layoutBranches_append (start : Expr → Statement) (branches more : List (Expr × List Node)) :
    layoutBranches start (branches ++ more) =
      layoutBranches start branches ++
        layoutBranches (if branches.isEmpty then start else .elseCond) more := by
  induction branches generalizing start with
  | nil => rfl
  | cons branch branches ih =>
      obtain ⟨test, body⟩ := branch
      rw [List.cons_append, layoutBranches, layoutBranches, ih, ite_self]
      simp

theorem layoutBranches_concat (start : Expr → Statement) (branches : List (Expr × List Node))
    (test : Expr) (body : List Node) :
    layoutBranches start (branches ++ [(test, body)]) =
      layoutBranches start (branches ++ [(test, [])]) ++ layoutAll body := by
  simp [layoutBranches_append, layoutBranches]

end Node

/-! ## Taking in a row of segments -/

namespace Opened

/-- What has been read of a block up to the start of its current branch. -/
def layout : Opened → List Segment
  | cond finished (some test) => Node.layoutBranches .cond ((test, []) :: finished).reverse
  | cond finished none => Node.layoutBranches .cond finished.reverse ++ [.statement .otherwise 0]
  | each collection => [.statement (.each collection) 0]

/-- At most `n` blocks lie around one another in the finished branches, and a branch without a
test is not the first one. -/
def Fits (n : Nat) : Opened → Prop
  | cond finished test =>
    (∀ branch ∈ finished, ∀ node ∈ branch.2, Node.Fits n node) ∧ (test = none → finished ≠ [])
  | each _ => True

/-- A closed block is laid out as what has been read of it, its current branch and its end. -/
theorem layout_node (opened : Opened) (body : List Node) :
    (opened.node body).layout =
      opened.layout ++ (Node.layoutAll body ++ [.statement .close 0]) := by
  cases opened with
  | cond finished test =>
      cases test with
      | some test =>
          rw [node, Node.layout, layout, List.reverse_cons, List.reverse_cons,
            Node.layoutBranches_concat, List.append_assoc]
      | none =>
          rw [node, Node.layout, layout, List.append_assoc, List.singleton_append]
  | each collection => rw [node, Node.layout, layout, List.singleton_append]

theorem layout_split (finished : List (Expr × List Node)) (current : Expr) (body : List Node)
    (test : Option Expr) :
    (cond ((current, body) :: finished) test).layout =
      (cond finished (some current)).layout ++
        (Node.layoutAll body ++ [.statement (test.elim .otherwise .elseCond) 0]) := by
  cases test with
  | none =>
      simp only [layout, List.reverse_cons, Option.elim_none]
      rw [Node.layoutBranches_concat, List.append_assoc]
  | some test =>
      simp only [layout, List.reverse_cons, Option.elim_some]
      rw [Node.layoutBranches_append, Node.layoutBranches_concat, List.append_assoc]
      simp [Node.layoutBranches]

theorem Fits.node {n : Nat} {opened : Opened} (h : opened.Fits n) {body : List Node}
    (hbody : ∀ node ∈ body, node.Fits n) : (opened.node body).Fits (n + 1) := by
  cases opened with
  | cond finished test =>
      obtain ⟨hfinished, hne⟩ := h
      cases test with
      | some test =>
          refine .cond (by simp) (fun branch hbranch => ?_) (fun _ heq => nomatch heq)
          rw [List.mem_reverse, List.mem_cons] at hbranch
          rcases hbranch with rfl | hbranch
          · exact hbody
          · exact hfinished branch hbranch
      | none =>
          refine .cond (by simpa using hne rfl) (fun branch hbranch => ?_) (fun nodes heq => ?_)
          · exact hfinished branch (List.mem_reverse.mp hbranch)
          · cases heq
            exact hbody
  | each collection => exact .each collection hbody

end Opened

namespace Frame

def layout (frame : Frame) : List Segment :=
  frame.opened.layout ++ Node.layoutAll frame.body.reverse

/-- At most `n` blocks lie around one another in what has been read of an open block. -/
structure Fits (n : Nat) (frame : Frame) : Prop where
  opened : frame.opened.Fits n
  body : ∀ node ∈ frame.body, node.Fits n

end Frame

namespace Builder

/-- The number of blocks that may still be opened. -/
def room (b : Builder) : Nat := maxBlockDepth - b.frames.length

def layout (b : Builder) : List Segment :=
  Node.layoutAll b.root.reverse ++ b.frames.reverse.flatMap Frame.layout

/-- No block has more blocks around it than allowed. -/
def FramesFit : List Frame → Prop
  | [] => True
  | frame :: rest =>
    rest.length < maxBlockDepth ∧ frame.Fits (maxBlockDepth - (rest.length + 1)) ∧
      FramesFit rest

/-- All that a builder holds respects the bound on blocks. -/
structure Fits (b : Builder) : Prop where
  root : ∀ node ∈ b.root, node.Fits maxBlockDepth
  frames : FramesFit b.frames

variable {b b' : Builder}

theorem layout_add (b : Builder) (node : Node) :
    (b.add node).layout = b.layout ++ node.layout := by
  obtain ⟨root, frames⟩ := b
  cases frames with
  | nil => simp [add, layout]
  | cons frame rest => simp [add, layout, Frame.layout]

theorem Fits.add (h : b.Fits) {node : Node} (hnode : node.Fits b.room) : (b.add node).Fits := by
  obtain ⟨root, frames⟩ := b
  obtain ⟨hroot, hframes⟩ := h
  cases frames with
  | nil => exact ⟨List.forall_mem_cons.mpr ⟨hnode, hroot⟩, trivial⟩
  | cons frame rest =>
      obtain ⟨hlength, hframe, hrest⟩ := hframes
      exact ⟨hroot, hlength, ⟨hframe.opened, List.forall_mem_cons.mpr ⟨hnode, hframe.body⟩⟩,
        hrest⟩

theorem fits_empty : empty.Fits where
  root := fun _ hnode => nomatch hnode
  frames := trivial

theorem push_eq_ok_iff {offset : Nat} {opened : Opened} :
    b.push offset opened = .ok b' ↔
      b.frames.length < maxBlockDepth ∧ b' = ⟨b.root, ⟨offset, opened, []⟩ :: b.frames⟩ := by
  unfold push
  split
  next hle => simp [Nat.not_lt.mpr hle]
  next hlt => simp [Nat.not_le.mp hlt, eq_comm]

theorem split_eq_ok_iff {offset : Nat} {keyword : Keyword} {test : Option Expr} :
    b.split offset keyword test = .ok b' ↔
      ∃ frame rest finished current, b.frames = frame :: rest ∧
        frame.opened = .cond finished (some current) ∧
        b' = ⟨b.root, ⟨frame.offset, .cond ((current, frame.body.reverse) :: finished) test, []⟩ ::
          rest⟩ := by
  obtain ⟨root, frames⟩ := b
  cases frames with
  | nil => simp [split]
  | cons frame rest =>
      obtain ⟨start, opened, body⟩ := frame
      cases opened with
      | each collection => simp [split]
      | cond finished current =>
          cases current with
          | none => simp [split]
          | some current =>
              constructor
              · intro h
                cases h
                exact ⟨_, _, _, _, rfl, rfl, rfl⟩
              · rintro ⟨_, _, _, _, hframes, hopened, rfl⟩
                cases hframes
                cases hopened
                rfl

theorem close_eq_ok_iff {offset : Nat} :
    b.close offset = .ok b' ↔
      ∃ frame rest, b.frames = frame :: rest ∧
        b' = (⟨b.root, rest⟩ : Builder).add (frame.opened.node frame.body.reverse) := by
  obtain ⟨root, frames⟩ := b
  cases frames with
  | nil => simp [close]
  | cons frame rest =>
      constructor
      · intro h
        cases h
        exact ⟨frame, rest, rfl, rfl⟩
      · rintro ⟨_, _, hframes, rfl⟩
        cases hframes
        rfl

theorem Fits.split (hb : b.Fits) {offset : Nat} {keyword : Keyword} {test : Option Expr}
    (h : b.split offset keyword test = .ok b') : b'.Fits := by
  obtain ⟨frame, rest, finished, current, hframes, hopened, rfl⟩ := split_eq_ok_iff.mp h
  have hfit := hb.frames
  rw [hframes] at hfit
  obtain ⟨hlength, ⟨hopenedFits, hbody⟩, hrest⟩ := hfit
  rw [hopened] at hopenedFits
  refine ⟨hb.root, hlength, ⟨⟨?_, fun _ => List.cons_ne_nil _ _⟩, ?_⟩, hrest⟩
  · refine List.forall_mem_cons.mpr ⟨?_, hopenedFits.1⟩
    exact fun node hnode => hbody node (List.mem_reverse.mp hnode)
  · exact fun node hnode => nomatch hnode

theorem layout_split {offset : Nat} {keyword : Keyword} {test : Option Expr}
    (h : b.split offset keyword test = .ok b') :
    b'.layout = b.layout ++ [.statement (test.elim .otherwise .elseCond) 0] := by
  obtain ⟨frame, rest, finished, current, hframes, hopened, rfl⟩ := split_eq_ok_iff.mp h
  simp [layout, Frame.layout, hframes, hopened, Opened.layout_split]

theorem layout_step {s : Segment} (h : b.step s = .ok b') :
    b'.layout = b.layout ++ s.bare?.toList := by
  cases s with
  | silent => cases h; exact (List.append_nil _).symm
  | text content => cases h; exact layout_add b _
  | comment content => cases h; exact layout_add b _
  | output out => cases h; exact layout_add b _
  | statement s offset =>
      cases s with
      | bind name value => cases h; exact layout_add b _
      | eval value => cases h; exact layout_add b _
      | cond test =>
          obtain ⟨-, rfl⟩ := push_eq_ok_iff.mp h
          simp [layout, Frame.layout, Opened.layout, Node.layoutBranches, Segment.bare?]
      | each collection =>
          obtain ⟨-, rfl⟩ := push_eq_ok_iff.mp h
          simp [layout, Frame.layout, Opened.layout, Segment.bare?]
      | elseCond test => exact layout_split h
      | otherwise => exact layout_split h
      | close =>
          obtain ⟨frame, rest, hframes, rfl⟩ := close_eq_ok_iff.mp h
          rw [layout_add, Opened.layout_node]
          simp [layout, Frame.layout, hframes, Segment.bare?]

theorem Fits.step {s : Segment} (hb : b.Fits) (h : b.step s = .ok b') : b'.Fits := by
  cases s with
  | silent => cases h; exact hb
  | text content => cases h; exact hb.add (.text content)
  | comment content => cases h; exact hb.add (.comment content)
  | output out => cases h; exact hb.add (.output out)
  | statement s offset =>
      cases s with
      | bind name value => cases h; exact hb.add (.bind name value)
      | eval value => cases h; exact hb.add (.eval value)
      | cond test =>
          obtain ⟨hlength, rfl⟩ := push_eq_ok_iff.mp h
          refine ⟨hb.root, hlength, ⟨⟨?_, fun heq => nomatch heq⟩, ?_⟩, hb.frames⟩
          · exact fun branch hbranch => nomatch hbranch
          · exact fun node hnode => nomatch hnode
      | each collection =>
          obtain ⟨hlength, rfl⟩ := push_eq_ok_iff.mp h
          exact ⟨hb.root, hlength, ⟨trivial, fun node hnode => nomatch hnode⟩, hb.frames⟩
      | elseCond test => exact hb.split h
      | otherwise => exact hb.split h
      | close =>
          obtain ⟨frame, rest, hframes, rfl⟩ := close_eq_ok_iff.mp h
          have hfit := hb.frames
          rw [hframes] at hfit
          obtain ⟨hlength, hframe, hrest⟩ := hfit
          refine Fits.add (b := ⟨b.root, rest⟩) ⟨hb.root, hrest⟩ ?_
          have hnode := hframe.opened.node
            (fun node hnode => hframe.body node (List.mem_reverse.mp hnode))
          have hroom : maxBlockDepth - (rest.length + 1) + 1 = maxBlockDepth - rest.length := by
            omega
          rwa [hroom] at hnode

/-- Taking in a row of segments adds the row to what has been read and respects the bound. -/
theorem steps_sound {segments : List Segment} (hb : b.Fits) (h : b.steps segments = .ok b') :
    b'.layout = b.layout ++ segments.filterMap Segment.bare? ∧ b'.Fits := by
  induction segments generalizing b with
  | nil =>
      cases h
      exact ⟨(List.append_nil _).symm, hb⟩
  | cons s segments ih =>
      obtain ⟨next, hstep, hsteps⟩ := bind_eq_ok_iff.mp h
      obtain ⟨hlayout, hfits⟩ := ih (hb.step hstep) hsteps
      refine ⟨?_, hfits⟩
      rw [hlayout, layout_step hstep, List.append_assoc]
      cases hs : s.bare? with
      | none => simp [hs]
      | some bare => simp [hs]

end Builder

end Stencil
