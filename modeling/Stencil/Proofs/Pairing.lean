import Stencil.Proofs.BlockLayout

/-! # Pairing of blocks

Building a tree from a row of segments is the inverse of laying it out: a row has a tree exactly
if it is the layout of one, up to offsets and silent comments.
-/

namespace Stencil

namespace Builder

variable {b : Builder}

def addAll (b : Builder) (nodes : List Node) : Builder := nodes.foldl add b

theorem addAll_root (root nodes : List Node) :
    (⟨root, []⟩ : Builder).addAll nodes = ⟨nodes.reverse ++ root, []⟩ := by
  induction nodes generalizing root with
  | nil => rfl
  | cons node nodes ih =>
      rw [List.reverse_cons, List.append_assoc]
      exact ih (node :: root)

theorem addAll_frame (root : List Node) (offset : Nat) (opened : Opened) (body : List Node)
    (rest : List Frame) (nodes : List Node) :
    (⟨root, ⟨offset, opened, body⟩ :: rest⟩ : Builder).addAll nodes =
      ⟨root, ⟨offset, opened, nodes.reverse ++ body⟩ :: rest⟩ := by
  induction nodes generalizing body with
  | nil => rfl
  | cons node nodes ih =>
      rw [List.reverse_cons, List.append_assoc]
      exact ih (node :: body)

theorem length_frames_add (b : Builder) (node : Node) :
    (b.add node).frames.length = b.frames.length := by
  obtain ⟨root, frames⟩ := b
  cases frames with
  | nil => rfl
  | cons frame rest => rfl

theorem steps_append (b : Builder) (segments more : List Segment) :
    b.steps (segments ++ more) = (b.steps segments).bind (·.steps more) := by
  induction segments generalizing b with
  | nil => rfl
  | cons s segments ih =>
      simp only [List.cons_append, steps, bind]
      cases b.step s with
      | error e => rfl
      | ok next => exact ih next

theorem steps_of_bare?_eq_none {segments : List Segment}
    (h : ∀ s ∈ segments, s.bare? = none) (b : Builder) : b.steps segments = .ok b := by
  induction segments with
  | nil => rfl
  | cons s segments ih =>
      obtain ⟨hs, hrest⟩ := List.forall_mem_cons.mp h
      cases s with
      | silent => exact ih hrest
      | text | comment | output | statement => exact nomatch hs

/-- A row that is laid out as `rest` behind `bare` starts with a segment that stands for `bare`;
silent comments may precede it. -/
theorem steps_cons {segments rest : List Segment} {bare : Segment}
    (h : segments.filterMap Segment.bare? = bare :: rest) :
    ∃ s behind, s.bare? = some bare ∧ behind.filterMap Segment.bare? = rest ∧
      ∀ b : Builder, b.steps segments = (b.step s).bind (·.steps behind) := by
  obtain ⟨silent, s, behind, rfl, hsilent, hs, hbehind⟩ := List.filterMap_eq_cons_iff.mp h
  refine ⟨s, behind, hs, hbehind, fun b => ?_⟩
  rw [steps_append, steps_of_bare?_eq_none hsilent]
  rfl

/-- A row that is laid out as `second` behind `first` is cut between the two. -/
theorem steps_cut {segments first second : List Segment}
    (h : segments.filterMap Segment.bare? = first ++ second) :
    ∃ front back, front.filterMap Segment.bare? = first ∧ back.filterMap Segment.bare? = second ∧
      ∀ b : Builder, b.steps segments = (b.steps front).bind (·.steps back) := by
  obtain ⟨front, back, rfl, hfront, hback⟩ := List.filterMap_eq_append_iff.mp h
  exact ⟨front, back, hfront, hback, fun b => b.steps_append front back⟩

theorem eq_statement_of_bare? {s : Segment} {statement : Statement}
    (h : s.bare? = some (.statement statement 0)) :
    ∃ offset, s = .statement statement offset := by
  cases s with
  | statement statement offset =>
      cases h
      exact ⟨offset, rfl⟩
  | text | comment | output | silent => exact nomatch h

/-- A row that is laid out as a node adds the node, where `n` more blocks may be opened. -/
def Taken (n : Nat) (node : Node) : Prop :=
  ∀ (b : Builder) segments, b.frames.length + n ≤ maxBlockDepth →
    segments.filterMap Segment.bare? = node.layout → b.steps segments = .ok (b.add node)

theorem taken_single {n : Nat} {node : Node} {bare : Segment} (hlayout : node.layout = [bare])
    (hstep : ∀ (b : Builder) s, s.bare? = some bare → b.step s = .ok (b.add node)) :
    Taken n node := by
  intro b segments _ h
  rw [hlayout] at h
  obtain ⟨s, behind, hs, hbehind, hsteps⟩ := steps_cons h
  rw [hsteps, hstep b s hs]
  exact steps_of_bare?_eq_none (List.filterMap_eq_nil_iff.mp hbehind) _

theorem steps_layoutAll {n : Nat} {nodes : List Node} (hnodes : ∀ node ∈ nodes, Taken n node)
    {b : Builder} (hroom : b.frames.length + n ≤ maxBlockDepth) {segments : List Segment}
    (h : segments.filterMap Segment.bare? = Node.layoutAll nodes) :
    b.steps segments = .ok (b.addAll nodes) := by
  induction nodes generalizing b segments with
  | nil => exact steps_of_bare?_eq_none (List.filterMap_eq_nil_iff.mp h) b
  | cons node nodes ih =>
      obtain ⟨hnode, hrest⟩ := List.forall_mem_cons.mp hnodes
      obtain ⟨front, back, hfront, hback, hsteps⟩ := steps_cut h
      rw [hsteps, hnode b front hroom hfront]
      exact ih hrest (by rwa [length_frames_add]) hback

theorem push_of_room {n : Nat} {frames : List Frame}
    (hroom : frames.length + 1 + n ≤ maxBlockDepth) (root : List Node) (offset : Nat)
    (opened : Opened) :
    (⟨root, frames⟩ : Builder).push offset opened =
      .ok ⟨root, ⟨offset, opened, []⟩ :: frames⟩ := by
  refine push_eq_ok_iff.mpr ⟨?_, rfl⟩
  simp only
  omega

theorem split_of_test (root : List Node) (offset place : Nat) (keyword : Keyword)
    (finished : List (Expr × List Node)) (current : Expr) (body : List Node)
    (test : Option Expr) (rest : List Frame) :
    (⟨root, ⟨offset, .cond finished (some current), body.reverse⟩ :: rest⟩ : Builder).split place
      keyword test =
        .ok ⟨root, ⟨offset, .cond ((current, body) :: finished) test, []⟩ :: rest⟩ := by
  rw [split_eq_ok_iff]
  exact ⟨_, rest, finished, current, rfl, rfl, by rw [List.reverse_reverse]⟩

theorem steps_body {n : Nat} {nodes : List Node} (hnodes : ∀ node ∈ nodes, Taken n node)
    {rest : List Frame} (hroom : rest.length + 1 + n ≤ maxBlockDepth) {segments : List Segment}
    (h : segments.filterMap Segment.bare? = Node.layoutAll nodes) (root : List Node)
    (offset : Nat) (opened : Opened) :
    (⟨root, ⟨offset, opened, []⟩ :: rest⟩ : Builder).steps segments =
      .ok ⟨root, ⟨offset, opened, nodes.reverse⟩ :: rest⟩ := by
  rw [steps_layoutAll (b := ⟨root, _ :: rest⟩) hnodes hroom h, addAll_frame, List.append_nil]

theorem steps_close {segments : List Segment}
    (h : segments.filterMap Segment.bare? = [.statement .close 0]) (root : List Node)
    (offset : Nat) (opened : Opened) (body : List Node) (rest : List Frame) :
    (⟨root, ⟨offset, opened, body.reverse⟩ :: rest⟩ : Builder).steps segments =
      .ok ((⟨root, rest⟩ : Builder).add (opened.node body)) := by
  obtain ⟨s, behind, hs, hbehind, hsteps⟩ := steps_cons h
  obtain ⟨place, rfl⟩ := eq_statement_of_bare? hs
  have hclose : (⟨root, ⟨offset, opened, body.reverse⟩ :: rest⟩ : Builder).close place =
      .ok ((⟨root, rest⟩ : Builder).add (opened.node body)) := by
    rw [close_eq_ok_iff]
    exact ⟨_, rest, rfl, by rw [List.reverse_reverse]⟩
  rw [hsteps, step, statement, hclose]
  exact steps_of_bare?_eq_none (List.filterMap_eq_nil_iff.mp hbehind) _

/-- Further branches of a condition end up among the finished ones, but for the last. -/
theorem steps_branches {n : Nat} {branches : List (Expr × List Node)}
    (hbranches : ∀ branch ∈ branches, ∀ node ∈ branch.2, Taken n node) {rest : List Frame}
    (hroom : rest.length + 1 + n ≤ maxBlockDepth) {segments : List Segment}
    (h : segments.filterMap Segment.bare? = Node.layoutBranches .elseCond branches)
    (root : List Node) (offset : Nat) (finished : List (Expr × List Node)) (current : Expr)
    (body : List Node) :
    ∃ finished' current' body',
      (current', body') :: finished' = branches.reverse ++ (current, body) :: finished ∧
      (⟨root, ⟨offset, .cond finished (some current), body.reverse⟩ :: rest⟩ : Builder).steps
        segments =
          .ok ⟨root, ⟨offset, .cond finished' (some current'), body'.reverse⟩ :: rest⟩ := by
  induction branches generalizing segments finished current body with
  | nil => exact ⟨finished, current, body, rfl,
      steps_of_bare?_eq_none (List.filterMap_eq_nil_iff.mp h) _⟩
  | cons branch branches ih =>
      obtain ⟨test, nodes⟩ := branch
      obtain ⟨hnodes, hmore⟩ := List.forall_mem_cons.mp hbranches
      obtain ⟨s, behind, hs, hbehind, hsteps⟩ := steps_cons h
      obtain ⟨place, rfl⟩ := eq_statement_of_bare? hs
      obtain ⟨front, back, hfront, hback, hcut⟩ := steps_cut hbehind
      obtain ⟨finished', current', body', heq, hrest⟩ :=
        ih hmore hback ((current, body) :: finished) test nodes
      refine ⟨finished', current', body', ?_, ?_⟩
      · rw [heq, List.reverse_cons, List.append_assoc, List.singleton_append]
      · rw [hsteps, step, statement, split_of_test, Except.bind, hcut,
          steps_body hnodes hroom hfront]
        exact hrest

/-- The branches with a test open a block and end up in it. -/
theorem steps_tests {n : Nat} {branches : List (Expr × List Node)} (hne : branches ≠ [])
    (hbranches : ∀ branch ∈ branches, ∀ node ∈ branch.2, Taken n node) {frames : List Frame}
    (hroom : frames.length + 1 + n ≤ maxBlockDepth) {segments : List Segment}
    (h : segments.filterMap Segment.bare? = Node.layoutBranches .cond branches)
    (root : List Node) :
    ∃ offset finished current body, ((current, body) :: finished).reverse = branches ∧
      (⟨root, frames⟩ : Builder).steps segments =
        .ok ⟨root, ⟨offset, .cond finished (some current), body.reverse⟩ :: frames⟩ := by
  obtain ⟨⟨test, nodes⟩, more, rfl⟩ := List.exists_cons_of_ne_nil hne
  obtain ⟨hnodes, hmore⟩ := List.forall_mem_cons.mp hbranches
  obtain ⟨s, behind, hs, hbehind, hsteps⟩ := steps_cons h
  obtain ⟨offset, rfl⟩ := eq_statement_of_bare? hs
  obtain ⟨front, back, hfront, hback, hcut⟩ := steps_cut hbehind
  obtain ⟨finished, current, body, heq, hrest⟩ :=
    steps_branches hmore hroom hback root offset [] test nodes
  refine ⟨offset, finished, current, body, by simp [heq], ?_⟩
  rw [hsteps, step, statement, push_of_room hroom, Except.bind, hcut,
    steps_body hnodes hroom hfront]
  exact hrest

/-- A row that is laid out as a node that fits into the room adds the node. -/
theorem taken_of_fits {n : Nat} {node : Node} (h : node.Fits n) : Taken n node := by
  induction h with
  | text content =>
      refine taken_single rfl fun b s hs => ?_
      cases s with
      | text => cases hs; rfl
      | comment | output | statement | silent => exact nomatch hs
  | comment content =>
      refine taken_single rfl fun b s hs => ?_
      cases s with
      | comment => cases hs; rfl
      | text | output | statement | silent => exact nomatch hs
  | output out =>
      refine taken_single rfl fun b s hs => ?_
      cases s with
      | output => cases hs; rfl
      | text | comment | statement | silent => exact nomatch hs
  | bind name value =>
      refine taken_single rfl fun b s hs => ?_
      obtain ⟨offset, rfl⟩ := eq_statement_of_bare? hs
      rfl
  | eval value =>
      refine taken_single rfl fun b s hs => ?_
      obtain ⟨offset, rfl⟩ := eq_statement_of_bare? hs
      rfl
  | @cond n branches otherwise hne _ _ hbranches hotherwise =>
      intro b segments hroom hlayout
      obtain ⟨root, frames⟩ := b
      have hroom : frames.length + 1 + n ≤ maxBlockDepth := by
        simp only at hroom
        omega
      cases otherwise with
      | none =>
          obtain ⟨front, back, hfront, hback, hcut⟩ := steps_cut hlayout
          obtain ⟨offset, finished, current, body, rfl, htests⟩ :=
            steps_tests hne hbranches hroom hfront root
          rw [hcut, htests, Except.bind]
          exact steps_close hback root offset (.cond finished (some current)) body frames
      | some nodes =>
          obtain ⟨front, back, hfront, hback, hcut⟩ := steps_cut hlayout
          obtain ⟨offset, finished, current, body, rfl, htests⟩ :=
            steps_tests hne hbranches hroom hfront root
          obtain ⟨s, behind, hs, hbehind, hsteps⟩ := steps_cons hback
          obtain ⟨place, rfl⟩ := eq_statement_of_bare? hs
          obtain ⟨inside, last, hinside, hlast, hend⟩ := steps_cut hbehind
          rw [hcut, htests, Except.bind, hsteps, step, statement, split_of_test, Except.bind, hend,
            steps_body (hotherwise nodes rfl) hroom hinside]
          exact steps_close hlast root offset (.cond ((current, body) :: finished) none) nodes
            frames
  | @each n body collection _ hbody =>
      intro b segments hroom hlayout
      obtain ⟨root, frames⟩ := b
      have hroom : frames.length + 1 + n ≤ maxBlockDepth := by
        simp only at hroom
        omega
      obtain ⟨s, behind, hs, hbehind, hsteps⟩ := steps_cons hlayout
      obtain ⟨offset, rfl⟩ := eq_statement_of_bare? hs
      obtain ⟨front, back, hfront, hback, hcut⟩ := steps_cut hbehind
      rw [hsteps, step, statement, push_of_room hroom, Except.bind, hcut,
        steps_body hbody hroom hfront]
      exact steps_close hback root offset (.each collection) body frames

end Builder

/-- Pairing of blocks is the inverse of laying out. A row of segments has a tree exactly if the
row is the layout of that tree, where silent comments may stand anywhere and the offsets do not
matter, all conditions of the tree have a branch, and at most 128 blocks lie around one another.
-/
theorem Node.ofSegments_eq_ok_iff (segments : List Segment) (nodes : List Node) :
    Node.ofSegments segments = .ok nodes ↔
      segments.filterMap Segment.bare? = Node.layoutAll nodes ∧
        ∀ node ∈ nodes, node.Fits 128 := by
  unfold Node.ofSegments
  rw [bind_eq_ok_iff]
  constructor
  · rintro ⟨⟨root, frames⟩, hsteps, hfinish⟩
    obtain ⟨hlayout, hfits⟩ :=
      Builder.steps_sound Builder.fits_empty hsteps
    cases frames with
    | cons frame rest => exact nomatch hfinish
    | nil =>
        cases hfinish
        refine ⟨?_, fun node hnode => hfits.root node (List.mem_reverse.mp hnode)⟩
        simpa [Builder.layout, Builder.empty] using hlayout.symm
  · rintro ⟨hlayout, hfits⟩
    have hsteps := Builder.steps_layoutAll (b := .empty)
      (fun node hnode => Builder.taken_of_fits (hfits node hnode)) (Nat.le_of_eq rfl) hlayout
    refine ⟨_, hsteps, ?_⟩
    rw [Builder.empty, Builder.addAll_root, Builder.finish, List.append_nil,
      List.reverse_reverse]

end Stencil
