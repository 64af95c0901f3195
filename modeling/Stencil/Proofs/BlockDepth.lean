import Stencil.Proofs.Pairing

/-! # How deep rows of segments nest

The number of blocks that are open at a place of a row is counted by the statements before it that
open and close blocks. For the layout of a tree, the greatest of these numbers is the number of
blocks of the tree that lie around one another.
-/

namespace Stencil

namespace Segment

/-- The change that a segment makes to the number of open blocks. -/
def rise : Segment → Int
  | .statement (.cond _) _ => 1
  | .statement (.each _) _ => 1
  | .statement .close _ => -1
  | _ => 0

/-- The number of blocks that a row opens, less the number that it closes. -/
def level : List Segment → Int
  | [] => 0
  | s :: row => s.rise + level row

/-- At no place of a row are more than `n` blocks open. -/
def NestsWithin (n : Int) (row : List Segment) : Prop :=
  ∀ front, front <+: row → level front ≤ n

@[simp] theorem level_nil : level [] = 0 := rfl

@[simp] theorem level_cons (s : Segment) (row : List Segment) :
    level (s :: row) = s.rise + level row := rfl

@[simp] theorem level_append (row more : List Segment) :
    level (row ++ more) = level row + level more := by
  induction row with
  | nil => exact (Int.zero_add _).symm
  | cons s row ih => rw [List.cons_append, level_cons, level_cons, ih, Int.add_assoc]

theorem NestsWithin.nonneg {n : Int} {row : List Segment} (h : NestsWithin n row) : 0 ≤ n :=
  h [] List.nil_prefix

theorem nestsWithin_nil {n : Int} : NestsWithin n [] ↔ 0 ≤ n := by
  constructor
  · exact NestsWithin.nonneg
  · intro hn front hfront
    rw [List.prefix_nil.mp hfront]
    exact hn

theorem nestsWithin_cons {n : Int} {s : Segment} {row : List Segment} :
    NestsWithin n (s :: row) ↔ 0 ≤ n ∧ NestsWithin (n - s.rise) row := by
  constructor
  · intro h
    refine ⟨h.nonneg, fun front hfront => ?_⟩
    have hlevel := h (s :: front) (List.cons_prefix_cons.mpr ⟨rfl, hfront⟩)
    rw [level_cons] at hlevel
    omega
  · rintro ⟨hn, h⟩ front hfront
    rcases List.prefix_cons_iff.mp hfront with rfl | ⟨rest, rfl, hrest⟩
    · exact hn
    · have hlevel := h rest hrest
      rw [level_cons]
      omega

instance decidableNestsWithin : ∀ (n : Int) (row : List Segment), Decidable (NestsWithin n row)
  | _, [] => decidable_of_iff _ nestsWithin_nil.symm
  | n, s :: row =>
    have := decidableNestsWithin (n - s.rise) row
    decidable_of_iff _ nestsWithin_cons.symm

theorem nestsWithin_append {n : Int} {row more : List Segment} :
    NestsWithin n (row ++ more) ↔ NestsWithin n row ∧ NestsWithin (n - level row) more := by
  induction row generalizing n with
  | nil =>
      rw [List.nil_append, nestsWithin_nil, level_nil, Int.sub_zero]
      exact ⟨fun h => ⟨h.nonneg, h⟩, And.right⟩
  | cons s row ih =>
      rw [List.cons_append, nestsWithin_cons, nestsWithin_cons, ih, level_cons, Int.sub_sub,
        and_assoc]

theorem eq_silent_of_bare? {s : Segment} (h : s.bare? = none) : s = .silent := by
  cases s with
  | silent => rfl
  | text | comment | output | statement => exact nomatch h

theorem rise_of_bare? {s bare : Segment} (h : s.bare? = some bare) : bare.rise = s.rise := by
  cases s with
  | silent => exact nomatch h
  | text | comment | output =>
      cases h
      rfl
  | statement st offset =>
      cases h
      cases st <;> rfl

/-- Silent comments and the bytes of statements do not matter for the depth of a row. -/
theorem nestsWithin_bare {n : Int} {row : List Segment} :
    NestsWithin n (row.filterMap bare?) ↔ NestsWithin n row := by
  induction row generalizing n with
  | nil => rfl
  | cons s row ih =>
      rw [nestsWithin_cons]
      cases hs : s.bare? with
      | none =>
          obtain rfl := eq_silent_of_bare? hs
          have hrise : rise .silent = 0 := rfl
          rw [List.filterMap_cons_none hs, ih, hrise, Int.sub_zero]
          exact ⟨fun h => ⟨h.nonneg, h⟩, And.right⟩
      | some bare =>
          rw [List.filterMap_cons_some hs, nestsWithin_cons, ih, rise_of_bare? hs]

/-- A row that closes all blocks that it opens, and that nests within `n` exactly if `P n`. -/
structure Measures (row : List Segment) (P : Nat → Prop) : Prop where
  level : level row = 0
  nestsWithin_iff : ∀ n : Nat, NestsWithin n row ↔ P n

namespace Measures

variable {row more : List Segment} {P Q : Nat → Prop}

theorem nil : Measures [] fun _ => True where
  level := rfl
  nestsWithin_iff n := by simp [nestsWithin_nil]

theorem congr (h : Measures row P) (hiff : ∀ n, P n ↔ Q n) : Measures row Q where
  level := h.level
  nestsWithin_iff n := (h.nestsWithin_iff n).trans (hiff n)

theorem append (h : Measures row P) (hmore : Measures more Q) :
    Measures (row ++ more) fun n => P n ∧ Q n where
  level := by rw [level_append, h.level, hmore.level, Int.add_zero]
  nestsWithin_iff n := by
    rw [nestsWithin_append, h.level, Int.sub_zero, h.nestsWithin_iff, hmore.nestsWithin_iff]

/-- A segment that neither opens nor closes a block does not count. -/
theorem cons {s : Segment} (hs : s.rise = 0) (h : Measures row P) : Measures (s :: row) P where
  level := by rw [level_cons, hs, h.level, Int.add_zero]
  nestsWithin_iff n := by
    rw [nestsWithin_cons, hs, Int.sub_zero, h.nestsWithin_iff]
    exact and_iff_right (Int.natCast_nonneg n)

/-- A block nests one deeper than what it holds. -/
theorem block {s : Segment} (hs : s.rise = 1) (h : Measures row P) (place : Nat) :
    Measures (s :: (row ++ [.statement .close place])) fun n => ∃ m, n = m + 1 ∧ P m where
  level := by rw [level_cons, level_append, hs, h.level]; rfl
  nestsWithin_iff n := by
    have hend : ∀ n : Int, 0 ≤ n → NestsWithin n [.statement .close place] := by
      intro n hn
      rw [nestsWithin_cons, nestsWithin_nil]
      simp only [rise]
      omega
    rw [nestsWithin_cons, nestsWithin_append, hs, h.level, Int.sub_zero]
    constructor
    · rintro ⟨-, hrow, -⟩
      have hpos := hrow.nonneg
      obtain ⟨m, rfl⟩ : ∃ m, n = m + 1 := ⟨n - 1, by omega⟩
      rw [Int.natCast_succ, Int.add_sub_cancel] at hrow
      exact ⟨m, rfl, (h.nestsWithin_iff m).mp hrow⟩
    · rintro ⟨m, rfl, hm⟩
      rw [Int.natCast_succ, Int.add_sub_cancel]
      exact ⟨by omega, (h.nestsWithin_iff m).mpr hm, hend m (Int.natCast_nonneg m)⟩

end Measures

end Segment

namespace Node

/-- The segments of a branch without a test, if there is one. -/
def layoutLast : Option (List Node) → List Segment
  | none => []
  | some body => .statement .otherwise 0 :: layoutAll body

theorem layout_cond (test : Expr) (body : List Node) (more : List (Expr × List Node))
    (otherwise : Option (List Node)) :
    (cond ((test, body) :: more) otherwise).layout =
      .statement (.cond test) 0 ::
        (layoutAll body ++ (layoutBranches .elseCond more ++ layoutLast otherwise) ++
          [.statement .close 0]) := by
  cases otherwise with
  | none => simp [layout, layoutBranches, layoutLast]
  | some last => simp [layout, layoutBranches, layoutLast]

/-- The layout of a node nests exactly as deep as the node. -/
def Measured (node : Node) : Prop := Segment.Measures node.layout fun n => node.Fits n

open Segment

theorem measured_single {node : Node} {s : Segment} (hlayout : node.layout = [s])
    (hs : s.rise = 0) (hfits : ∀ n, node.Fits n) : node.Measured := by
  rw [Measured, hlayout]
  exact (Measures.nil.cons hs).congr fun n => iff_of_true trivial (hfits n)

theorem measures_layoutAll {nodes : List Node} (h : ∀ node ∈ nodes, node.Measured) :
    Measures (layoutAll nodes) fun n => ∀ node ∈ nodes, node.Fits n := by
  induction nodes with
  | nil => exact Measures.nil.congr fun n => by simp
  | cons node nodes ih =>
      obtain ⟨hnode, hnodes⟩ := List.forall_mem_cons.mp h
      exact (hnode.append (ih hnodes)).congr fun n => List.forall_mem_cons.symm

theorem measures_layoutBranches {branches : List (Expr × List Node)}
    (h : ∀ branch ∈ branches, ∀ node ∈ branch.2, node.Measured) :
    Measures (layoutBranches .elseCond branches) fun n =>
      ∀ branch ∈ branches, ∀ node ∈ branch.2, node.Fits n := by
  induction branches with
  | nil => exact Measures.nil.congr fun n => by simp
  | cons branch branches ih =>
      obtain ⟨test, body⟩ := branch
      obtain ⟨hbody, hmore⟩ := List.forall_mem_cons.mp h
      refine (((measures_layoutAll hbody).append (ih hmore)).cons rfl).congr fun n => ?_
      rw [List.forall_mem_cons]

theorem measures_layoutLast {otherwise : Option (List Node)}
    (h : ∀ body, otherwise = some body → ∀ node ∈ body, node.Measured) :
    Measures (layoutLast otherwise) fun n =>
      ∀ body, otherwise = some body → ∀ node ∈ body, node.Fits n := by
  cases otherwise with
  | none => exact Measures.nil.congr fun n => by simp
  | some body =>
      exact ((measures_layoutAll (h body rfl)).cons rfl).congr fun n => by simp

theorem measured_cond {branches : List (Expr × List Node)} {otherwise : Option (List Node)}
    (hne : branches ≠ []) (hbranches : ∀ branch ∈ branches, ∀ node ∈ branch.2, node.Measured)
    (hotherwise : ∀ body, otherwise = some body → ∀ node ∈ body, node.Measured) :
    (cond branches otherwise).Measured := by
  obtain ⟨⟨test, body⟩, more, rfl⟩ := List.exists_cons_of_ne_nil hne
  obtain ⟨hbody, hmore⟩ := List.forall_mem_cons.mp hbranches
  have hinner := (measures_layoutAll hbody).append
    ((measures_layoutBranches hmore).append (measures_layoutLast hotherwise))
  rw [Measured, layout_cond]
  refine (hinner.block (s := .statement (.cond test) 0) rfl 0).congr fun n => ?_
  constructor
  · rintro ⟨m, rfl, hfits, hfitsMore, hfitsLast⟩
    exact .cond hne (List.forall_mem_cons.mpr ⟨hfits, hfitsMore⟩) hfitsLast
  · intro h
    cases h with
    | @cond m _ _ _ hfits hfitsLast =>
        obtain ⟨hfits, hfitsMore⟩ := List.forall_mem_cons.mp hfits
        exact ⟨m, rfl, hfits, hfitsMore, hfitsLast⟩

theorem measured_each (collection : Expr) {body : List Node} (h : ∀ node ∈ body, node.Measured) :
    (each collection body).Measured := by
  rw [Measured, layout]
  refine ((measures_layoutAll h).block (s := .statement (.each collection) 0) rfl 0).congr
    fun n => ?_
  constructor
  · rintro ⟨m, rfl, hfits⟩
    exact .each collection hfits
  · intro h
    cases h with
    | @each m _ _ hfits => exact ⟨m, rfl, hfits⟩

/-- A node that fits into some depth nests exactly as deep as its layout. -/
theorem measured_of_fits {n : Nat} {node : Node} (h : node.Fits n) : node.Measured := by
  induction h with
  | text content => exact measured_single rfl rfl fun _ => .text content
  | comment content => exact measured_single rfl rfl fun _ => .comment content
  | output out => exact measured_single rfl rfl fun _ => .output out
  | bind name value => exact measured_single rfl rfl fun _ => .bind name value
  | eval value => exact measured_single rfl rfl fun _ => .eval value
  | cond hne _ _ hbranches hotherwise => exact measured_cond hne hbranches hotherwise
  | each collection _ hbody => exact measured_each collection hbody

end Node

/-! ## Trees of rows -/

theorem Builder.finish_eq_ok_iff {b : Builder} {nodes : List Node} :
    b.finish = .ok nodes ↔ b = ⟨nodes.reverse, []⟩ := by
  obtain ⟨root, frames⟩ := b
  cases frames with
  | nil => simp [finish, List.reverse_eq_iff]
  | cons frame rest => simp [finish]

namespace Node

open Segment

variable {row : List Segment} {nodes : List Node}

/-- A row that has a tree is laid out as this tree, which fits into the depth that is allowed. -/
theorem layout_of_ofSegments (h : ofSegments row = .ok nodes) :
    row.filterMap bare? = layoutAll nodes ∧ ∀ node ∈ nodes, node.Fits maxBlockDepth := by
  obtain ⟨b, hsteps, hfinish⟩ := bind_eq_ok_iff.mp h
  obtain rfl := Builder.finish_eq_ok_iff.mp hfinish
  obtain ⟨hlayout, hfits⟩ := Builder.steps_sound Builder.fits_empty hsteps
  refine ⟨?_, fun node hnode => hfits.root node (List.mem_reverse.mpr hnode)⟩
  simpa [Builder.layout, Builder.empty] using hlayout.symm

/-- A row that has a tree does not nest deeper than allowed. -/
theorem nestsWithin_of_ofSegments (h : ofSegments row = .ok nodes) :
    NestsWithin maxBlockDepth row := by
  obtain ⟨hlayout, hfits⟩ := layout_of_ofSegments h
  have hmeasures := measures_layoutAll fun node hnode => measured_of_fits (hfits node hnode)
  rw [← nestsWithin_bare, hlayout]
  exact (hmeasures.nestsWithin_iff maxBlockDepth).mpr hfits

/-- A row that is laid out as nodes has them as its tree if it does not nest deeper than allowed. -/
theorem ofSegments_of_nestsWithin (hlayout : row.filterMap bare? = layoutAll nodes)
    (hnodes : ∀ node ∈ nodes, node.Measured) (h : NestsWithin maxBlockDepth row) :
    ofSegments row = .ok nodes := by
  rw [← nestsWithin_bare, hlayout] at h
  have hfits := ((measures_layoutAll hnodes).nestsWithin_iff maxBlockDepth).mp h
  have hsteps := Builder.steps_layoutAll (b := .empty)
    (fun node hnode => Builder.taken_of_fits (hfits node hnode)) (Nat.le_of_eq rfl) hlayout
  rw [Builder.empty, Builder.addAll_root, List.append_nil] at hsteps
  exact bind_eq_ok_iff.mpr ⟨_, hsteps, Builder.finish_eq_ok_iff.mpr rfl⟩

end Node

end Stencil
