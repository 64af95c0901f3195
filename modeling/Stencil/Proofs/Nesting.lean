import Mathlib.Data.List.Induction
import Stencil.Proofs.Pairing

/-! # Nesting of blocks

Which rows of segments are well nested, which can become so by closing the blocks that they leave
open, and which mistake the construction of a tree reports. The construction follows the open
blocks of the row, so it stops at the first statement behind which no end of a block would help.
-/

namespace Stencil

/-- What the current part of an open block is: a branch with a test, the branch of a condition
that has none, or the body of a loop. -/
inductive Branch where
  | tested
  | last
  | each
deriving DecidableEq, Repr

namespace Branch

/-- The keyword that opens a block with such a part. -/
def keyword : Branch → Keyword
  | tested => .ifWord
  | last => .ifWord
  | each => .eachWord

end Branch

/-- An open block: the byte of its opening statement, and its current part. -/
structure OpenBlock where
  offset : Nat
  branch : Branch
deriving DecidableEq, Repr

/-- A statement opens a block, which starts with the given part. -/
inductive Statement.Opens : Statement → Branch → Prop
  | cond (test : Expr) : Opens (.cond test) .tested
  | each (collection : Expr) : Opens (.each collection) .each

/-- A statement with the given keyword ends a branch and starts the given one. -/
inductive Statement.Splits : Statement → Keyword → Branch → Prop
  | elseCond (test : Expr) : Splits (.elseCond test) .elifWord .tested
  | otherwise : Splits .otherwise .elseWord .last

/-- A segment that neither opens nor splits nor closes a block. -/
inductive Segment.Inert : Segment → Prop
  | text (content : List Char) : Inert (.text content)
  | output (out : Output) : Inert (.output out)
  | comment (content : List Char) : Inert (.comment content)
  | silent : Inert .silent
  | bind (name : String) (value : Expr) (offset : Nat) :
      Inert (.statement (.bind name value) offset)
  | eval (value : Expr) (offset : Nat) : Inert (.statement (.eval value) offset)

/-- Rows in which at most `n` blocks lie around one another. All blocks of a row are paired, but
for the one that is given: then the row starts with the statement that opens it, and goes on in
it. A condition has branches with a test first, then at most one without, and a loop has no
branches. -/
inductive Row : Nat → Option OpenBlock → List Segment → Prop
  | nil {n} : Row n none []
  | opening {n st branch} (offset : Nat) (h : Statement.Opens st branch) :
      Row n (some ⟨offset, branch⟩) [.statement st offset]
  | inert {n block? row s} (hrow : Row n block? row) (hs : s.Inert) : Row n block? (row ++ [s])
  | split {n offset row st keyword branch} (place : Nat)
      (hrow : Row n (some ⟨offset, .tested⟩) row) (h : Statement.Splits st keyword branch) :
      Row n (some ⟨offset, branch⟩) (row ++ [.statement st place])
  | block {n block? row block inner} (place : Nat) (hrow : Row (n + 1) block? row)
      (hinner : Row n (some block) inner) :
      Row (n + 1) block? (row ++ (inner ++ [.statement .close place]))

/-- A row of segments whose blocks are paired, with at most 128 of them around one another. -/
def WellNested (row : List Segment) : Prop := Row 128 none row

/-- A segment that is the end of a block. -/
def Segment.Closes (s : Segment) : Prop := ∃ place, s = .statement .close place

/-- Ends of blocks make a row well nested. -/
def Completable (row : List Segment) : Prop :=
  ∃ ends : List Segment, (∀ s ∈ ends, s.Closes) ∧ WellNested (row ++ ends)

/-- A row that leaves the given blocks open, the innermost one first. -/
inductive LeavesOpen : List OpenBlock → List Segment → Prop
  | none {row} (h : WellNested row) : LeavesOpen [] row
  | block {n block blocks outer row} (houter : LeavesOpen blocks outer)
      (hroom : n + (block :: blocks).length = 128) (hrow : Row n (some block) row) :
      LeavesOpen (block :: blocks) (outer ++ row)

/-- What a segment makes of the blocks that are open. -/
inductive Moves : List OpenBlock → Segment → List OpenBlock → Prop
  | inert {blocks s} (h : Segment.Inert s) : Moves blocks s blocks
  | opening {blocks st branch} (offset : Nat) (h : Statement.Opens st branch)
      (hroom : blocks.length < 128) :
      Moves blocks (.statement st offset) (⟨offset, branch⟩ :: blocks)
  | split {blocks offset st keyword branch} (place : Nat)
      (h : Statement.Splits st keyword branch) :
      Moves (⟨offset, .tested⟩ :: blocks) (.statement st place) (⟨offset, branch⟩ :: blocks)
  | close {block blocks} (place : Nat) : Moves (block :: blocks) (.statement .close place) blocks

/-- What is wrong with a statement where the given blocks are open, the innermost one first. -/
inductive Mistake : List OpenBlock → Statement → BlockProblem → Prop
  | tooDeep {blocks st branch} (h : Statement.Opens st branch) (hdepth : blocks.length = 128) :
      Mistake blocks st .tooDeep
  | nothingToClose : Mistake [] .close .nothingToClose
  | withoutIf {st keyword branch} (h : Statement.Splits st keyword branch) :
      Mistake [] st (.withoutIf keyword)
  | insideEach {blocks offset st keyword branch} (h : Statement.Splits st keyword branch) :
      Mistake (⟨offset, .each⟩ :: blocks) st (.insideEach keyword)
  | afterElse {blocks offset st keyword branch} (h : Statement.Splits st keyword branch) :
      Mistake (⟨offset, .last⟩ :: blocks) st (.afterElse keyword)

/-- The first mistake of a row: a statement that cannot stand where the given blocks are open,
behind a start of the row that leaves these blocks open. -/
structure Misplaced (row front : List Segment) (st : Statement) (blocks : List OpenBlock)
    (e : BlockError) : Prop where
  start : front ++ [.statement st e.offset] <+: row
  leaves : LeavesOpen blocks front
  mistake : Mistake blocks st e.problem

/-! ## Rows and the blocks that they leave open -/

theorem LeavesOpen.length_le {blocks : List OpenBlock} {row : List Segment}
    (h : LeavesOpen blocks row) : blocks.length ≤ 128 := by
  cases h with
  | none => exact Nat.zero_le _
  | block _ hroom _ => omega

theorem LeavesOpen.wellNested {row : List Segment} (h : LeavesOpen [] row) : WellNested row := by
  cases h with
  | none hrow => exact hrow

/-- A block that is closed stays in the row around it. -/
theorem LeavesOpen.close {n : Nat} {block : OpenBlock} {blocks : List OpenBlock}
    {outer inner : List Segment} (houter : LeavesOpen blocks outer)
    (hroom : n + (block :: blocks).length = 128) (hinner : Row n (some block) inner)
    (place : Nat) : LeavesOpen blocks (outer ++ (inner ++ [.statement .close place])) := by
  cases houter with
  | none h =>
      obtain rfl : n = 127 := by simpa using hroom
      exact .none (.block place h hinner)
  | @block m around blocks outer row houter hroom' hrow =>
      obtain rfl : m = n + 1 := by
        simp only [List.length_cons] at hroom hroom'
        omega
      rw [List.append_assoc]
      exact .block houter hroom' (.block place hrow hinner)

/-- What a segment makes of the open blocks is what the longer row leaves open. -/
theorem LeavesOpen.moves {blocks blocks' : List OpenBlock} {row : List Segment} {s : Segment}
    (h : LeavesOpen blocks row) (hmoves : Moves blocks s blocks') :
    LeavesOpen blocks' (row ++ [s]) := by
  cases hmoves with
  | inert hs =>
      cases h with
      | none hrow => exact .none (.inert hrow hs)
      | block houter hroom hrow =>
          rw [List.append_assoc]
          exact .block houter hroom (.inert hrow hs)
  | opening offset hopens hroom =>
      refine .block (n := 128 - (blocks.length + 1)) h ?_ (.opening offset hopens)
      rw [List.length_cons]
      omega
  | split place hsplits =>
      cases h with
      | block houter hroom hrow =>
          rw [List.append_assoc]
          exact .block houter hroom (.split place hrow hsplits)
  | close place =>
      cases h with
      | block houter hroom hrow =>
          rw [List.append_assoc]
          exact houter.close hroom hrow place

/-- Closing the open blocks one by one makes a row well nested. -/
theorem LeavesOpen.completable {blocks : List OpenBlock} {row : List Segment}
    (h : LeavesOpen blocks row) : Completable row := by
  induction blocks generalizing row with
  | nil =>
      have hrow := h.wellNested
      rw [← List.append_nil row] at hrow
      exact ⟨[], List.forall_mem_nil _, hrow⟩
  | cons block blocks ih =>
      obtain ⟨ends, hends, hrow⟩ := ih (h.moves (.close 0))
      rw [List.append_assoc] at hrow
      exact ⟨_, List.forall_mem_cons.mpr ⟨⟨0, rfl⟩, hends⟩, hrow⟩

/-! ## What a statement may do -/

section

variable {blocks : List OpenBlock}

theorem moves_or_tooDeep (hle : blocks.length ≤ 128) {st : Statement} {branch : Branch}
    (h : st.Opens branch) (offset : Nat) :
    (∃ blocks', Moves blocks (.statement st offset) blocks') ∨
      ∃ problem, Mistake blocks st problem := by
  rcases Nat.lt_or_eq_of_le hle with hlt | heq
  · exact .inl ⟨_, .opening offset h hlt⟩
  · exact .inr ⟨_, .tooDeep h heq⟩

theorem moves_or_misplaced {st : Statement} {keyword : Keyword} {branch : Branch}
    (h : st.Splits keyword branch) (place : Nat) :
    (∃ blocks', Moves blocks (.statement st place) blocks') ∨
      ∃ problem, Mistake blocks st problem := by
  cases blocks with
  | nil => exact .inr ⟨_, .withoutIf h⟩
  | cons block blocks =>
      obtain ⟨offset, current⟩ := block
      cases current with
      | tested => exact .inl ⟨_, .split place h⟩
      | last => exact .inr ⟨_, .afterElse h⟩
      | each => exact .inr ⟨_, .insideEach h⟩

/-- Every segment either moves on or is a statement that is a mistake. -/
theorem moves_or_mistake (hle : blocks.length ≤ 128) (s : Segment) :
    (∃ blocks', Moves blocks s blocks') ∨
      ∃ st offset problem, s = .statement st offset ∧ Mistake blocks st problem := by
  cases s with
  | text content => exact .inl ⟨_, .inert (.text content)⟩
  | output out => exact .inl ⟨_, .inert (.output out)⟩
  | comment content => exact .inl ⟨_, .inert (.comment content)⟩
  | silent => exact .inl ⟨_, .inert .silent⟩
  | statement st offset =>
      have h : (∃ blocks', Moves blocks (.statement st offset) blocks') ∨
          ∃ problem, Mistake blocks st problem := by
        cases st with
        | cond test => exact moves_or_tooDeep hle (.cond test) offset
        | each collection => exact moves_or_tooDeep hle (.each collection) offset
        | elseCond test => exact moves_or_misplaced (.elseCond test) offset
        | otherwise => exact moves_or_misplaced .otherwise offset
        | bind name value => exact .inl ⟨_, .inert (.bind name value offset)⟩
        | eval value => exact .inl ⟨_, .inert (.eval value offset)⟩
        | close =>
            cases blocks with
            | nil => exact .inr ⟨_, .nothingToClose⟩
            | cons block blocks => exact .inl ⟨_, .close offset⟩
      exact h.imp_right fun ⟨problem, hmistake⟩ => ⟨st, offset, problem, rfl, hmistake⟩

end

/-- The statements that open a block are the ones whose mistake is that they are too deep. -/
theorem Mistake.diagnostic_eq {blocks : List OpenBlock} {st : Statement} {problem : BlockProblem}
    (h : Mistake blocks st problem) (source : List Char) (offset : Nat) :
    ((∃ branch, st.Opens branch) → problem.diagnostic source offset =
        .malformed problem.message none (Place.ofByte source offset)) ∧
      ((¬ ∃ branch, st.Opens branch) → problem.diagnostic source offset =
        .unbalanced problem.message (Place.ofByte source offset)) := by
  cases h with
  | tooDeep hopens => exact ⟨fun _ => rfl, fun hnot => absurd ⟨_, hopens⟩ hnot⟩
  | nothingToClose => exact ⟨fun ⟨_, hopens⟩ => (nomatch hopens), fun _ => rfl⟩
  | withoutIf hsplits | insideEach hsplits | afterElse hsplits =>
      refine ⟨?_, fun _ => rfl⟩
      rintro ⟨_, hopens⟩
      cases hopens <;> cases hsplits

/-! ## The open blocks of a tree under construction -/

/-- The current part of a block. -/
def Opened.branch : Opened → Branch
  | cond _ (some _) => .tested
  | cond _ none => .last
  | each _ => .each

theorem Opened.keyword_branch (opened : Opened) : opened.branch.keyword = opened.keyword := by
  cases opened with
  | cond finished test => cases test <;> rfl
  | each collection => rfl

namespace Builder

variable {b : Builder} {blocks blocks' : List OpenBlock}

/-- The blocks that are open, the innermost one first. -/
def openBlocks (b : Builder) : List OpenBlock := b.frames.map fun f => ⟨f.offset, f.opened.branch⟩

theorem length_openBlocks (b : Builder) : b.openBlocks.length = b.frames.length := List.length_map _

theorem openBlocks_add (b : Builder) (node : Node) : (b.add node).openBlocks = b.openBlocks := by
  obtain ⟨root, frames⟩ := b
  cases frames with
  | nil => rfl
  | cons frame rest => rfl

theorem step_inert {s : Segment} (h : s.Inert) :
    ∃ b', b.step s = .ok b' ∧ b'.openBlocks = b.openBlocks := by
  cases h with
  | silent => exact ⟨b, rfl, rfl⟩
  | text | output | comment | bind | eval => exact ⟨_, rfl, openBlocks_add b _⟩

theorem statement_opens {st : Statement} {branch : Branch} (h : st.Opens branch) (offset : Nat) :
    ∃ opened, opened.branch = branch ∧ b.statement offset st = b.push offset opened := by
  cases h with
  | cond test => exact ⟨.cond [] (some test), rfl, rfl⟩
  | each collection => exact ⟨.each collection, rfl, rfl⟩

theorem statement_splits {st : Statement} {keyword : Keyword} {branch : Branch}
    (h : st.Splits keyword branch) (offset : Nat) :
    ∃ test, (∀ finished, (Opened.cond finished test).branch = branch) ∧
      b.statement offset st = b.split offset keyword test := by
  cases h with
  | elseCond test => exact ⟨some test, fun _ => rfl, rfl⟩
  | otherwise => exact ⟨none, fun _ => rfl, rfl⟩

/-- A step follows what the segment makes of the open blocks. -/
theorem step_of_moves {s : Segment} (h : Moves b.openBlocks s blocks') :
    ∃ b', b.step s = .ok b' ∧ b'.openBlocks = blocks' := by
  generalize hblocks : b.openBlocks = blocks at h
  obtain ⟨root, frames⟩ := b
  cases h with
  | inert hs => exact hblocks ▸ step_inert hs
  | @opening blocks st branch offset hopens hroom =>
      obtain ⟨opened, rfl, hstep⟩ := statement_opens (b := ⟨root, frames⟩) hopens offset
      have hlt : frames.length < maxBlockDepth := by
        rwa [← hblocks, length_openBlocks] at hroom
      exact ⟨_, hstep.trans (push_eq_ok_iff.mpr ⟨hlt, rfl⟩), by rw [← hblocks]; rfl⟩
  | @split blocks offset st keyword branch place hsplits =>
      obtain ⟨test, hbranch, hstep⟩ := statement_splits (b := ⟨root, frames⟩) hsplits place
      obtain ⟨⟨start, opened, body⟩, rest, rfl, hframe, rfl⟩ := List.map_eq_cons_iff.mp hblocks
      obtain ⟨rfl, hopened⟩ := OpenBlock.mk.inj hframe
      match opened, hopened with
      | .cond finished (some current), _ =>
          refine ⟨_, hstep.trans rfl, ?_⟩
          rw [openBlocks, List.map_cons, hbranch]
  | @close block blocks place =>
      obtain ⟨frame, rest, rfl, -, rfl⟩ := List.map_eq_cons_iff.mp hblocks
      exact ⟨_, rfl, openBlocks_add _ _⟩

/-- A mistake is reported at the statement that makes it. -/
theorem statement_of_mistake {st : Statement} {problem : BlockProblem}
    (h : Mistake b.openBlocks st problem) (offset : Nat) :
    b.statement offset st = .error ⟨problem, offset⟩ := by
  generalize hblocks : b.openBlocks = blocks at h
  obtain ⟨root, frames⟩ := b
  cases h with
  | tooDeep hopens hdepth =>
      obtain ⟨opened, -, hstep⟩ := statement_opens (b := ⟨root, frames⟩) hopens offset
      rw [← hblocks, length_openBlocks] at hdepth
      have hle : maxBlockDepth ≤ frames.length := Nat.le_of_eq hdepth.symm
      rw [hstep, push, if_pos hle]
  | nothingToClose =>
      obtain rfl := List.map_eq_nil_iff.mp hblocks
      rfl
  | withoutIf hsplits =>
      obtain ⟨test, -, hstep⟩ := statement_splits (b := ⟨root, frames⟩) hsplits offset
      obtain rfl := List.map_eq_nil_iff.mp hblocks
      exact hstep
  | insideEach hsplits =>
      obtain ⟨test, -, hstep⟩ := statement_splits (b := ⟨root, frames⟩) hsplits offset
      obtain ⟨⟨start, opened, body⟩, rest, rfl, hframe, -⟩ := List.map_eq_cons_iff.mp hblocks
      match opened, (OpenBlock.mk.inj hframe).2 with
      | .each _, _ => exact hstep
  | afterElse hsplits =>
      obtain ⟨test, -, hstep⟩ := statement_splits (b := ⟨root, frames⟩) hsplits offset
      obtain ⟨⟨start, opened, body⟩, rest, rfl, hframe, -⟩ := List.map_eq_cons_iff.mp hblocks
      match opened, (OpenBlock.mk.inj hframe).2 with
      | .cond _ none, _ => exact hstep

/-! ## Taking in a row -/

theorem steps_concat {row : List Segment} {b' : Builder} (h : b.steps row = .ok b')
    (s : Segment) : b.steps (row ++ [s]) = b'.step s := by
  rw [steps_append, h, Except.bind, steps]
  cases b'.step s <;> rfl

theorem steps_of_moves {row : List Segment} {s : Segment} {b' : Builder}
    (h : b.steps row = .ok b') (hmoves : Moves b'.openBlocks s blocks) :
    ∃ next, b.steps (row ++ [s]) = .ok next ∧ next.openBlocks = blocks := by
  rw [steps_concat h]
  exact step_of_moves hmoves

/-- A row adds the block that it does not close, if there is room for its blocks. -/
theorem steps_of_row {n : Nat} {block? : Option OpenBlock} {row : List Segment}
    (h : Row n block? row) (hroom : n + (block?.toList ++ b.openBlocks).length ≤ 128) :
    ∃ b', b.steps row = .ok b' ∧ b'.openBlocks = block?.toList ++ b.openBlocks := by
  induction h generalizing b with
  | nil => exact ⟨b, rfl, rfl⟩
  | opening offset hopens =>
      have hlt : b.openBlocks.length < 128 := by
        simp only [Option.toList_some, List.length_append, List.length_singleton] at hroom
        omega
      have hnil : b.steps [] = .ok b := rfl
      exact steps_of_moves hnil (.opening offset hopens hlt)
  | inert hrow hs ih =>
      obtain ⟨b', hsteps, hopen⟩ := ih hroom
      rw [← hopen]
      exact steps_of_moves hsteps (.inert hs)
  | split place hrow hsplits ih =>
      obtain ⟨b', hsteps, hopen⟩ := ih hroom
      exact steps_of_moves hsteps (hopen ▸ .split place hsplits)
  | @block n block? row block inner place hrow hinner ih ihinner =>
      obtain ⟨outer, houter, hopen⟩ := ih hroom
      obtain ⟨b', hsteps, hopen'⟩ := ihinner (b := outer) (by
        simp only [hopen, Option.toList_some, List.length_append, List.length_singleton] at hroom ⊢
        omega)
      have hall : b.steps (row ++ inner) = .ok b' := by rw [steps_append, houter]; exact hsteps
      rw [← List.append_assoc, ← hopen]
      exact steps_of_moves hall (hopen' ▸ .close place)

theorem steps_of_leavesOpen {row : List Segment} (h : LeavesOpen blocks row) :
    ∃ b, empty.steps row = .ok b ∧ b.openBlocks = blocks := by
  induction h with
  | none h => exact steps_of_row h (Nat.le_refl _)
  | @block n block blocks outer row _ hroom hrow ih =>
      obtain ⟨b, hsteps, rfl⟩ := ih
      obtain ⟨b', hsteps', hopen⟩ := steps_of_row hrow (Nat.le_of_eq hroom)
      exact ⟨b', by rw [steps_append, hsteps]; exact hsteps', hopen⟩

/-- A row is either taken in, and then the blocks that it leaves open are the open ones, or it has
a mistake, and then its first one is reported. -/
theorem steps_cases (row : List Segment) :
    (∃ b, empty.steps row = .ok b ∧ LeavesOpen b.openBlocks row) ∨
      ∃ front st blocks e, Misplaced row front st blocks e ∧ empty.steps row = .error e := by
  induction row using List.reverseRecOn with
  | nil => exact .inl ⟨empty, rfl, .none .nil⟩
  | append_singleton row s ih =>
      rcases ih with ⟨b, hsteps, hopen⟩ | ⟨front, st, blocks, e, hfirst, hsteps⟩
      · rcases moves_or_mistake hopen.length_le s with ⟨blocks, hmoves⟩ | hmistake
        · obtain ⟨b', hsteps', rfl⟩ := steps_of_moves hsteps hmoves
          exact .inl ⟨b', hsteps', hopen.moves hmoves⟩
        · obtain ⟨st, offset, problem, rfl, hmistake⟩ := hmistake
          refine .inr ⟨row, st, b.openBlocks, ⟨problem, offset⟩, ?_, ?_⟩
          · exact ⟨List.prefix_rfl, hopen, hmistake⟩
          · rw [steps_concat hsteps]
            exact statement_of_mistake hmistake offset
      · have hstart := hfirst.start.trans (List.prefix_append row [s])
        refine .inr ⟨front, st, blocks, e, ⟨hstart, hfirst.leaves, hfirst.mistake⟩, ?_⟩
        rw [steps_append, hsteps]
        rfl

theorem finish_of_openBlocks {block : OpenBlock} (h : b.openBlocks = block :: blocks) :
    b.finish = .error ⟨.unclosed block.branch.keyword, block.offset⟩ := by
  obtain ⟨root, frames⟩ := b
  obtain ⟨frame, rest, rfl, rfl, -⟩ := List.map_eq_cons_iff.mp h
  rw [Opened.keyword_branch]
  rfl

end Builder

/-! ## Which rows are completable -/

/-- A row is completable exactly if all its segments are taken in. -/
theorem completable_iff {row : List Segment} :
    Completable row ↔ ∃ b, Builder.empty.steps row = .ok b := by
  constructor
  · rintro ⟨ends, -, hrow⟩
    obtain ⟨b, hsteps, -⟩ := Builder.steps_of_leavesOpen (.none hrow)
    rw [Builder.steps_append] at hsteps
    obtain ⟨b', hsteps', -⟩ := bind_eq_ok_iff.mp hsteps
    exact ⟨b', hsteps'⟩
  · rintro ⟨b, hsteps⟩
    rcases Builder.steps_cases row with ⟨_, -, hopen⟩ | ⟨_, _, _, _, -, herror⟩
    · exact hopen.completable
    · exact nomatch hsteps.symm.trans herror

theorem Completable.of_start {row p : List Segment} (h : Completable row) (hp : p <+: row) :
    Completable p := by
  obtain ⟨rest, rfl⟩ := hp
  obtain ⟨b, hsteps⟩ := completable_iff.mp h
  rw [Builder.steps_append] at hsteps
  obtain ⟨b', hsteps', -⟩ := bind_eq_ok_iff.mp hsteps
  exact completable_iff.mpr ⟨b', hsteps'⟩

namespace Misplaced

variable {row front : List Segment} {st : Statement} {blocks : List OpenBlock} {e : BlockError}

/-- No end of a block helps behind a statement that cannot stand where it does. -/
theorem not_completable (h : Misplaced row front st blocks e) :
    ¬ Completable (front ++ [.statement st e.offset]) := by
  intro hcompletable
  obtain ⟨b, hfront, rfl⟩ := Builder.steps_of_leavesOpen h.leaves
  obtain ⟨b', hsteps⟩ := completable_iff.mp hcompletable
  rw [Builder.steps_concat hfront] at hsteps
  exact nomatch hsteps.symm.trans (Builder.statement_of_mistake h.mistake e.offset)

/-- The starts of a row up to a misplaced statement are completable. -/
theorem length_lt (h : Misplaced row front st blocks e) {p : List Segment} (hp : p <+: row)
    (hnot : ¬ Completable p) : front.length < p.length := by
  by_contra hle
  have hfront := (List.prefix_append front [.statement st e.offset]).trans h.start
  exact hnot (h.leaves.completable.of_start
    (List.prefix_of_prefix_length_le hp hfront (Nat.le_of_not_lt hle)))

end Misplaced

theorem Node.ofSegments_of_leavesOpen {block : OpenBlock} {blocks : List OpenBlock}
    {row : List Segment} (h : LeavesOpen (block :: blocks) row) :
    Node.ofSegments row = .error ⟨.unclosed block.branch.keyword, block.offset⟩ := by
  obtain ⟨b, hsteps, hopen⟩ := Builder.steps_of_leavesOpen h
  rw [Node.ofSegments, hsteps]
  exact Builder.finish_of_openBlocks hopen

/-- A row has a tree exactly if it is well nested. -/
theorem Node.exists_ofSegments_iff {row : List Segment} :
    (∃ nodes, Node.ofSegments row = .ok nodes) ↔ WellNested row := by
  constructor
  · rintro ⟨nodes, h⟩
    obtain ⟨b, hsteps, hfinish⟩ := bind_eq_ok_iff.mp h
    rcases Builder.steps_cases row with ⟨_, hsteps', hopen⟩ | ⟨_, _, _, _, -, herror⟩
    · cases hsteps.symm.trans hsteps'
      cases hblocks : b.openBlocks with
      | nil => exact (hblocks ▸ hopen).wellNested
      | cons => exact nomatch hfinish.symm.trans (Builder.finish_of_openBlocks hblocks)
    · exact nomatch hsteps.symm.trans herror
  · intro h
    obtain ⟨⟨root, frames⟩, hsteps, hopen⟩ := Builder.steps_of_leavesOpen (.none h)
    obtain rfl := List.map_eq_nil_iff.mp hopen
    exact ⟨root.reverse, bind_eq_ok_iff.mpr ⟨_, hsteps, rfl⟩⟩

/-- Building a tree reports exactly the first mistake of a row. It fails exactly if the row is not
well nested. If a start of the row is not completable, the report is about the last statement of
the shortest such start, which cannot stand where the blocks before it are open; it is one about
syntax if that statement would open a block too deep, and one about pairing otherwise. If all
starts are completable, the report is about the innermost block that is still open. -/
theorem Node.ofSegments_reports_first (segments : List Segment) (source : List Char) :
    ((∃ e, Node.ofSegments segments = .error e) ↔ ¬ WellNested segments) ∧
      ((∃ p, p <+: segments ∧ ¬ Completable p) →
        ∃ front st blocks e, Misplaced segments front st blocks e ∧
          ¬ Completable (front ++ [.statement st e.offset]) ∧
          (∀ p, p <+: segments → ¬ Completable p → front.length < p.length) ∧
          Node.ofSegments segments = .error e ∧
          ((∃ branch, st.Opens branch) → e.problem.diagnostic source e.offset =
            .malformed e.problem.message none (Place.ofByte source e.offset)) ∧
          ((¬ ∃ branch, st.Opens branch) → e.problem.diagnostic source e.offset =
            .unbalanced e.problem.message (Place.ofByte source e.offset))) ∧
      ((∀ p, p <+: segments → Completable p) → ¬ WellNested segments →
        ∃ block blocks, LeavesOpen (block :: blocks) segments ∧
          Node.ofSegments segments = .error ⟨.unclosed block.branch.keyword, block.offset⟩ ∧
          (BlockProblem.unclosed block.branch.keyword).diagnostic source block.offset =
            .unbalanced (BlockProblem.unclosed block.branch.keyword).message
              (Place.ofByte source block.offset)) := by
  refine ⟨?_, ?_, ?_⟩
  · rw [← exists_ofSegments_iff]
    cases Node.ofSegments segments with
    | ok nodes => simp
    | error e => simp
  · rintro ⟨p, hp, hnot⟩
    rcases Builder.steps_cases segments with ⟨b, hsteps, -⟩ | hmisplaced
    · exact absurd ((completable_iff.mpr ⟨b, hsteps⟩).of_start hp) hnot
    · obtain ⟨front, st, blocks, e, hmisplaced, hsteps⟩ := hmisplaced
      refine ⟨front, st, blocks, e, hmisplaced, hmisplaced.not_completable,
        fun _ => hmisplaced.length_lt, ?_, hmisplaced.mistake.diagnostic_eq source e.offset⟩
      rw [Node.ofSegments, hsteps]
      rfl
  · intro hall hnested
    obtain ⟨b, hsteps⟩ := completable_iff.mp (hall segments List.prefix_rfl)
    rcases Builder.steps_cases segments with ⟨_, -, hopen⟩ | ⟨_, _, _, _, -, herror⟩
    · generalize Builder.openBlocks _ = blocks at hopen
      cases blocks with
      | nil => exact absurd hopen.wellNested hnested
      | cons block blocks =>
          exact ⟨block, blocks, hopen, ofSegments_of_leavesOpen hopen, rfl⟩
    · exact nomatch hsteps.symm.trans herror

/-- A second test behind the branch that has none. -/
theorem Node.ofSegments_reports_first_afterElse :
    let row : List Segment := [.statement (.cond (.name "a")) 0, .statement .otherwise 8,
      .text "b".toList, .statement (.elseCond (.name "c")) 19, .statement .close 30]
    (∃ p, p <+: row ∧ ¬ Completable p) ∧
      ∃ front st blocks e, Misplaced row front st blocks e ∧ Node.ofSegments row = .error e ∧
        e = ⟨.afterElse .elifWord, 19⟩ := by
  intro row
  have hnot : ∃ p, p <+: row ∧ ¬ Completable p := by
    refine ⟨row, List.prefix_rfl, fun h => ?_⟩
    obtain ⟨b, hsteps⟩ := completable_iff.mp h
    exact nomatch hsteps
  obtain ⟨front, st, blocks, e, hmisplaced, -, -, herror, -⟩ :=
    (ofSegments_reports_first row []).2.1 hnot
  exact ⟨hnot, front, st, blocks, e, hmisplaced, herror,
    Except.error.inj (herror.symm.trans rfl)⟩

end Stencil
