import Stencil.Proofs.Acceptance
import Stencil.Proofs.Tokenization

/-! # Where reading fails

Every part of the parser goes on from one place between tokens to another behind it, and where it
fails it reports such a place. So the byte of a problem never lies behind the end of the text.
-/

namespace Stencil

namespace Cursor

/-- One place lies behind another, or it is the same. -/
structure Behind (c c' : Cursor) : Prop where
  rest : c'.rest <:+ c.rest
  stop : c'.stop = c.stop

theorem Behind.refl (c : Cursor) : c.Behind c := ⟨List.suffix_rfl, rfl⟩

theorem Behind.trans {c c' c'' : Cursor} (h : c.Behind c') (h' : c'.Behind c'') : c.Behind c'' :=
  ⟨h'.rest.trans h.rest, h'.stop.trans h.stop⟩

theorem Advances.behind {c c' : Cursor} {ts : List Token} {n : Nat} (h : c.Advances ts n c') :
    c.Behind c' :=
  ⟨⟨ts, h.rest.symm⟩, h.stop.symm⟩

/-- A result read at a place is behind it, given where a result is, and an error is about a place
behind it. -/
def Locates {β : Type} (c : Cursor) (place : β → Cursor) : Except ParseError β → Prop
  | .ok b => c.Behind (place b)
  | .error e => ∃ c', c.Behind c' ∧ e.pos = c'.here

variable {β γ : Type} {c : Cursor} {place : β → Cursor} {place' : γ → Cursor}

theorem Locates.of_behind {c' : Cursor} (hc : c.Behind c') {x : Except ParseError β}
    (h : c'.Locates place x) : c.Locates place x := by
  cases x with
  | ok b => exact hc.trans h
  | error e =>
      obtain ⟨c'', hbehind, hpos⟩ := h
      exact ⟨c'', hc.trans hbehind, hpos⟩

/-- Steps one behind the other lead behind the place where the first one starts. -/
theorem Locates.bind {x : Except ParseError β} {f : β → Except ParseError γ}
    (hx : c.Locates place x) (hf : ∀ b, (place b).Locates place' (f b)) :
    c.Locates place' (x >>= f) := by
  cases x with
  | error e => exact hx
  | ok b => exact .of_behind hx (hf b)

theorem locates_error_here {e : ParseError} (h : e.pos = c.here) :
    c.Locates place (.error e) :=
  ⟨c, .refl c, h⟩

theorem behind_of_sign? {s : Sign} {after : Cursor} (h : c.sign? = some (s, after)) :
    c.Behind after := by
  obtain ⟨_, hadv⟩ := sign?_eq_some_iff.mp h
  exact hadv.behind

theorem locates_spend (c : Cursor) : c.Locates id c.spend := by
  unfold spend
  split
  next => exact locates_error_here rfl
  next => exact ⟨List.suffix_rfl, rfl⟩

theorem locates_expect (s : Sign) (problem : Problem) (c : Cursor) :
    c.Locates id (c.expect s problem) := by
  unfold expect
  split
  next t after hsign =>
    split
    next => exact behind_of_sign? hsign
    next => exact locates_error_here rfl
  next => exact locates_error_here rfl

end Cursor

namespace Parser

open Cursor

/-- A part of the parser reads on from every place, and fails behind it. -/
def Located {α : Type} (p : Parser α) : Prop := ∀ c, Cursor.Locates c Prod.snd (p c)

theorem chainFrom_located {operand : Parser Expr} (h : Located operand) (level : Level)
    (turns : Nat) (left : Expr) : Located (chainFrom level operand turns left) := by
  induction turns generalizing left with
  | zero => exact Behind.refl
  | succ turns ih =>
      intro c
      unfold chainFrom
      split
      next => exact Behind.refl c
      next sign after hsign =>
        split
        next => exact Behind.refl c
        next connective _ =>
          refine .of_behind (behind_of_sign? hsign) ((locates_spend after).bind fun c => ?_)
          exact (h c).bind fun _ => ih _ _

theorem chain_located {operand : Parser Expr} (h : Located operand) (level : Level) :
    Located (chain level operand) :=
  fun c => (h c).bind fun _ => chainFrom_located h level _ _ _

theorem joined_located {operand : Parser Expr} (h : Located operand) :
    Located (joined operand) := by
  unfold joined
  induction Level.all with
  | nil => exact h
  | cons level levels ih => exact chain_located ih level

/-- What may stand inside is read on from every place. -/
structure Inner.Located (i : Inner) : Prop where
  whole : Parser.Located i.whole
  operand : Parser.Located i.operand

section

variable {i : Inner}

theorem primary_located (h : i.Located) : Located (primary i) := by
  intro c
  unfold primary
  split
  next hrest => exact locates_error_here (by rw [here, hrest])
  next token rest hrest =>
    have hafter : c.Behind { c with rest } := ⟨hrest ▸ List.suffix_cons token rest, rfl⟩
    split
    case h_6 =>
      refine .of_behind hafter ((h.whole _).bind fun b => ?_)
      exact (locates_expect _ _ b.2).bind fun c => Behind.refl c
    case h_7 => exact locates_error_here (by rw [here, hrest])
    all_goals exact hafter

theorem accessFrom_located (h : i.Located) (turns : Nat) (base : Expr) :
    Located (accessFrom i turns base) := by
  induction turns generalizing base with
  | zero => exact Behind.refl
  | succ turns ih =>
      intro c
      unfold accessFrom
      split
      next after hsign =>
        refine .of_behind (behind_of_sign? hsign) ((locates_spend after).bind fun c => ?_)
        simp only [id]
        split
        next id pos rest hrest =>
          have hafter : c.Behind { c with rest } :=
            ⟨by rw [hrest]; exact List.suffix_cons _ rest, rfl⟩
          exact .of_behind hafter (ih _ _)
        next token rest _ hrest => exact locates_error_here (by rw [here, hrest])
        next hrest => exact locates_error_here (by rw [here, hrest])
      next after hsign =>
        refine .of_behind (behind_of_sign? hsign) ((locates_spend after).bind fun c => ?_)
        refine (h.whole c).bind fun b => (locates_expect _ _ b.2).bind fun c => ih _ c
      next => exact Behind.refl c

theorem postfixed_located (h : i.Located) : Located (postfixed i) :=
  fun c => (primary_located h c).bind fun _ => accessFrom_located h _ _ _

theorem unary_located (h : i.Located) : Located (unary i) := by
  intro c
  unfold unary
  split
  next => exact postfixed_located h c
  next sign after hsign =>
    split
    next => exact postfixed_located h c
    next =>
      refine .of_behind (behind_of_sign? hsign) ((locates_spend after).bind fun c => ?_)
      exact (h.operand c).bind fun b => Behind.refl b.2

end

theorem inner_located (depth : Nat) : (inner depth).Located := by
  induction depth with
  | zero => exact ⟨fun _ => locates_error_here rfl, fun _ => locates_error_here rfl⟩
  | succ depth ih => exact ⟨joined_located (unary_located ih), unary_located ih⟩

theorem expression_located : Located expression :=
  joined_located (unary_located (inner_located maxDepth))

/-- The names of filters are read up to some tokens, or the reading fails in front of some. -/
theorem filterNames_located (stop spare : Nat) (ts : List Token) :
    Cursor.Locates ⟨ts, stop, spare⟩ (fun b => ⟨b.2, stop, spare⟩) (filterNames stop ts) := by
  fun_induction filterNames stop ts with
  | case1 pipe => exact ⟨⟨[], stop, spare⟩, ⟨List.nil_suffix, rfl⟩, rfl⟩
  | case2 pipe id pos rest ih =>
      have hrest : Cursor.Behind ⟨⟨.sign .pipe, pipe⟩ :: ⟨.name id, pos⟩ :: rest, stop, spare⟩
          ⟨rest, stop, spare⟩ :=
        ⟨(List.suffix_cons _ rest).trans (List.suffix_cons _ _), rfl⟩
      exact .of_behind hrest (ih.bind fun b => Behind.refl _)
  | case3 pipe token rest =>
      exact ⟨⟨token :: rest, stop, spare⟩, ⟨List.suffix_cons _ _, rfl⟩, rfl⟩
  | case4 rest => exact Behind.refl _

theorem pipeline_located : Located pipeline := by
  intro c
  refine (expression_located c).bind fun b => ?_
  exact (filterNames_located b.2.stop b.2.spare b.2.rest).bind fun names => Behind.refl _

/-- A part that must reach the end fails behind the place where it starts. -/
theorem exists_behind_of_toEnd_error {α : Type} {part : Parser α} (h : Located part) {c : Cursor}
    {e : ParseError} (herror : toEnd part c = .error e) :
    ∃ c', c.Behind c' ∧ e.pos = c'.here := by
  rcases Grammar.toEnd_eq_error_iff.mp herror with hpart | ⟨a, c', token, rest, hpart, hrest, rfl⟩
  · have := h c
    rwa [hpart] at this
  · have := h c
    rw [hpart] at this
    exact ⟨c', this, by rw [here, hrest]⟩

end Parser

namespace Lexer

/-- A text that has no tokens has its problem at one of its characters. -/
theorem pos_of_tokens_error {source : List Char} {e : ParseError}
    (h : tokens source = .error e) : e.pos ≤ Text.size source := by
  obtain ⟨ts, stop, rest, hcovered, hrest⟩ := exists_covered 0 source
  have hsize := hcovered.size
  rw [tokens, hcovered.tokensFrom] at h
  rcases hrest with rfl | ⟨c, behind, problem, rfl, hblank, hproblem⟩
  · rw [tokensFrom_nil] at h
    cases h
  · rw [tokensFrom_of_unspelled hblank hproblem] at h
    cases h
    simp only
    omega

end Lexer

/-- A place between the tokens of a text does not lie behind its end. -/
theorem Cursor.here_le_size {source : List Char} {ts : List Token} {spare : Nat} {c : Cursor}
    (htokens : Lexer.tokens source = .ok ts)
    (h : Cursor.Behind ⟨ts, Text.size source, spare⟩ c) : c.here ≤ Text.size source := by
  unfold here
  split
  next => exact Nat.le_of_eq h.stop
  next token rest hrest =>
    have hmem : token ∈ ts := h.rest.subset (hrest ▸ List.mem_cons_self)
    exact Nat.le_of_lt ((Lexer.tokens_eq_ok_iff.mp htokens).bounds.2 token hmem).2

/-- The problem of a text that is no pipeline lies in the text or at its end. -/
theorem Pipeline.pos_of_parse_error {source : List Char} {e : ParseError}
    (h : Pipeline.parse source = .error e) : e.pos ≤ Text.size source := by
  rcases bind_eq_error_iff.mp h with hstart | ⟨c, hstart, hread⟩
  · rcases bind_eq_error_iff.mp hstart with htokens | ⟨ts, -, hok⟩
    · exact Lexer.pos_of_tokens_error htokens
    · exact nomatch hok
  · obtain ⟨ts, htokens, rfl⟩ := Grammar.start_eq_ok_iff.mp hstart
    obtain ⟨c', hbehind, hpos⟩ :=
      Parser.exists_behind_of_toEnd_error Parser.pipeline_located hread
    rw [hpos]
    exact Cursor.here_le_size htokens hbehind

end Stencil
