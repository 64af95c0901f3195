import Stencil.Proofs.Division
import Stencil.Proofs.Rejection
import Stencil.Proofs.Tokenization

/-! # The first mistake in a text

An expression or a pipeline that is rejected, except at a bound, is rejected at its first mistake.
The tokens before the byte of the problem start a text that is accepted, and no row of tokens that
the grammar derives starts with them and the token at this byte.
-/

namespace Stencil

namespace Grammar

open Stencil.Parser

/-- The tokens stand for an expression. -/
def IsExpression (ts : List Token) : Prop := ∃ n e, Derives n whole ts e

/-- The tokens are names of filters behind pipe signs. -/
def AreFilters (ts : List Token) : Prop := ∃ filters, Filters ts filters

/-- The tokens stand for an expression with filters behind it. -/
def IsPipeline (ts : List Token) : Prop := ∃ us vs, ts = us ++ vs ∧ IsExpression us ∧ AreFilters vs

/-- Tokens that stop where no phrase goes on with them: the tokens `before` can be completed to what
is accepted, and no phrase starts with them and the next of the tokens `behind`, or ends with them
if there is none. -/
structure DeadEnd (Accepted Phrase : List Token → Prop) (stop : Nat) (ts : List Token) (pos : Nat)
    (before behind : List Token) : Prop where
  eq : ts = before ++ behind
  place : pos = Token.firstByte stop behind
  completes : ∃ us, Accepted (before ++ us) ∧ ∀ u ∈ us, u.kind ∈ closers
  excludes : ∀ tail, tail.head? = behind.head? → ¬ Phrase (before ++ tail)

/-! ## Expressions and what stands behind them -/

/-- The tokens are an expression within the bounds and then tokens of a given form. -/
def Within (operators : Nat) (Behind : List Token → Prop) (ts : List Token) : Prop :=
  ∃ us vs e, ts = us ++ vs ∧ Expression maxDepth operators us e ∧ Behind vs

/-- The tokens are an expression and then tokens of a given form. -/
def Leads (Behind : List Token → Prop) (ts : List Token) : Prop :=
  ∃ us vs, ts = us ++ vs ∧ IsExpression us ∧ Behind vs

section Behind

variable {Behind : List Token → Prop} {c c' : Cursor} {e : Expr} {problem : Problem} {pos : Nat}
  {before behind : List Token}

/-- Where no expression can be read, no row of tokens leads on. -/
theorem deadEnd_of_expression_error (hnil : Behind []) (hstops : ∀ vs, Behind vs → Stops vs)
    (h : expression c = .error ⟨problem, pos⟩) (hbound : ¬ problem.IsBound) :
    ∃ before behind,
      DeadEnd (Within c.spare Behind) (Leads Behind) c.stop c.rest pos before behind := by
  obtain ⟨before, behind, himpasse⟩ := whole_refuses maxDepth c problem pos h hbound
  refine ⟨before, behind, himpasse.rest, himpasse.place, ?_, ?_⟩
  · obtain ⟨us, e, hus, hroom, hclosers⟩ := himpasse.completes
    exact ⟨us, ⟨_, [], e, (List.append_nil _).symm, ⟨hus, hroom⟩, hnil⟩, hclosers⟩
  · rintro tail htail ⟨us, vs, heq, ⟨n, e, he⟩, hvs⟩
    -- the parser with enough nesting and enough operators would read the expression
    have hread := (whole_reads (max n maxDepth) ⟨before ++ tail, c.stop, c.spare + e.operators⟩ e
      ⟨vs, c.stop, c.spare⟩).mpr
        ⟨us, he.mono (Nat.le_max_left _ _), ⟨heq, rfl, rfl⟩, Stops.ends (hstops vs hvs)⟩
    exact himpasse.fails tail c.stop _ htail _ (Nat.le_max_right _ _) _ hread

/-- What goes wrong behind an expression goes wrong for the whole. -/
theorem DeadEnd.behind_expression (hstops : ∀ vs, Behind vs → Stops vs)
    (hread : expression c = .ok (e, c'))
    (h : DeadEnd Behind Behind c'.stop c'.rest pos before behind) :
    ∃ before' behind',
      DeadEnd (Within c.spare Behind) (Leads Behind) c.stop c.rest pos before' behind' := by
  obtain ⟨ts, hts, hadv, hends⟩ := (whole_reads maxDepth c e c').mp hread
  refine ⟨ts ++ before, behind, ?_, ?_, ?_, ?_⟩
  · rw [hadv.rest, h.eq, List.append_assoc]
  · rw [h.place, hadv.stop]
  · obtain ⟨us, hus, hclosers⟩ := h.completes
    have he : Expression maxDepth c.spare ts e := ⟨hts, hadv.spare ▸ Nat.le_add_left _ _⟩
    exact ⟨us, ⟨ts, before ++ us, e, List.append_assoc _ _ _, he, hus⟩, hclosers⟩
  · rintro tail htail ⟨us, vs, heq, ⟨n, e', he'⟩, hvs⟩
    have hstop : Stops (before ++ tail) := by
      apply Stops.of_ends hends
      rw [h.eq, List.head?_append, htail, ← List.head?_append]
    rw [List.append_assoc] at heq
    obtain ⟨-, rfl⟩ := derives_unique hts he' heq hstop (hstops vs hvs)
    exact h.excludes tail htail (List.append_cancel_left heq ▸ hvs)

end Behind

/-- Where an expression ends before the text does, no expression goes on. -/
theorem expression_deadEnd {c : Cursor} {problem : Problem} {pos : Nat}
    (h : toEnd expression c = .error ⟨problem, pos⟩) (hbound : ¬ problem.IsBound) :
    ∃ before behind,
      DeadEnd (Within c.spare (· = [])) (Leads (· = [])) c.stop c.rest pos before behind := by
  have hstops : ∀ vs : List Token, vs = [] → Stops vs := fun _ hvs => hvs ▸ stops_nil
  rcases toEnd_eq_error_iff.mp h with herror | ⟨e, c', token, rest, hread, hrest, heq⟩
  · exact deadEnd_of_expression_error rfl hstops herror hbound
  · cases heq
    have hdead : DeadEnd (· = []) (· = []) c'.stop c'.rest token.pos [] (token :: rest) := by
      refine ⟨hrest, rfl, ⟨[], rfl, by simp⟩, ?_⟩
      rintro tail htail rfl
      exact nomatch htail
    exact hdead.behind_expression hstops hread

/-- The reading of filter names fails at byte `pos`, or it leaves a token behind that starts there. -/
def FiltersEnd (stop : Nat) (ts : List Token) (pos : Nat) : Prop :=
  (∃ problem, filterNames stop ts = .error ⟨problem, pos⟩) ∨
    ∃ filters token rest, filterNames stop ts = .ok (filters, token :: rest) ∧ token.pos = pos

/-- Where the reading of filter names ends before the tokens do, no names of filters go on. -/
theorem filterNames_deadEnd {stop pos : Nat} {ts : List Token} (h : FiltersEnd stop ts pos) :
    ∃ before behind, DeadEnd AreFilters AreFilters stop ts pos before behind := by
  unfold FiltersEnd at h
  fun_induction filterNames stop ts with
  | case1 pipe =>
      obtain ⟨problem, h⟩ | ⟨_, _, _, h, -⟩ := h
      · cases h
        refine ⟨[⟨.sign .pipe, pipe⟩], [], rfl, rfl, ?_, ?_⟩
        · exact ⟨[⟨.name "x", 0⟩], ⟨_, .cons pipe "x" 0 .nil⟩, by simp [closers]⟩
        · rintro tail htail ⟨filters, hfilters⟩
          obtain rfl := List.head?_eq_none_iff.mp htail
          cases hfilters
      · cases h
  | case2 pipe id at_ rest ih =>
      have hrest : FiltersEnd stop rest pos := by
        obtain ⟨problem, h⟩ | ⟨filters, token, behind, h, hpos⟩ := h
        · rcases bind_eq_error_iff.mp h with h | ⟨_, _, h⟩
          · exact .inl ⟨problem, h⟩
          · cases h
        · obtain ⟨⟨names, _⟩, hnames, heq⟩ := bind_eq_ok_iff.mp h
          cases heq
          exact .inr ⟨names, token, behind, hnames, hpos⟩
      obtain ⟨before, behind, hdead⟩ := ih hrest
      refine ⟨⟨.sign .pipe, pipe⟩ :: ⟨.name id, at_⟩ :: before, behind, ?_, hdead.place, ?_, ?_⟩
      · rw [hdead.eq]
        rfl
      · obtain ⟨us, ⟨filters, hfilters⟩, hclosers⟩ := hdead.completes
        exact ⟨us, ⟨_, .cons pipe id at_ hfilters⟩, hclosers⟩
      · rintro tail htail ⟨_, _ | ⟨_, _, _, hfilters⟩⟩
        exact hdead.excludes tail htail ⟨_, hfilters⟩
  | case3 pipe token rest hname =>
      obtain ⟨problem, h⟩ | ⟨_, _, _, h, -⟩ := h
      · cases h
        refine ⟨[⟨.sign .pipe, pipe⟩], token :: rest, rfl, rfl, ?_, ?_⟩
        · exact ⟨[⟨.name "x", 0⟩], ⟨_, .cons pipe "x" 0 .nil⟩, by simp [closers]⟩
        · rintro tail htail ⟨filters, hfilters⟩
          obtain ⟨tail, rfl⟩ := List.head?_eq_some_iff.mp htail
          cases hfilters with
          | cons _ id at_ _ => exact hname id at_ rfl
      · cases h
  | case4 rest hlast hname hother =>
      obtain ⟨problem, h⟩ | ⟨_, token, rest, h, rfl⟩ := h
      · cases h
      · cases h
        refine ⟨[], token :: rest, rfl, rfl, ⟨[], ⟨_, .nil⟩, by simp⟩, ?_⟩
        rintro tail htail ⟨filters, hfilters⟩
        obtain ⟨tail, rfl⟩ := List.head?_eq_some_iff.mp htail
        cases hfilters with
        | cons pipe _ _ _ =>
            cases rest with
            | nil => exact hlast pipe rfl
            | cons next rest => exact hother pipe next rest rfl

/-- Where a pipeline ends before the text does, no pipeline goes on. -/
theorem pipeline_deadEnd {c : Cursor} {problem : Problem} {pos : Nat}
    (h : toEnd pipeline c = .error ⟨problem, pos⟩) (hbound : ¬ problem.IsBound) :
    ∃ before behind,
      DeadEnd (Within c.spare AreFilters) (Leads AreFilters) c.stop c.rest pos before behind := by
  have hstops : ∀ vs, AreFilters vs → Stops vs := fun _ ⟨_, hfilters⟩ => hfilters.stops
  have hbehind : ∀ {e c'}, expression c = .ok (e, c') → FiltersEnd c'.stop c'.rest pos →
      ∃ before behind,
        DeadEnd (Within c.spare AreFilters) (Leads AreFilters) c.stop c.rest pos before behind := by
    intro e c' hread hnames
    obtain ⟨before, behind, hdead⟩ := filterNames_deadEnd hnames
    exact hdead.behind_expression hstops hread
  rcases toEnd_eq_error_iff.mp h with herror | ⟨p, c', token, rest, hread, hrest, heq⟩
  · rcases bind_eq_error_iff.mp herror with hexpression | ⟨⟨e, c₁⟩, hread, herror⟩
    · exact deadEnd_of_expression_error ⟨_, .nil⟩ hstops hexpression hbound
    · rcases bind_eq_error_iff.mp herror with hnames | ⟨_, _, herror⟩
      · exact hbehind hread (.inl ⟨problem, hnames⟩)
      · exact nomatch herror
  · cases heq
    obtain ⟨⟨e, c₁⟩, hexpression, hpipeline⟩ := bind_eq_ok_iff.mp hread
    obtain ⟨⟨filters, behind⟩, hnames, heq⟩ := bind_eq_ok_iff.mp hpipeline
    cases heq
    obtain rfl : behind = token :: rest := hrest
    exact hbehind hexpression (.inr ⟨filters, token, rest, hnames, rfl⟩)

/-! ## Texts -/

theorem exists_lexeme_of_closer {kind : Token.Kind} (h : kind ∈ closers) :
    ∃ c, ¬ Text.isBlank c ∧ Lexer.lexeme c [] = .ok (kind, 1) := by
  simp only [closers, List.mem_cons, List.not_mem_nil, or_false] at h
  rcases h with rfl | rfl | rfl
  · exact ⟨'x', by decide, by rfl⟩
  · exact ⟨')', by decide, by rfl⟩
  · exact ⟨']', by decide, by rfl⟩

/-- The tokens that close what is open can be written behind a text. -/
theorem exists_tokens_append {front : List Char} {before us : List Token}
    (h : Lexer.tokens front = .ok before) (hus : ∀ u ∈ us, u.kind ∈ closers) :
    ∃ more us', Lexer.tokens (front ++ more) = .ok (before ++ us') ∧
      us'.map Token.kind = us.map Token.kind := by
  induction us generalizing front before with
  | nil => exact ⟨[], [], by rwa [List.append_nil, List.append_nil], rfl⟩
  | cons u us ih =>
      obtain ⟨hu, hus⟩ := List.forall_mem_cons.mp hus
      obtain ⟨c, hblank, hlexeme⟩ := exists_lexeme_of_closer hu
      -- a blank keeps each of them apart from what stands before it
      let t : Token := ⟨u.kind, Text.size front + 1⟩
      have hword : Lexer.tokensFrom (0 + Text.size front + 1) [c] = .ok [t] := by
        simpa [Token.moved, t] using
          Lexer.tokensFrom_of_tokens (Lexer.tokens_of_lexeme hblank hlexeme)
            (0 + Text.size front + 1)
      have hnext : Lexer.tokens (front ++ [' ', c]) = .ok (before ++ [t]) := by
        have happend := Lexer.tokensFrom_append_blank (w := ' ') (by decide) h [c]
        rw [Lexer.tokens, happend, Lexer.tokensFrom_blank (by decide)]
        exact congrArg (Except.map (before ++ ·)) hword
      obtain ⟨more, us', hmore, hkinds⟩ := ih hnext hus
      refine ⟨' ' :: c :: more, t :: us', ?_, ?_⟩
      · simpa only [List.append_assoc, List.cons_append, List.nil_append] using hmore
      · rw [List.map_cons, List.map_cons, hkinds]

/-- A text with the tokens `ts` is rejected at byte `pos`, which is its end or the start of a
token, because of a mistake that was not made before: the text before this byte starts an accepted
text that goes on behind the tokens before it, and with the token at this byte, or with the end of
the text, no row of tokens is a phrase. -/
structure FirstMistake {α : Type} (parse : List Char → Except ParseError α)
    (Phrase : List Token → Prop) (source : List Char) (ts : List Token) (pos : Nat) : Prop where
  place : pos = Text.size source ∨ ∃ t ∈ ts, t.pos = pos
  completes : ∃ more us a,
    Lexer.tokens (Text.take pos source ++ more) = .ok (ts.filter (·.pos < pos) ++ us) ∧
      parse (Text.take pos source ++ more) = .ok a
  excludes : ∀ t ∈ ts, t.pos = pos → ∀ us, ¬ Phrase (ts.filter (·.pos < pos) ++ t :: us)
  atEnd : pos = Text.size source → ¬ Phrase ts

theorem FirstMistake.imp {α : Type} {parse : List Char → Except ParseError α}
    {Phrase Phrase' : List Token → Prop} {source : List Char} {ts : List Token} {pos : Nat}
    (h : FirstMistake parse Phrase source ts pos) (himp : ∀ us, Phrase' us → Phrase us) :
    FirstMistake parse Phrase' source ts pos where
  place := h.place
  completes := h.completes
  excludes t ht hpos us hphrase := h.excludes t ht hpos us (himp _ hphrase)
  atEnd hend hphrase := h.atEnd hend (himp _ hphrase)

/-- A dead end of the tokens of a text is its first mistake. -/
theorem DeadEnd.firstMistake {α : Type} {parse : List Char → Except ParseError α}
    {Accepted Phrase : List Token → Prop} {source : List Char} {ts before behind : List Token}
    {pos : Nat} (htokens : Lexer.tokens source = .ok ts)
    (hkinds : ∀ us us', Accepted us → us'.map Token.kind = us.map Token.kind → Accepted us')
    (hparse : ∀ text us, Lexer.tokens text = .ok us → Accepted us → ∃ a, parse text = .ok a)
    (h : DeadEnd Accepted Phrase (Text.size source) ts pos before behind) :
    FirstMistake parse Phrase source ts pos := by
  obtain ⟨rfl, rfl, ⟨us, hus, hclosers⟩, hexcludes⟩ := h
  have hbounds := (Lexer.tokens_eq_ok_iff.mp htokens).bounds.2
  have hbefore := Lexer.filter_tokens htokens
  refine ⟨?_, ?_, ?_, ?_⟩
  · cases behind with
    | nil => exact .inl rfl
    | cons t behind => exact .inr ⟨t, by simp, rfl⟩
  · obtain ⟨front, ⟨mid, hmid⟩, hfront, hsize⟩ := Lexer.tokens_front htokens
    have htake : Text.take (Token.firstByte (Text.size source) behind) source = front := by
      rw [← hsize, ← hmid, Text.take_size_append]
    obtain ⟨more, us', hmore, hsame⟩ := exists_tokens_append hfront hclosers
    have haccepted : Accepted (before ++ us') :=
      hkinds _ _ hus (by rw [List.map_append, List.map_append, hsame])
    obtain ⟨a, ha⟩ := hparse _ _ hmore haccepted
    exact ⟨more, us', a, by rwa [htake, hbefore], by rwa [htake]⟩
  · intro t ht hpos us hphrase
    rw [hbefore] at hphrase
    cases behind with
    | nil => exact absurd hpos (Nat.ne_of_lt (hbounds t ht).2)
    | cons u behind =>
        obtain rfl := Lexer.eq_of_pos_eq htokens ht (by simp) hpos
        exact hexcludes (t :: us) rfl hphrase
  · intro hend
    cases behind with
    | nil => exact hexcludes [] rfl
    | cons t behind => exact absurd hend (Nat.ne_of_lt (hbounds t (by simp)).2)

theorem Within.of_kinds {operators : Nat} {Behind : List Token → Prop}
    (hbehind : ∀ vs vs', Behind vs → vs'.map Token.kind = vs.map Token.kind → Behind vs')
    {ts ts' : List Token} (h : Within operators Behind ts)
    (hkinds : ts'.map Token.kind = ts.map Token.kind) : Within operators Behind ts' := by
  obtain ⟨us, vs, e, rfl, he, hvs⟩ := h
  rw [List.map_append] at hkinds
  obtain ⟨us', vs', rfl, hus', hvs'⟩ := List.map_eq_append_iff.mp hkinds
  exact ⟨us', vs', e, rfl, ⟨he.1.of_kinds hus', he.2⟩, hbehind vs vs' hvs hvs'⟩

/-- Expressions and pipelines are rejected, except at a bound, at their first mistake. -/
theorem parse_error_first_mistake {source : List Char} {ts : List Token}
    (htokens : Lexer.tokens source = .ok ts) :
    (∀ problem pos, Expr.parse source = .error ⟨problem, pos⟩ → ¬ problem.IsBound →
      FirstMistake Expr.parse IsExpression source ts pos) ∧
    ∀ problem pos, Pipeline.parse source = .error ⟨problem, pos⟩ → ¬ problem.IsBound →
      FirstMistake Pipeline.parse IsPipeline source ts pos := by
  have hstart := fun {text us} (h : Lexer.tokens text = .ok us) => start_eq_ok_iff.mpr ⟨us, h, rfl⟩
  constructor
  · intro problem pos h hbound
    rw [Expr.parse, hstart htokens] at h
    obtain ⟨before, behind, hdead⟩ := expression_deadEnd h hbound
    refine (hdead.firstMistake htokens ?_ ?_).imp ?_
    · exact fun us us' hus => hus.of_kinds fun _ _ hvs hkinds => by simpa [hvs] using hkinds
    · rintro text _ hus ⟨us, _, e, rfl, he, rfl⟩
      rw [Expr.parse, hstart hus]
      exact ⟨e, expression_toEnd_iff.mpr (by rwa [List.append_nil])⟩
    · exact fun us hus => ⟨us, [], (List.append_nil us).symm, hus, rfl⟩
  · intro problem pos h hbound
    rw [Pipeline.parse, hstart htokens] at h
    obtain ⟨before, behind, hdead⟩ := pipeline_deadEnd h hbound
    apply hdead.firstMistake htokens
    · exact fun us us' hus => hus.of_kinds fun _ _ ⟨_, hvs⟩ hkinds => hvs.of_kinds hkinds
    · rintro text _ hus ⟨us, vs, e, rfl, he, filters, hvs⟩
      rw [Pipeline.parse, hstart hus]
      exact ⟨⟨e, filters⟩, pipeline_toEnd_iff.mpr ⟨us, vs, rfl, he, hvs⟩⟩

/-- What is no expression from the pipe sign on is no pipeline from the bracket on. -/
theorem parse_error_first_mistake_pipe :
    let source := "x | [".toList
    let ts : List Token := [⟨.name "x", 0⟩, ⟨.sign .pipe, 2⟩, ⟨.sign .leftBracket, 4⟩]
    Lexer.tokens source = .ok ts ∧
      (Expr.parse source = .error ⟨.trailing (.sign .pipe), 2⟩ ∧
        FirstMistake Expr.parse IsExpression source ts 2) ∧
      Pipeline.parse source = .error ⟨.filterNameExpected, 4⟩ ∧
        FirstMistake Pipeline.parse IsPipeline source ts 4 := by
  intro source ts
  have htokens : Lexer.tokens source = .ok ts := by
    have hbracket : Lexer.tokensFrom 3 " [".toList = .ok [⟨.sign .leftBracket, 4⟩] :=
      (Lexer.tokensFrom_blank (by decide) 3 _).trans
        (Lexer.tokensFrom_cons (n := 1) (by decide) (by rfl) (Lexer.tokensFrom_nil 5))
    have hpipe : Lexer.tokensFrom 1 " | [".toList =
        .ok [⟨.sign .pipe, 2⟩, ⟨.sign .leftBracket, 4⟩] :=
      (Lexer.tokensFrom_blank (by decide) 1 _).trans
        (Lexer.tokensFrom_cons (n := 1) (by decide) (by rfl) hbracket)
    exact Lexer.tokensFrom_cons (n := 1) (by decide) (by rfl) hpipe
  have hexpression : Expr.parse source = .error ⟨.trailing (.sign .pipe), 2⟩ := by
    rw [Expr.parse, start_eq_ok_iff.mpr ⟨_, htokens, rfl⟩]
    rfl
  have hpipeline : Pipeline.parse source = .error ⟨.filterNameExpected, 4⟩ := by
    rw [Pipeline.parse, start_eq_ok_iff.mpr ⟨_, htokens, rfl⟩]
    rfl
  exact ⟨htokens, ⟨hexpression, (parse_error_first_mistake htokens).1 _ _ hexpression nofun⟩,
    hpipeline, (parse_error_first_mistake htokens).2 _ _ hpipeline nofun⟩

end Grammar

end Stencil
