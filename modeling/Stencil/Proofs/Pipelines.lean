import Stencil.Proofs.Lexing

/-! # Pipelines from their parts

The text of an expression with names behind pipe signs is read as that expression with exactly
these names as filters. No sign inside of the expression is taken for a separator.
-/

namespace Stencil

namespace Grammar

/-- An expression stays one in a text that starts earlier. -/
theorem Expression.moved {depth operators : Nat} {ts : List Token} {e : Expr}
    (h : Expression depth operators ts e) (k : Nat) :
    Expression depth operators (ts.map (Token.moved k)) e := by
  have hkinds : (ts.map (Token.moved k)).map Token.kind = ts.map Token.kind := by
    rw [List.map_map]
    rfl
  exact ⟨h.1.of_kinds hkinds, h.2⟩

end Grammar

/-- The text of names, each behind a pipe sign. -/
def Pipeline.piped (names : List String) : List Char :=
  names.flatMap fun name => " | ".toList ++ name.toList

theorem Pipeline.exists_piped_append (names : List String) :
    ∃ behind, piped names ++ [' '] = ' ' :: behind := by
  cases names with
  | nil => exact ⟨[], rfl⟩
  | cons name names => exact ⟨_, rfl⟩

namespace Lexer

/-- The names of filters lie between blanks and pipe signs. -/
theorem tokensFrom_piped {names : List String}
    (h : ∀ name ∈ names, tokens name.toList = .ok [⟨.name name, 0⟩]) (pos : Nat) :
    ∃ ts filters, tokensFrom pos (Pipeline.piped names ++ [' ']) = .ok ts ∧
      Grammar.Filters ts filters ∧ filters.map Prod.fst = names := by
  induction names generalizing pos with
  | nil =>
      refine ⟨[], [], ?_, .nil, rfl⟩
      exact (tokensFrom_blank (by decide) pos []).trans (tokensFrom_nil _)
  | cons name names ih =>
      obtain ⟨hname, hnames⟩ := List.forall_mem_cons.mp h
      -- a blank stands behind the name, also behind the last one
      obtain ⟨behind, hbehind⟩ := Pipeline.exists_piped_append names
      have htext : Pipeline.piped (name :: names) ++ [' '] =
          ' ' :: '|' :: ' ' :: (name.toList ++ ' ' :: behind) := by
        simp only [Pipeline.piped, List.flatMap_cons, List.append_assoc] at hbehind ⊢
        rw [hbehind]
        rfl
      have hpipe : ∀ cs, lexeme '|' (' ' :: cs) = .ok (.sign .pipe, 1) := fun cs => rfl
      have hmoved : tokensFrom (pos + 3) name.toList = .ok [⟨.name name, pos + 3⟩] := by
        simpa [Token.moved] using tokensFrom_of_tokens hname (pos + 3)
      obtain ⟨ts, filters, hts, hfilters, hmap⟩ := ih hnames (pos + 3 + Text.size name.toList)
      rw [hbehind] at hts
      have hrest : tokensFrom (pos + 2) (' ' :: (name.toList ++ ' ' :: behind)) =
          .ok (⟨.name name, pos + 3⟩ :: ts) := by
        have happend := tokensFrom_append_blank (w := ' ') (by decide) hmoved behind
        rw [hts] at happend
        exact (tokensFrom_blank (by decide) _ _).trans happend
      refine ⟨⟨.sign .pipe, pos + 1⟩ :: ⟨.name name, pos + 3⟩ :: ts, (name, pos + 3) :: filters, ?_,
        .cons _ _ _ hfilters, ?_⟩
      · rw [htext, tokensFrom_blank (by decide)]
        exact tokensFrom_cons (by decide) (hpipe _) hrest
      · rw [List.map_cons, hmap]

end Lexer

theorem Expr.exists_tokens_of_parse {source : List Char} {e : Expr}
    (h : parse source = .ok e) :
    ∃ ts, Lexer.tokens source = .ok ts ∧ Grammar.Expression maxDepth maxOperators ts e := by
  obtain ⟨c, hstart, hread⟩ := bind_eq_ok_iff.mp h
  obtain ⟨ts, hts, rfl⟩ := Grammar.start_eq_ok_iff.mp hstart
  exact ⟨ts, hts, Grammar.expression_toEnd_iff.mp hread⟩

/-- A text of a single token that is a name is this name as an expression. -/
theorem Expr.parse_name {source : List Char} {id : String}
    (h : Lexer.tokens source = .ok [⟨.name id, 0⟩]) : parse source = .ok (.name id) := by
  rw [parse, Grammar.start_eq_ok_iff.mpr ⟨_, h, rfl⟩]
  rfl

/-- The text of an expression with names behind it is a pipeline of the expression through the
filters of these names. -/
theorem Pipeline.parse_piped {source : List Char} {e : Expr} (h : Expr.parse source = .ok e)
    {names : List String}
    (hnames : ∀ name ∈ names, Lexer.tokens name.toList = .ok [⟨.name name, 0⟩]) :
    ∃ filters, parse (' ' :: (source ++ piped names ++ [' '])) = .ok ⟨e, filters⟩ ∧
      filters.map Prod.fst = names := by
  obtain ⟨ts, hts, he⟩ := Expr.exists_tokens_of_parse h
  obtain ⟨us, filters, hus, hfilters, hmap⟩ :=
    Lexer.tokensFrom_piped hnames (1 + Text.size source)
  obtain ⟨behind, hbehind⟩ := exists_piped_append names
  have htokens : Lexer.tokens (' ' :: (source ++ piped names ++ [' '])) =
      .ok (ts.map (Token.moved 1) ++ us) := by
    rw [hbehind] at hus
    have hmoved := Lexer.tokensFrom_of_tokens hts 1
    have happend := Lexer.tokensFrom_append_blank (w := ' ') (by decide) hmoved behind
    rw [hus] at happend
    rw [List.append_assoc, hbehind]
    exact (Lexer.tokensFrom_blank (by decide) _ _).trans happend
  refine ⟨filters, ?_, hmap⟩
  refine bind_eq_ok_iff.mpr ⟨_, Grammar.start_eq_ok_iff.mpr ⟨_, htokens, rfl⟩, ?_⟩
  exact Grammar.pipeline_toEnd_iff.mpr ⟨_, us, rfl, he.moved 1, hfilters⟩

end Stencil
