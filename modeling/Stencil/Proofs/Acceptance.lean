import Stencil.Proofs.Parsing
import Stencil.Statement

/-! # Which texts are expressions, pipelines and statements

A text is accepted exactly if its tokens are derived by the grammar within the bounds, and the
tokens determine what they stand for.
-/

namespace Stencil.Grammar

open Stencil.Parser

/-- The tokens are a statement without keywords: a binding or an expression. -/
inductive RawStatement (depth operators : Nat) : List Token → Statement → Prop
  | bind {ts value} (word pos equals : Nat) (name : String)
      (h : Expression depth operators ts value) :
      RawStatement depth operators
        (⟨.name "let", word⟩ :: ⟨.name name, pos⟩ :: ⟨.sign .assign, equals⟩ :: ts)
        (.bind name value)
  | eval {ts value} (h : Expression depth operators ts value) :
      RawStatement depth operators ts (.eval value)

theorem start_eq_ok_iff {source : List Char} {c : Cursor} :
    start source = .ok c ↔
      ∃ ts, Lexer.tokens source = .ok ts ∧ c = ⟨ts, Text.size source, maxOperators⟩ := by
  unfold start
  rw [bind_eq_ok_iff]
  simp only [Except.ok.injEq, eq_comm]

theorem toEnd_eq_ok_iff {α : Type} {part : Parser α} {c : Cursor} {a : α} :
    toEnd part c = .ok a ↔ ∃ c', part c = .ok (a, c') ∧ c'.rest = [] := by
  unfold toEnd
  rw [bind_eq_ok_iff]
  constructor
  · rintro ⟨⟨b, c'⟩, hpart, h⟩
    cases hrest : c'.rest with
    | nil =>
        simp only [hrest, Except.ok.injEq] at h
        exact ⟨c', h ▸ hpart, hrest⟩
    | cons token rest => simp [hrest] at h
  · rintro ⟨c', hpart, hrest⟩
    exact ⟨(a, c'), hpart, by simp [hrest]⟩

/-- A part that is not accepted to the end fails or leaves a token behind. -/
theorem toEnd_eq_error_iff {α : Type} {part : Parser α} {c : Cursor} {e : ParseError} :
    toEnd part c = .error e ↔ part c = .error e ∨
      ∃ a c' token rest, part c = .ok (a, c') ∧ c'.rest = token :: rest ∧
        e = ⟨.trailing token.kind, token.pos⟩ := by
  unfold toEnd
  rw [bind_eq_error_iff]
  refine or_congr_right ?_
  constructor
  · rintro ⟨⟨a, c'⟩, hpart, h⟩
    cases hrest : c'.rest with
    | nil => simp [hrest] at h
    | cons token rest =>
        simp only [hrest, Except.error.injEq] at h
        exact ⟨a, c', token, rest, hpart, hrest, h.symm⟩
  · rintro ⟨a, c', token, rest, hpart, hrest, rfl⟩
    exact ⟨(a, c'), hpart, by simp [hrest]⟩

/-- The tokens do not go on with an expression that stands before them. -/
def Stops (ts : List Token) : Prop :=
  ∀ s pos rest, ts = ⟨.sign s, pos⟩ :: rest → s.tightness = 0

theorem Stops.ends {c : Cursor} (h : Stops c.rest) : c.Ends whole := by
  intro s after hs
  obtain ⟨pos, hadv⟩ := Cursor.sign?_eq_some_iff.mp hs
  rw [h s pos after.rest hadv.rest]
  exact Nat.one_pos

theorem Stops.of_ends {c : Cursor} {ts : List Token} (h : c.Ends whole)
    (hhead : ts.head? = c.rest.head?) : Stops ts := by
  rintro s pos rest rfl
  obtain ⟨rest', hrest⟩ := List.head?_eq_some_iff.mp hhead.symm
  have hsign : c.sign? = some (s, { c with rest := rest' }) :=
    Cursor.sign?_eq_some_iff.mpr ⟨pos, hrest, rfl, rfl⟩
  exact Nat.lt_one_iff.mp (h s _ hsign)

theorem stops_nil : Stops [] := fun _ _ _ h => nomatch h

/-- What is read as an expression is one within the bounds. -/
theorem expression_sound {c c' : Cursor} {e : Expr} (h : expression c = .ok (e, c')) :
    ∃ ts, c.rest = ts ++ c'.rest ∧ Expression maxDepth c.spare ts e := by
  obtain ⟨ts, hts, hadv, -⟩ := (whole_reads maxDepth c e c').mp h
  exact ⟨ts, hadv.rest, hts, hadv.spare ▸ Nat.le_add_left _ _⟩

/-- An expression within the bounds is read, if no operator follows it. -/
theorem expression_complete {c : Cursor} {e : Expr} {ts rest : List Token}
    (h : Expression maxDepth c.spare ts e) (hrest : c.rest = ts ++ rest) (hstops : Stops rest) :
    ∃ c', expression c = .ok (e, c') ∧ c'.rest = rest ∧ c'.stop = c.stop := by
  have hspare : c.spare = c.spare - e.operators + e.operators := (Nat.sub_add_cancel h.2).symm
  refine ⟨⟨rest, c.stop, c.spare - e.operators⟩, ?_, rfl, rfl⟩
  exact (whole_reads maxDepth c e _).mpr ⟨ts, h.1, ⟨hrest, rfl, hspare⟩, Stops.ends hstops⟩

/-- An expression that nothing follows. -/
theorem expression_toEnd_iff {c : Cursor} {e : Expr} :
    toEnd expression c = .ok e ↔ Expression maxDepth c.spare c.rest e := by
  rw [toEnd_eq_ok_iff]
  constructor
  · rintro ⟨c', h, hrest⟩
    obtain ⟨ts, hts, he⟩ := expression_sound h
    rw [hrest, List.append_nil] at hts
    rwa [hts]
  · intro h
    obtain ⟨c', hread, hrest, -⟩ :=
      expression_complete h (List.append_nil _).symm stops_nil
    exact ⟨c', hread, hrest⟩

/-- The names of filters that nothing follows. -/
theorem filterNames_eq_ok_iff {stop : Nat} {ts : List Token} {filters : List (String × Nat)} :
    filterNames stop ts = .ok (filters, []) ↔ Filters ts filters := by
  constructor
  · intro h
    fun_induction filterNames stop ts generalizing filters with
    | case1 pos => exact nomatch h
    | case2 pipe id pos rest ih =>
        obtain ⟨⟨names, rest'⟩, hnames, heq⟩ := bind_eq_ok_iff.mp h
        cases heq
        exact .cons pipe id pos (ih hnames)
    | case3 => exact nomatch h
    | case4 rest =>
        cases h
        exact .nil
  · intro h
    induction h with
    | nil => rfl
    | cons pipe id pos _ ih =>
        rw [filterNames]
        exact bind_eq_ok_iff.mpr ⟨_, ih, rfl⟩

/-- Filters start with a pipe sign, which goes on with no expression. -/
theorem Filters.stops {ts : List Token} {filters : List (String × Nat)} (h : Filters ts filters) :
    Stops ts := by
  intro s pos rest hts
  cases h with
  | nil => exact nomatch hts
  | cons pipe id at_ h =>
      cases hts
      rfl

/-- A pipeline that nothing follows. -/
theorem pipeline_toEnd_iff {c : Cursor} {p : Pipeline} :
    toEnd pipeline c = .ok p ↔
      ∃ ts us, c.rest = ts ++ us ∧ Expression maxDepth c.spare ts p.base ∧
        Filters us p.filters := by
  rw [toEnd_eq_ok_iff]
  constructor
  · rintro ⟨c', h, hrest⟩
    obtain ⟨⟨base, c₁⟩, hbase, h⟩ := bind_eq_ok_iff.mp h
    obtain ⟨⟨filters, rest⟩, hfilters, heq⟩ := bind_eq_ok_iff.mp h
    cases heq
    simp only at hrest
    subst hrest
    obtain ⟨ts, hts, he⟩ := expression_sound hbase
    exact ⟨ts, c₁.rest, hts, he, filterNames_eq_ok_iff.mp hfilters⟩
  · rintro ⟨ts, us, hrest, hbase, hfilters⟩
    obtain ⟨c₁, hread, rfl, -⟩ :=
      expression_complete hbase hrest hfilters.stops
    refine ⟨{ c₁ with rest := [] }, ?_, rfl⟩
    exact bind_eq_ok_iff.mpr ⟨_, hread,
      bind_eq_ok_iff.mpr ⟨_, filterNames_eq_ok_iff.mpr hfilters, rfl⟩⟩

/-- Tokens start with at most one expression that the tokens behind it do not go on with, and it
has only one reading. -/
theorem derives_unique {n m : Nat} {ts us ts' us' : List Token} {e e' : Expr}
    (h : Derives n whole ts e) (h' : Derives m whole ts' e') (heq : ts ++ us = ts' ++ us')
    (hus : Stops us) (hus' : Stops us') : e = e' ∧ ts = ts' := by
  -- the parser reads both from the same place, with room for the operators of either
  let c : Cursor := ⟨ts ++ us, 0, e.operators + e'.operators⟩
  have hread := (whole_reads (max n m) c e ⟨us, 0, e'.operators⟩).mpr
    ⟨ts, h.mono (Nat.le_max_left n m), ⟨rfl, rfl, Nat.add_comm _ _⟩, Stops.ends hus⟩
  have hread' := (whole_reads (max n m) c e' ⟨us', 0, e.operators⟩).mpr
    ⟨ts', h'.mono (Nat.le_max_right n m), ⟨heq, rfl, rfl⟩, Stops.ends hus'⟩
  rw [hread, Except.ok.injEq, Prod.mk.injEq, Cursor.mk.injEq] at hread'
  obtain ⟨rfl, rfl, -⟩ := hread'
  exact ⟨rfl, List.append_cancel_right heq⟩

/-- Two names in a row start no expression. -/
theorem not_expression_of_names {depth operators a b : Nat} {first second : String}
    {rest : List Token} {e : Expr} :
    ¬ Expression depth operators (⟨.name first, a⟩ :: ⟨.name second, b⟩ :: rest) e := by
  intro h
  -- the first name alone is an expression, and nothing longer can be one beside it
  have hfirst : Derives depth whole [⟨.name first, a⟩] (.name first) :=
    .single _ (.single _ (.single _ (.single _ (.single _ (.single _
      (.plain (.bare (.name first a))))))))
  have hstops : Stops (⟨.name second, b⟩ :: rest) := fun s pos us hts => nomatch hts
  have hnil := (derives_unique h.1 hfirst (List.append_nil _) stops_nil hstops).2
  exact nomatch hnil

/-- A binding is read behind the name that it binds. -/
theorem bindingFrom_eq_ok_iff {name : String} {c : Cursor} {s : Statement} :
    Statement.bindingFrom name c = .ok s ↔
      ∃ equals ts value, c.rest = ⟨.sign .assign, equals⟩ :: ts ∧
        Expression maxDepth c.spare ts value ∧ s = .bind name value := by
  unfold Statement.bindingFrom
  rw [bind_eq_ok_iff]
  constructor
  · rintro ⟨c₁, hequals, h⟩
    obtain ⟨pos, hadv⟩ := Cursor.expect_eq_ok_iff.mp hequals
    obtain ⟨value, hvalue, heq⟩ := bind_eq_ok_iff.mp h
    cases heq
    have he := expression_toEnd_iff.mp hvalue
    refine ⟨pos, c₁.rest, value, hadv.rest, ?_, rfl⟩
    rwa [hadv.spare]
  · rintro ⟨equals, ts, value, hrest, he, rfl⟩
    refine ⟨{ c with rest := ts }, Cursor.expect_eq_ok_iff.mpr ⟨equals, hrest, rfl, rfl⟩, ?_⟩
    exact bind_eq_ok_iff.mpr ⟨value, expression_toEnd_iff.mpr he, rfl⟩

/-- The tokens of a statement without keywords decide by their first two whether it binds. -/
theorem parseRaw_eq_ok_iff {source : List Char} {s : Statement} :
    Statement.parseRaw source = .ok s ↔
      ∃ ts, Lexer.tokens source = .ok ts ∧ RawStatement maxDepth maxOperators ts s := by
  have hplain : ∀ c, (toEnd expression c).map Statement.eval = .ok s ↔
      ∃ value, Expression maxDepth c.spare c.rest value ∧ Statement.eval value = s := by
    intro c
    rw [map_eq_ok_iff]
    exact exists_congr fun value => and_congr_left' expression_toEnd_iff
  unfold Statement.parseRaw
  rw [bind_eq_ok_iff]
  constructor
  · rintro ⟨c, hstart, h⟩
    obtain ⟨ts, hts, rfl⟩ := start_eq_ok_iff.mp hstart
    refine ⟨ts, hts, ?_⟩
    simp only at h
    split at h
    next first word name pos rest =>
      split at h
      next hlet =>
        subst hlet
        obtain ⟨equals, us, value, hrest, he, rfl⟩ := bindingFrom_eq_ok_iff.mp h
        simp only at hrest
        subst hrest
        exact .bind word pos equals name he
      next =>
        obtain ⟨value, he, -⟩ := (hplain _).mp h
        exact absurd he not_expression_of_names
    next =>
      obtain ⟨value, he, rfl⟩ := (hplain _).mp h
      exact .eval he
  · rintro ⟨ts, hts, h⟩
    refine ⟨_, start_eq_ok_iff.mpr ⟨ts, hts, rfl⟩, ?_⟩
    cases h with
    | bind word pos equals name he =>
        simp only [if_true]
        exact bindingFrom_eq_ok_iff.mpr ⟨equals, _, _, rfl, he, rfl⟩
    | eval he =>
        simp only
        split
        next => exact absurd he not_expression_of_names
        next => exact (hplain _).mpr ⟨_, he, rfl⟩

/-- The grammar is exactly what the parser accepts: a text is an expression, a pipeline or a
statement without keywords if its tokens are derived with at most 128 nestings and 256
operators, and tokens have at most one reading as an expression. -/
theorem parse_eq_ok_iff_derives (source : List Char) :
    (∀ e, Expr.parse source = .ok e ↔
      ∃ ts, Lexer.tokens source = .ok ts ∧ Expression 128 256 ts e) ∧
    (∀ p, Pipeline.parse source = .ok p ↔
      ∃ ts us, Lexer.tokens source = .ok (ts ++ us) ∧ Expression 128 256 ts p.base ∧
        Filters us p.filters) ∧
    (∀ s, Statement.parseRaw source = .ok s ↔
      ∃ ts, Lexer.tokens source = .ok ts ∧ RawStatement 128 256 ts s) ∧
    ∀ n m ts e e', Derives n whole ts e → Derives m whole ts e' → e = e' := by
  refine ⟨fun e => ?_, fun p => ?_, fun s => parseRaw_eq_ok_iff, ?_⟩
  · unfold Expr.parse
    rw [bind_eq_ok_iff]
    constructor
    · rintro ⟨c, hstart, h⟩
      obtain ⟨ts, hts, rfl⟩ := start_eq_ok_iff.mp hstart
      exact ⟨ts, hts, expression_toEnd_iff.mp h⟩
    · rintro ⟨ts, hts, h⟩
      exact ⟨_, start_eq_ok_iff.mpr ⟨ts, hts, rfl⟩, expression_toEnd_iff.mpr h⟩
  · unfold Pipeline.parse
    rw [bind_eq_ok_iff]
    constructor
    · rintro ⟨c, hstart, h⟩
      obtain ⟨all, hall, rfl⟩ := start_eq_ok_iff.mp hstart
      obtain ⟨ts, us, rfl, hbase, hfilters⟩ := pipeline_toEnd_iff.mp h
      exact ⟨ts, us, hall, hbase, hfilters⟩
    · rintro ⟨ts, us, hall, hbase, hfilters⟩
      exact ⟨_, start_eq_ok_iff.mpr ⟨_, hall, rfl⟩,
        pipeline_toEnd_iff.mpr ⟨ts, us, rfl, hbase, hfilters⟩⟩
  · intro n m ts e e' h h'
    exact (derives_unique h h' rfl stops_nil stops_nil).1

end Stencil.Grammar
