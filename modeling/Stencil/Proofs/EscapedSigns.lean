import Stencil.Proofs.Lexing
import Stencil.Proofs.OutputDirective

/-! # Comparison signs as entities

A statement may write its comparison signs as entities. Replacing signs by entities and entities
by signs are passes over the whole body; no pass makes an occurrence for another one that was not
there before, so a statement with all its signs written as entities is read as the statement
itself.
-/

namespace Stencil

namespace Text

/-! ## Replacing -/

section Needle

variable {needle : List Char}

theorem isSome_after?_iff {cs : List Char} : (after? needle cs).isSome = true ↔ needle <+: cs := by
  rw [Option.isSome_iff_exists]
  simp only [after?_eq_some_iff, eq_comm (a := cs)]
  rfl

theorem replaceFrom_length_append (word skipped cs : List Char) :
    replaceFrom needle word skipped.length (skipped ++ cs) = replaceFrom needle word 0 cs := by
  induction skipped with
  | nil => rfl
  | cons c skipped ih => exact ih

/-- An occurrence at the start is replaced. -/
theorem replace_append (hneedle : needle ≠ []) (word cs : List Char) :
    replace needle word (needle ++ cs) = word ++ replace needle word cs := by
  obtain ⟨n, ns, rfl⟩ := List.exists_cons_of_ne_nil hneedle
  have hsome : (after? (n :: ns) (n :: (ns ++ cs))).isSome = true :=
    isSome_after?_iff.mpr (List.prefix_append (n :: ns) cs)
  rw [replace, List.cons_append, replaceFrom, if_pos hsome, List.length_cons, Nat.add_sub_cancel,
    replaceFrom_length_append, replace]

/-- A character that starts no occurrence is kept. -/
theorem replace_cons {c : Char} {cs : List Char} (h : ¬ needle <+: c :: cs) (word : List Char) :
    replace needle word (c :: cs) = c :: replace needle word cs := by
  rw [replace, replaceFrom, if_neg (mt isSome_after?_iff.mp h), replace]

/-- A text is a row of occurrences of `needle` and of characters that start none. -/
theorem occurrence_induction (hneedle : needle ≠ []) {P : List Char → Prop} (nil : P [])
    (found : ∀ cs, P cs → P (needle ++ cs))
    (other : ∀ c cs, ¬ needle <+: c :: cs → P cs → P (c :: cs)) (cs : List Char) : P cs := by
  induction hn : cs.length using Nat.strong_induction_on generalizing cs with
  | _ n ih =>
      by_cases h : needle <+: cs
      · obtain ⟨rest, rfl⟩ := h
        have hpos := List.length_pos_iff.mpr hneedle
        rw [List.length_append] at hn
        exact found rest (ih rest.length (by omega) rest rfl)
      · cases cs with
        | nil => exact nil
        | cons c cs =>
            rw [List.length_cons] at hn
            exact other c cs h (ih cs.length (by omega) cs rfl)

end Needle

variable {v w : Char} {name word cs : List Char}

theorem replace_single_same : replace [v] word (v :: cs) = word ++ replace [v] word cs :=
  replace_append (List.cons_ne_nil v []) word cs

theorem replace_single_of_ne {c : Char} (h : c ≠ v) :
    replace [v] word (c :: cs) = c :: replace [v] word cs := by
  apply replace_cons
  rw [List.cons_prefix_cons]
  exact fun hstart => h hstart.1.symm

theorem replace_single_append {front : List Char} (h : v ∉ front) :
    replace [v] word (front ++ cs) = front ++ replace [v] word cs := by
  induction front with
  | nil => rfl
  | cons c front ih =>
      obtain ⟨hc, hfront⟩ := not_or.mp (mt List.mem_cons.mpr h)
      rw [List.cons_append, replace_single_of_ne (Ne.symm hc), ih hfront, List.cons_append]

/-! ## Entities in place of characters -/

/-- A text without ampersands that stands at the start after entities were written stood there
before. -/
theorem isPrefix_of_replace {part : List Char} (hpart : '&' ∉ part)
    (h : part <+: replace [v] ('&' :: name) cs) : part <+: cs := by
  induction part generalizing cs with
  | nil => exact List.nil_prefix
  | cons d part ih =>
      obtain ⟨hd, hpart⟩ := not_or.mp (mt List.mem_cons.mpr hpart)
      cases cs with
      | nil => exact absurd (List.prefix_nil.mp h) (List.cons_ne_nil d part)
      | cons c cs =>
          by_cases hc : c = v
          · subst hc
            rw [replace_single_same, List.cons_append, List.cons_prefix_cons] at h
            exact absurd h.1.symm hd
          · rw [replace_single_of_ne hc, List.cons_prefix_cons] at h
            exact List.cons_prefix_cons.mpr ⟨h.1, ih hpart h.2⟩

/-- Writing entities for a character makes no occurrence of an entity that starts at another
character. -/
theorem not_isPrefix_of_replace {c : Char} {rest : List Char} (hrest : '&' ∉ rest)
    (h : ¬ '&' :: rest <+: c :: cs) :
    ¬ '&' :: rest <+: c :: replace [v] ('&' :: name) cs := by
  rw [List.cons_prefix_cons] at h ⊢
  exact fun hstart => h ⟨hstart.1, isPrefix_of_replace hrest hstart.2⟩

/-- Entities written for a character become that character again, together with those that were
there before. -/
theorem replace_replace (hname : '&' ∉ name) (hw : w ∉ '&' :: name) (cs : List Char) :
    replace ('&' :: name) [w] (replace [w] ('&' :: name) cs) = replace ('&' :: name) [w] cs := by
  have hne : '&' :: name ≠ [] := List.cons_ne_nil _ _
  induction cs using occurrence_induction hne with
  | nil => rfl
  | found cs ih => rw [replace_single_append hw, replace_append hne, replace_append hne, ih]
  | other c cs h ih =>
      rw [replace_cons h]
      by_cases hc : c = w
      · subst hc
        rw [replace_single_same, replace_append hne, ih]
        rfl
      · rw [replace_single_of_ne hc, replace_cons (not_isPrefix_of_replace hname h), ih]

/-- Reading one entity and writing another one can be done in either order. -/
theorem replace_comm {name' : List Char} (hname : '&' ∉ name) (hv : v ∉ '&' :: name) (hvw : v ≠ w)
    (hword : ∀ cs, replace ('&' :: name) [w] ('&' :: name' ++ cs) =
      '&' :: name' ++ replace ('&' :: name) [w] cs) (cs : List Char) :
    replace ('&' :: name) [w] (replace [v] ('&' :: name') cs) =
      replace [v] ('&' :: name') (replace ('&' :: name) [w] cs) := by
  have hne : '&' :: name ≠ [] := List.cons_ne_nil _ _
  induction cs using occurrence_induction hne with
  | nil => rfl
  | found cs ih =>
      rw [replace_single_append hv, replace_append hne, replace_append hne, ih,
        replace_single_append (by simpa using hvw)]
  | other c cs h ih =>
      rw [replace_cons h]
      by_cases hc : c = v
      · subst hc
        rw [replace_single_same, replace_single_same, hword, ih]
      · rw [replace_single_of_ne hc, replace_single_of_ne hc,
          replace_cons (not_isPrefix_of_replace hname h), ih]

theorem replace_ne_nil (h : cs ≠ []) : replace [v] ('&' :: name) cs ≠ [] := by
  obtain ⟨c, cs, rfl⟩ := List.exists_cons_of_ne_nil h
  by_cases hc : c = v
  · subst hc
    rw [replace_single_same]
    exact List.cons_ne_nil _ _
  · rw [replace_single_of_ne hc]
    exact List.cons_ne_nil _ _

/-! ## Closing markers -/

/-- An occurrence in a text does not start in a part that has none of its characters. -/
theorem isInfix_of_append_right {part x y : List Char} (h : part <:+: x ++ y) (hne : part ≠ [])
    (hx : ∀ c ∈ part, c ∉ x) : part <:+: y := by
  rw [← List.reverse_infix, List.reverse_append] at h
  rw [← List.reverse_infix]
  apply isInfix_of_append h
  · simpa using hne
  · simpa using hx

/-- What has no character of the entities occurs only where it did before they were written. -/
theorem isInfix_of_replace {part : List Char} (hne : part ≠ [])
    (hpart : ∀ c ∈ part, c ∉ '&' :: name) (h : part <:+: replace [v] ('&' :: name) cs) :
    part <:+: cs := by
  have hamp : '&' ∉ part := fun hmem => hpart '&' hmem List.mem_cons_self
  induction cs with
  | nil => exact h
  | cons c cs ih =>
      by_cases hc : c = v
      · subst hc
        rw [replace_single_same] at h
        exact List.infix_cons (ih (isInfix_of_append_right h hne hpart))
      · rw [replace_single_of_ne hc, List.infix_cons_iff, ← replace_single_of_ne hc] at h
        rcases h with hstart | hbehind
        · exact (isPrefix_of_replace hamp hstart).isInfix
        · exact List.infix_cons (ih hbehind)

/-- A marker of two different characters stands for the first time behind a text in which it does
not occur. -/
theorem first_pair {c d : Char} (hcd : c ≠ d) {before : List Char} (h : ¬ [c, d] <:+: before)
    (after : List Char) : First [c, d] before after := by
  intro b a heq
  by_contra hlt
  obtain ⟨x, rfl, hx⟩ := exists_append_of_size_le heq.symm (by omega)
  -- an earlier occurrence would share one character with the marker or lie before it
  rcases x with _ | ⟨e, _ | ⟨f, x⟩⟩
  · rw [List.append_nil] at hlt
    exact hlt (Nat.le_refl _)
  · cases hx
    exact hcd rfl
  · cases hx
    exact h ⟨b, x, by simp⟩

end Text

/-! ## Statements -/

namespace Directive

/-- The body of a statement with its comparison signs written as entities. -/
def escapeSigns (body : List Char) : List Char :=
  Text.replace ['>'] "&gt;".toList (Text.replace ['<'] "&lt;".toList body)

/-- A body with its signs written as entities has the signs of the body itself. -/
theorem unescaped_escapeSigns (body : List Char) :
    unescaped (escapeSigns body) = unescaped body := by
  have hless : Text.replace "&lt;".toList ['<'] (Text.replace ['<'] "&lt;".toList body) =
      Text.replace "&lt;".toList ['<'] body := Text.replace_replace (by decide) (by decide) body
  have hgreater : ∀ cs, Text.replace "&gt;".toList ['>'] (Text.replace ['>'] "&gt;".toList cs) =
      Text.replace "&gt;".toList ['>'] cs := Text.replace_replace (by decide) (by decide)
  have hcomm : ∀ cs, Text.replace "&lt;".toList ['<'] (Text.replace ['>'] "&gt;".toList cs) =
      Text.replace ['>'] "&gt;".toList (Text.replace "&lt;".toList ['<'] cs) :=
    Text.replace_comm (by decide) (by decide) (by decide) fun _ => rfl
  rw [unescaped, escapeSigns, hcomm, hless, hgreater, unescaped]

/-- What a statement is read as depends on its place and its restored signs alone. -/
theorem toOption_statement (d d' : Directive) (hbody : unescaped d'.body = unescaped d.body)
    (hstart : d'.start = d.start) (syntaxMode : Bool) (source source' : List Char) :
    (d'.statement syntaxMode source').toOption = (d.statement syntaxMode source).toOption := by
  simp only [statement, hbody, hstart]
  by_cases hblank : (Text.trim (unescaped d.body)).isEmpty
  · simp only [hblank, if_true]
  by_cases hword : !syntaxMode && (Keyword.leading? (unescaped d.body)).isSome
  · simp only [hblank, hword, if_true]
    rfl
  simp only [hblank, hword]
  cases if syntaxMode then Statement.parse (unescaped d.body)
    else Statement.parseRaw (unescaped d.body) with
  | error e => rfl
  | ok s => rfl

end Directive

namespace Signs

variable {body : List Char}

/-- A body without the closing marker of statements is one statement. -/
theorem encloses_statement (hne : body ≠ []) (hclosing : ¬ "@\x7d".toList <:+: body) :
    (standard.get .statement).Encloses body := by
  obtain ⟨first, more, rfl⟩ := List.exists_cons_of_ne_nil hne
  refine ⟨first, more, rfl, Text.first_pair (by decide) ?_ []⟩
  exact fun hmore => hclosing (List.infix_cons hmore)

theorem escapeSigns_ne_nil (hne : body ≠ []) : Directive.escapeSigns body ≠ [] :=
  Text.replace_ne_nil (Text.replace_ne_nil hne)

theorem not_isInfix_escapeSigns (hclosing : ¬ "@\x7d".toList <:+: body) :
    ¬ "@\x7d".toList <:+: Directive.escapeSigns body := by
  have hless : ∀ cs, "@\x7d".toList <:+: Text.replace ['<'] ('&' :: "lt;".toList) cs →
      "@\x7d".toList <:+: cs := fun _ => Text.isInfix_of_replace (by decide) (by simp)
  have hgreater : ∀ cs, "@\x7d".toList <:+: Text.replace ['>'] ('&' :: "gt;".toList) cs →
      "@\x7d".toList <:+: cs := fun _ => Text.isInfix_of_replace (by decide) (by simp)
  exact fun h => hclosing (hless _ (hgreater _ h))

/-- A text that is one statement has the segments of that statement, if it can be read. -/
theorem scan_statement_eq_ok_iff {dialect : Dialect} {segments : List Segment}
    (h : (standard.get .statement).Encloses body) :
    standard.scan dialect (standard.statement.wrap body) = .ok segments ↔
      ∃ segment, (standard.directive .statement 0 ⟨[], body, []⟩).statement dialect.syntaxMode
        (standard.statement.wrap body) = .ok segment ∧ segment.toList = segments := by
  have hpieces : standard.pieces (standard.statement.wrap body) = _ := pieces_of_encloses h
  rw [scan, hpieces]
  simp only [Piece.readAll, bind_eq_ok_iff]
  constructor
  · rintro ⟨segment, hsegment, rest, hrest, heq⟩
    cases hrest
    cases heq
    exact ⟨segment, hsegment, (List.append_nil _).symm⟩
  · rintro ⟨segment, hsegment, rfl⟩
    exact ⟨segment, hsegment, [], rfl, congrArg Except.ok (List.append_nil _)⟩

/-- A statement is scanned alike with all its comparison signs written as entities. -/
theorem scan_escapeSigns (dialect : Dialect) (hne : body ≠ [])
    (hclosing : ¬ "@\x7d".toList <:+: body) (segments : List Segment) :
    standard.scan dialect (standard.statement.wrap (Directive.escapeSigns body)) = .ok segments ↔
      standard.scan dialect (standard.statement.wrap body) = .ok segments := by
  let directive (body : List Char) : Directive := standard.directive .statement 0 ⟨[], body, []⟩
  have hread := Directive.toOption_statement (directive body)
    (directive (Directive.escapeSigns body)) (Directive.unescaped_escapeSigns body) rfl
    dialect.syntaxMode (standard.statement.wrap body)
    (standard.statement.wrap (Directive.escapeSigns body))
  rw [scan_statement_eq_ok_iff (encloses_statement hne hclosing),
    scan_statement_eq_ok_iff
      (encloses_statement (escapeSigns_ne_nil hne) (not_isInfix_escapeSigns hclosing))]
  simp only [← toOption_eq_some_iff]
  rw [hread]

/-- A comparison with a string that has an entity and a piece of one. -/
theorem scan_escapeSigns_pieces :
    let body := "a<\"&lt;&l<\"".toList
    let segment : Segment := .statement
      (.eval (.binary .lt (.name "a") (.literal (.string "<&l<")))) 0
    body ≠ [] ∧ ¬ "@\x7d".toList <:+: body ∧
      standard.statement.wrap (Directive.escapeSigns body) =
        "\x7b@a&lt;\"&lt;&l&lt;\"@\x7d".toList ∧
      standard.scan ⟨.builtin, false⟩ (standard.statement.wrap body) = .ok [segment] ∧
      standard.scan ⟨.builtin, false⟩ (standard.statement.wrap (Directive.escapeSigns body)) =
        .ok [segment] := by
  intro body segment
  have hclosing : ¬ "@\x7d".toList <:+: body := by decide +kernel
  have hunescaped : Directive.unescaped body = ['a', '<', '"', '<', '&', 'l', '<', '"'] := by
    decide +kernel
  have htokens : Lexer.tokens ['a', '<', '"', '<', '&', 'l', '<', '"'] =
      .ok [⟨.name "a", 0⟩, ⟨.sign .lt, 1⟩, ⟨.string "<&l<", 2⟩] := by
    have hstring : Lexer.tokensFrom 2 ['"', '<', '&', 'l', '<', '"'] =
        .ok [⟨.string "<&l<", 2⟩] :=
      Lexer.tokensFrom_cons (n := 6) (by decide) (by rfl) (Lexer.tokensFrom_nil 8)
    have hless : Lexer.tokensFrom 1 ['<', '"', '<', '&', 'l', '<', '"'] =
        .ok [⟨.sign .lt, 1⟩, ⟨.string "<&l<", 2⟩] :=
      Lexer.tokensFrom_cons (n := 1) (by decide) (by rfl) hstring
    exact Lexer.tokensFrom_cons (n := 1) (by decide) (by rfl) hless
  have hparse : Statement.parseRaw ['a', '<', '"', '<', '&', 'l', '<', '"'] =
      .ok (.eval (.binary .lt (.name "a") (.literal (.string "<&l<")))) := by
    rw [Statement.parseRaw, Grammar.start_eq_ok_iff.mpr ⟨_, htokens, rfl⟩]
    rfl
  have hscan : standard.scan ⟨.builtin, false⟩ (standard.statement.wrap body) = .ok [segment] := by
    apply (scan_statement_eq_ok_iff (encloses_statement (by decide) hclosing)).mpr
    refine ⟨some segment, ?_, rfl⟩
    simp only [Directive.statement, Signs.directive, hunescaped, hparse]
    rfl
  exact ⟨by decide, hclosing, by decide +kernel, hscan,
    (scan_escapeSigns _ (by decide) hclosing _).mpr hscan⟩

end Signs

end Stencil
