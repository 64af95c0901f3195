import Mathlib.Data.List.TakeWhile
import Stencil.Proofs.Acceptance

/-! # Where tokens stand

Every token of a text stands at the byte that it remembers, and a name stands there as it is
spelled.
-/

namespace Stencil

theorem Token.Kind.eq_toList_of_ofWord {word : List Char} {id : String}
    (h : ofWord word = .name id) : word = id.toList := by
  unfold ofWord at h
  split at h
  next => exact nomatch h
  split at h
  next => exact nomatch h
  split at h
  next => exact nomatch h
  next =>
    cases h
    exact String.toList_ofList.symm

namespace Lexer

variable {c : Char} {cs : List Char} {kind : Token.Kind} {n pos : Nat} {ts : List Token}

theorem lexeme_length_pos (h : lexeme c cs = .ok (kind, n)) : 0 < n := by
  unfold lexeme at h
  split at h
  next =>
    cases h
    exact Nat.succ_pos _
  split at h
  next hdigit =>
    cases h
    have hwhole : 0 < ((c :: cs).takeWhile Decimal.isDigit).length := by
      rw [List.takeWhile_cons_of_pos hdigit]
      exact Nat.succ_pos _
    exact Nat.add_pos_left hwhole _
  split at h
  next =>
    split at h
    next =>
      cases h
      exact Nat.succ_pos _
    next => exact nomatch h
  next =>
    split at h
    next sign _ =>
      cases h
      cases sign <;> decide
    next => exact nomatch h

/-- Behind a token the text goes on. -/
theorem drop_of_lexeme (h : lexeme c cs = .ok (kind, n)) : cs.drop (n - 1) = (c :: cs).drop n := by
  obtain ⟨m, rfl⟩ := Nat.exists_eq_succ_of_ne_zero (Nat.ne_of_gt (lexeme_length_pos h))
  rfl

/-- A name goes as far as its characters can be parts of a name. -/
theorem word_of_lexeme_name {id : String} (h : lexeme c cs = .ok (.name id, n)) :
    isNameStart c = true ∧ id.toList = c :: cs.takeWhile isNamePart := by
  unfold lexeme at h
  split at h
  next hstart =>
    simp only [Except.ok.injEq, Prod.mk.injEq] at h
    exact ⟨hstart, (Token.Kind.eq_toList_of_ofWord h.1).symm⟩
  split at h
  next => exact nomatch h
  split at h
  next =>
    split at h
    next => exact nomatch h
    next => exact nomatch h
  next =>
    split at h
    next => exact nomatch h
    next => exact nomatch h

theorem exists_append_of_lexeme_name {id : String} (h : lexeme c cs = .ok (.name id, n)) :
    ∃ behind, c :: cs = id.toList ++ behind := by
  refine ⟨cs.dropWhile isNamePart, ?_⟩
  rw [(word_of_lexeme_name h).2, List.cons_append, List.takeWhile_append_dropWhile]

theorem tokensFrom_lexeme (hblank : ¬ Text.isBlank c) (h : lexeme c cs = .ok (kind, n)) :
    tokensFrom pos (c :: cs) =
      (tokensFrom (pos + Text.size ((c :: cs).take n)) (cs.drop (n - 1))).map
        (⟨kind, pos⟩ :: ·) := by
  rw [tokensFrom, if_neg hblank]
  simp only [h]
  cases tokensFrom (pos + Text.size ((c :: cs).take n)) (cs.drop (n - 1)) <;> rfl

theorem tokensFrom_cons (hblank : ¬ Text.isBlank c) (h : lexeme c cs = .ok (kind, n))
    (hrest : tokensFrom (pos + Text.size ((c :: cs).take n)) (cs.drop (n - 1)) = .ok ts) :
    tokensFrom pos (c :: cs) = .ok (⟨kind, pos⟩ :: ts) := by
  rw [tokensFrom_lexeme hblank h, hrest]
  rfl

/-- A token is what the text says at the byte that the token remembers. -/
theorem exists_lexeme_of_mem {token : Token} (h : tokensFrom pos cs = .ok ts)
    (ht : token ∈ ts) :
    ∃ before first rest n, cs = before ++ first :: rest ∧
      lexeme first rest = .ok (token.kind, n) ∧ token.pos = pos + Text.size before := by
  fun_induction tokensFrom pos cs generalizing ts with
  | case1 =>
      cases h
      exact nomatch ht
  | case2 pos c cs hblank ih =>
      obtain ⟨before, first, rest, n, rfl, hlexeme, hpos⟩ := ih h ht
      refine ⟨c :: before, first, rest, n, rfl, hlexeme, ?_⟩
      rw [hpos, Text.size_cons, Nat.add_assoc]
  | case3 => exact nomatch h
  | case4 pos c cs hblank kind n hlexeme stop =>
      rename_i ih
      obtain ⟨tokens, htokens, heq⟩ := bind_eq_ok_iff.mp h
      cases heq
      rcases List.mem_cons.mp ht with rfl | ht
      · exact ⟨[], c, cs, n, rfl, hlexeme, rfl⟩
      · obtain ⟨before, first, rest, m, hrest, hfirst, hpos⟩ := ih htokens ht
        refine ⟨(c :: cs).take n ++ before, first, rest, m, ?_, hfirst, ?_⟩
        · rw [List.append_assoc, ← hrest, drop_of_lexeme hlexeme, List.take_append_drop]
        · rw [hpos, Text.size_append, Nat.add_assoc]

/-- A name in a text stands at the byte that its token remembers. -/
theorem exists_append_of_name {source : List Char} {id : String} (h : tokens source = .ok ts)
    (ht : ⟨.name id, pos⟩ ∈ ts) :
    ∃ before behind, source = before ++ (id.toList ++ behind) ∧ pos = Text.size before := by
  obtain ⟨before, first, rest, n, hsource, hlexeme, hpos⟩ := exists_lexeme_of_mem h ht
  obtain ⟨behind, hbehind⟩ := exists_append_of_lexeme_name hlexeme
  exact ⟨before, behind, by rw [hsource, hbehind], hpos.trans (Nat.zero_add _)⟩

end Lexer

theorem Lexer.isNamePart_of_isNameStart {c : Char} (h : isNameStart c = true) :
    isNamePart c = true := by
  rw [isNamePart, h, Bool.true_or]

/-- The characters of a name in a text are parts of names. -/
theorem Lexer.isNamePart_of_mem_name {source : List Char} {ts : List Token} {id : String}
    {pos : Nat} (h : tokens source = .ok ts) (ht : ⟨.name id, pos⟩ ∈ ts) {c : Char}
    (hc : c ∈ id.toList) : isNamePart c = true := by
  obtain ⟨before, first, rest, n, -, hlexeme, -⟩ := exists_lexeme_of_mem h ht
  obtain ⟨hstart, hword⟩ := word_of_lexeme_name hlexeme
  rw [hword] at hc
  rcases List.mem_cons.mp hc with rfl | hc
  · exact isNamePart_of_isNameStart hstart
  · exact List.mem_takeWhile_imp hc

theorem Grammar.Filters.mem {ts : List Token} {filters : List (String × Nat)} {name : String}
    {pos : Nat} (h : Filters ts filters) (hmem : (name, pos) ∈ filters) :
    ⟨.name name, pos⟩ ∈ ts := by
  induction h with
  | nil => exact nomatch hmem
  | cons pipe id at_ _ ih =>
      rcases List.mem_cons.mp hmem with heq | hmem
      · cases heq
        exact List.mem_cons_of_mem _ List.mem_cons_self
      · exact List.mem_cons_of_mem _ (List.mem_cons_of_mem _ (ih hmem))

/-- The filters of a pipeline are names in its text. -/
theorem Pipeline.exists_append_of_filter {body : List Char} {p : Pipeline} {name : String}
    {offset : Nat} (h : Pipeline.parse body = .ok p) (hmem : (name, offset) ∈ p.filters) :
    ∃ before behind, body = before ++ (name.toList ++ behind) ∧ offset = Text.size before := by
  obtain ⟨c, hstart, hread⟩ := bind_eq_ok_iff.mp h
  obtain ⟨tokens, htokens, rfl⟩ := Grammar.start_eq_ok_iff.mp hstart
  obtain ⟨base, rest, htokens', -, hfilters⟩ := Grammar.pipeline_toEnd_iff.mp hread
  refine Lexer.exists_append_of_name htokens ?_
  simp only at htokens'
  rw [htokens']
  exact List.mem_append_right _ (hfilters.mem hmem)

end Stencil
