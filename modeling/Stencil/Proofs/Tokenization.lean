import Mathlib.Data.List.Nodup
import Stencil.Proofs.Lexeme

/-! # The longest match at every place

A text is divided from left to right into blanks and the longest words that spell tokens. The lexer
gives the tokens of this division if it reaches the end of the text, and otherwise a problem at
the place where no word spells a token.
-/

namespace Stencil

namespace Lexer

/-- `Covered pos cs ts stop rest`: from byte `pos`, where `cs` stands, up to byte `stop`, where
`rest` stands, there are blanks and the longest spellings of the tokens `ts`, and each token
remembers the byte at which its spelling starts. -/
inductive Covered : Nat → List Char → List Token → Nat → List Char → Prop
  | nil (pos : Nat) (cs : List Char) : Covered pos cs [] pos cs
  | blank {pos stop : Nat} {c : Char} {cs rest : List Char} {ts : List Token}
      (hc : Text.isBlank c = true) (h : Covered (pos + c.utf8Size) cs ts stop rest) :
      Covered pos (c :: cs) ts stop rest
  | token {pos stop : Nat} {word behind rest : List Char} {kind : Token.Kind} {ts : List Token}
      (hword : Longest word kind behind)
      (h : Covered (pos + Text.size word) behind ts stop rest) :
      Covered pos (word ++ behind) (⟨kind, pos⟩ :: ts) stop rest

variable {pos stop : Nat} {cs rest word : List Char} {ts : List Token} {kind : Token.Kind}

/-- A word that spells a token does not start with a blank. -/
theorem Spells.exists_first (h : Spells word kind) :
    ∃ c cs, word = c :: cs ∧ Text.isBlank c = false := by
  have hstart : ∀ c, isNameStart c = true → Text.isBlank c = false := by
    intro c hc
    by_contra hblank
    rw [Bool.not_eq_false] at hblank
    have hpart := isNamePart_of_isBlank hblank
    rw [isNamePart_of_isNameStart hc] at hpart
    exact nomatch hpart
  cases h with
  | sign s =>
      obtain ⟨c, cs, hspelling, -⟩ := exists_first_of_sign s
      refine ⟨c, cs, hspelling, ?_⟩
      by_contra hblank
      rw [Bool.not_eq_false] at hblank
      exact s.not_mem_spelling_of_isBlank hblank (hspelling ▸ List.mem_cons_self)
  | @name c cs hc => exact ⟨c, cs, rfl, hstart c hc⟩
  | bool b => cases b <;> exact ⟨_, _, rfl, by decide⟩
  | null => exact ⟨_, _, rfl, by decide⟩
  | number hword hx =>
      obtain ⟨d, ds, rfl, hd⟩ := hword.exists_first
      refine ⟨d, ds, rfl, ?_⟩
      by_contra hblank
      rw [Bool.not_eq_false] at hblank
      rw [Text.isDigit_of_isBlank hblank] at hd
      exact nomatch hd
  | @string quote body s hquote h =>
      refine ⟨quote, _, rfl, ?_⟩
      rcases hquote with rfl | rfl <;> decide

/-- The lexer goes along the division of a text. -/
theorem Covered.tokensFrom (h : Covered pos cs ts stop rest) :
    Lexer.tokensFrom pos cs = (Lexer.tokensFrom stop rest).map (ts ++ ·) := by
  induction h with
  | nil pos cs => cases Lexer.tokensFrom pos cs <;> rfl
  | blank hc _ ih => rw [tokensFrom_blank hc, ih]
  | @token pos stop word behind rest kind ts hword _ ih =>
      obtain ⟨c, cs, rfl, hblank⟩ := hword.spells.exists_first
      have hlexeme : lexeme c (cs ++ behind) = .ok (kind, (c :: cs).length) :=
        lexeme_eq_ok_iff.mpr ⟨c :: cs, behind, List.cons_append.symm, rfl, hword⟩
      rw [List.cons_append, tokensFrom_lexeme (Bool.eq_false_iff.mp hblank) hlexeme,
        drop_of_lexeme hlexeme, ← List.cons_append, List.take_left, List.drop_left, ih]
      cases Lexer.tokensFrom stop rest <;> rfl

/-- The division of a text goes on to its end or to a place where no word spells a token. -/
theorem exists_covered (pos : Nat) (cs : List Char) :
    ∃ ts stop rest, Covered pos cs ts stop rest ∧
      (rest = [] ∨ ∃ c behind problem, rest = c :: behind ∧ Text.isBlank c = false ∧
        Unspelled c behind problem) := by
  fun_induction Lexer.tokensFrom pos cs with
  | case1 pos => exact ⟨[], pos, [], .nil pos [], .inl rfl⟩
  | case2 pos c cs hblank ih =>
      obtain ⟨ts, stop, rest, hcovered, hrest⟩ := ih
      exact ⟨ts, stop, rest, .blank hblank hcovered, hrest⟩
  | case3 pos c cs hblank problem hlexeme =>
      exact ⟨[], pos, c :: cs, .nil _ _, .inr ⟨c, cs, problem, rfl, Bool.eq_false_iff.mpr hblank,
        lexeme_eq_error_iff.mp hlexeme⟩⟩
  | case4 pos c cs hblank kind n hlexeme behind =>
      rename_i ih
      obtain ⟨ts, stop, rest, hcovered, hrest⟩ := ih
      obtain ⟨word, after, hword, rfl, hlongest⟩ := lexeme_eq_ok_iff.mp hlexeme
      refine ⟨⟨kind, pos⟩ :: ts, stop, rest, ?_, hrest⟩
      simp only [behind] at hcovered
      rw [drop_of_lexeme hlexeme, hword, List.take_left, List.drop_left] at hcovered
      rw [hword]
      exact .token hlongest hcovered

theorem Covered.size (h : Covered pos cs ts stop rest) :
    pos + Text.size cs = stop + Text.size rest := by
  induction h with
  | nil => rfl
  | blank _ _ ih => rw [← ih, Text.size_cons, Nat.add_assoc]
  | token _ _ ih => rw [← ih, Text.size_append, Nat.add_assoc]

/-- Tokens stand where the division goes along. -/
theorem Covered.bounds (h : Covered pos cs ts stop rest) :
    pos ≤ stop ∧ ∀ t ∈ ts, pos ≤ t.pos ∧ t.pos < stop := by
  induction h with
  | nil => simp
  | blank _ _ ih =>
      obtain ⟨hle, hts⟩ := ih
      refine ⟨by omega, fun t ht => ?_⟩
      have := hts t ht
      omega
  | @token pos stop word behind rest kind ts hword _ ih =>
      obtain ⟨hle, hts⟩ := ih
      obtain ⟨c, cs, rfl, -⟩ := hword.spells.exists_first
      have hsize := Text.size_pos (List.cons_ne_nil c cs)
      have hlt : pos < stop := by omega
      refine ⟨hlt.le, List.forall_mem_cons.mpr ⟨⟨Nat.le_refl _, hlt⟩, fun t ht => ?_⟩⟩
      have := hts t ht
      omega

/-- Every token stands behind those before it. -/
theorem Covered.increasing (h : Covered pos cs ts stop rest) :
    ts.Pairwise (·.pos < ·.pos) := by
  induction h with
  | nil => exact .nil
  | blank _ _ ih => exact ih
  | token hword hrest ih =>
      obtain ⟨c, cs, rfl, -⟩ := hword.spells.exists_first
      have hsize := Text.size_pos (List.cons_ne_nil c cs)
      refine .cons (fun t ht => ?_) ih
      exact Nat.lt_of_lt_of_le (Nat.lt_add_of_pos_right hsize) (hrest.bounds.2 t ht).1

theorem tokensFrom_of_unspelled {c : Char} {behind : List Char} {problem : Problem}
    (hblank : Text.isBlank c = false) (h : Unspelled c behind problem) :
    Lexer.tokensFrom pos (c :: behind) = .error ⟨problem, pos⟩ := by
  rw [Lexer.tokensFrom, if_neg (Bool.eq_false_iff.mp hblank), lexeme_eq_error_iff.mpr h]

theorem tokens_eq_ok_iff {source : List Char} :
    tokens source = .ok ts ↔ Covered 0 source ts (Text.size source) [] := by
  constructor
  · intro h
    obtain ⟨us, stop, rest, hcovered, rfl | ⟨c, behind, problem, rfl, hblank, hproblem⟩⟩ :=
      exists_covered 0 source
    · have hstop := hcovered.size
      rw [Text.size_nil, Nat.zero_add, Nat.add_zero] at hstop
      rw [tokens, hcovered.tokensFrom, tokensFrom_nil] at h
      cases h
      simpa only [List.append_nil, hstop] using hcovered
    · rw [tokens, hcovered.tokensFrom, tokensFrom_of_unspelled hblank hproblem] at h
      cases h
  · intro h
    rw [tokens, h.tokensFrom, tokensFrom_nil]
    exact congrArg Except.ok (List.append_nil ts)

/-- A row of tokens is the row of the text exactly if the text is divided into blanks and, for each
token in order, the longest word at the byte of the token, which spells the token. A text has no
tokens exactly if it is divided in this way up to the place of the problem, and no word spells a
token there. -/
theorem tokens_longest_match (source : List Char) :
    (∀ ts, tokens source = .ok ts ↔
      Covered 0 source ts (Text.size source) [] ∧ ts.Pairwise (·.pos < ·.pos)) ∧
    ∀ problem pos, tokens source = .error ⟨problem, pos⟩ ↔
      ∃ ts c behind, Covered 0 source ts pos (c :: behind) ∧ ts.Pairwise (·.pos < ·.pos) ∧
        Text.isBlank c = false ∧ Unspelled c behind problem := by
  constructor
  · intro ts
    rw [tokens_eq_ok_iff]
    exact ⟨fun h => ⟨h, h.increasing⟩, fun h => h.1⟩
  intro problem pos
  constructor
  · intro h
    obtain ⟨ts, stop, rest, hcovered, rfl | ⟨c, behind, problem', rfl, hblank, hproblem⟩⟩ :=
      exists_covered 0 source
    · rw [tokens, hcovered.tokensFrom, tokensFrom_nil] at h
      cases h
    · rw [tokens, hcovered.tokensFrom, tokensFrom_of_unspelled hblank hproblem] at h
      cases h
      exact ⟨ts, c, behind, hcovered, hcovered.increasing, hblank, hproblem⟩
  · rintro ⟨ts, c, behind, hcovered, -, hblank, hproblem⟩
    rw [tokens, hcovered.tokensFrom, tokensFrom_of_unspelled hblank hproblem]
    rfl

/-- No two tokens of a text start at one byte. -/
theorem eq_of_pos_eq {source : List Char} (h : tokens source = .ok ts) {t u : Token}
    (ht : t ∈ ts) (hu : u ∈ ts) (hpos : t.pos = u.pos) : t = u := by
  have hincreasing := (tokens_eq_ok_iff.mp h).increasing
  have hnodup : (ts.map Token.pos).Nodup :=
    List.pairwise_map.mpr (hincreasing.imp Nat.ne_of_lt)
  exact List.inj_on_of_nodup_map hnodup ht hu hpos

/-! ## Parts of a division -/

/-- A word stays the longest one if less stands behind it. -/
theorem Longest.of_append {behind : List Char} (h : Longest word kind (behind ++ rest)) :
    Longest word kind behind := by
  refine ⟨h.spells, fun other kind' hother => h.longest other kind' ?_⟩
  rw [← List.append_assoc]
  exact hother.trans (List.prefix_append _ _)

/-- What is divided is divided in the same way without the rest. -/
theorem Covered.cut (h : Covered pos cs ts stop rest) :
    ∃ front, cs = front ++ rest ∧ Covered pos front ts stop [] := by
  induction h with
  | nil pos cs => exact ⟨[], rfl, .nil pos []⟩
  | @blank pos stop c cs rest ts hc _ ih =>
      obtain ⟨front, rfl, hfront⟩ := ih
      exact ⟨c :: front, rfl, .blank hc hfront⟩
  | @token pos stop word behind rest kind ts hword _ ih =>
      obtain ⟨front, rfl, hfront⟩ := ih
      exact ⟨word ++ front, (List.append_assoc _ _ _).symm, .token hword.of_append hfront⟩

/-- A division may be stopped in front of every token. -/
theorem Covered.split {before behind : List Token}
    (h : Covered pos cs (before ++ behind) stop rest) :
    ∃ mid, Covered pos cs before (Token.firstByte stop behind) mid := by
  generalize hts : before ++ behind = ts at h
  induction h generalizing before with
  | nil pos cs =>
      obtain ⟨rfl, rfl⟩ := List.append_eq_nil_iff.mp hts
      exact ⟨cs, .nil pos cs⟩
  | blank hc _ ih =>
      obtain ⟨mid, hmid⟩ := ih hts
      exact ⟨mid, .blank hc hmid⟩
  | token hword _ ih =>
      cases before with
      | nil =>
          rw [List.nil_append] at hts
          subst hts
          exact ⟨_, .nil _ _⟩
      | cons t before =>
          rw [List.cons_append, List.cons.injEq] at hts
          obtain ⟨rfl, hrest⟩ := hts
          obtain ⟨mid, hmid⟩ := ih hrest
          exact ⟨mid, .token hword hmid⟩

/-- The tokens before a place are the tokens of the text before it. -/
theorem tokens_front {source : List Char} {before behind : List Token}
    (h : tokens source = .ok (before ++ behind)) :
    ∃ front, front <+: source ∧ tokens front = .ok before ∧
      Text.size front = Token.firstByte (Text.size source) behind := by
  obtain ⟨mid, hmid⟩ := (tokens_eq_ok_iff.mp h).split
  obtain ⟨front, rfl, hfront⟩ := hmid.cut
  have hsize : Text.size front = Token.firstByte (Text.size (front ++ mid)) behind := by
    simpa using hfront.size
  rw [← hsize] at hfront
  exact ⟨front, List.prefix_append front mid, tokens_eq_ok_iff.mpr hfront, hsize⟩

/-- The tokens before a place are those with lower bytes. -/
theorem filter_tokens {source : List Char} {before behind : List Token}
    (h : tokens source = .ok (before ++ behind)) :
    (before ++ behind).filter (·.pos < Token.firstByte (Text.size source) behind) = before := by
  obtain ⟨mid, hmid⟩ := (tokens_eq_ok_iff.mp h).split
  have hincreasing := (tokens_eq_ok_iff.mp h).increasing
  have hbefore : ∀ t ∈ before, t.pos < Token.firstByte (Text.size source) behind :=
    fun t ht => (hmid.bounds.2 t ht).2
  have hbehind : ∀ t ∈ behind, ¬ t.pos < Token.firstByte (Text.size source) behind := by
    intro t ht
    cases behind with
    | nil => exact nomatch ht
    | cons u us =>
        rcases List.mem_cons.mp ht with rfl | ht
        · exact Nat.lt_irrefl _
        · have hlt := List.rel_of_pairwise_cons (List.pairwise_append.mp hincreasing).2.1 ht
          exact Nat.lt_asymm hlt
  rw [List.filter_append, List.filter_eq_self.mpr (by simpa using hbefore),
    List.filter_eq_nil_iff.mpr (by simpa using hbehind), List.append_nil]

end Lexer

end Stencil
