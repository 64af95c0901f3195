import Stencil.Proofs.Search
import Stencil.Proofs.Spelling

/-! # Tokens around blanks

A blank ends every token before it. The tokens of two texts with a blank between them are therefore
the tokens of both, those of the second one moved by what stands before it.
-/

namespace Stencil

namespace Text

theorem CharSet.exists_range_of_containsCode {set : CharSet} {n : Nat}
    (h : set.containsCode n = true) : ∃ range ∈ set, range.1 ≤ n ∧ n ≤ range.2 := by
  induction set with
  | nil => exact nomatch h
  | cons range set ih =>
      simp only [containsCode, Bool.and_eq_true, Bool.or_eq_true, decide_eq_true_eq] at h
      rcases h.2 with hle | hrest
      · exact ⟨range, List.mem_cons_self, h.1, hle⟩
      · obtain ⟨other, hother, hn⟩ := ih hrest
        exact ⟨other, List.mem_cons_of_mem _ hother, hn⟩

/-- Sets without common ranges have no common characters. -/
theorem CharSet.contains_eq_false {set set' : CharSet}
    (h : ∀ range ∈ set, ∀ range' ∈ set', range.2 < range'.1 ∨ range'.2 < range.1) {c : Char}
    (hc : set.contains c = true) : set'.contains c = false := by
  by_contra hc'
  rw [Bool.not_eq_false] at hc'
  obtain ⟨range, hrange, hlow, hhigh⟩ := exists_range_of_containsCode hc
  obtain ⟨range', hrange', hlow', hhigh'⟩ := exists_range_of_containsCode hc'
  have := h range hrange range' hrange'
  omega

variable {c : Char}

theorem ne_of_isBlank {d : Char} (hc : isBlank c = true) (hd : isBlank d = false) : c ≠ d := by
  rintro rfl
  exact Bool.false_ne_true (hd.symm.trans hc)

theorem isDigit_of_isBlank (hc : isBlank c = true) : Decimal.isDigit c = false := by
  by_contra hdigit
  simp only [Decimal.isDigit, Bool.not_eq_false, Bool.and_eq_true, decide_eq_true_eq] at hdigit
  obtain ⟨range, hrange, hlow, hhigh⟩ := CharSet.exists_range_of_containsCode hc
  have hblank : ∀ range ∈ blanks, range.2 < 48 ∨ 57 < range.1 := by decide
  have := hblank range hrange
  have hzero : 48 ≤ c.toNat := hdigit.1
  have hnine : c.toNat ≤ 57 := hdigit.2
  omega

end Text

theorem takeWhile_append_cons_of_neg {α : Type} {p : α → Bool} {x : α} (hx : p x = false)
    (xs ys : List α) : (xs ++ x :: ys).takeWhile p = xs.takeWhile p := by
  induction xs with
  | nil => simp [hx]
  | cons y xs ih => simp [List.takeWhile_cons, ih]

theorem dropWhile_append_cons_of_neg {α : Type} {p : α → Bool} {x : α} (hx : p x = false)
    (xs ys : List α) : (xs ++ x :: ys).dropWhile p = xs.dropWhile p ++ x :: ys := by
  induction xs with
  | nil => simp [hx]
  | cons y xs ih =>
      by_cases hy : p y
      · simp [hy, ih]
      · simp [hy]

/-! ## One token -/

theorem Sign.isPrefix_of_read? {s : Sign} {cs : List Char} (h : read? cs = some s) :
    s.spelling.toList <+: cs := by
  let starts : Sign → Bool := fun s => s.spelling.toList.isPrefixOf cs
  have hs : starts s = true := List.find?_some h
  exact List.isPrefixOf_iff_prefix.mp hs

section Blank

variable {w : Char} (hw : Text.isBlank w = true)

include hw

theorem Sign.not_mem_spelling_of_isBlank (s : Sign) : w ∉ s.spelling.toList := by
  intro hmem
  have hs : s.spelling.toList.all (!Text.isBlank ·) = true := by
    cases s <;> decide +kernel
  have hblank := List.all_eq_true.mp hs w hmem
  rw [hw] at hblank
  exact nomatch hblank

theorem Sign.read?_append_blank (cs ds : List Char) : read? (cs ++ w :: ds) = read? cs := by
  unfold read?
  congr
  funext s
  rw [Bool.eq_iff_iff, List.isPrefixOf_iff_prefix, List.isPrefixOf_iff_prefix]
  constructor
  · intro h
    exact Text.isPrefix_of_append_cons h (s.not_mem_spelling_of_isBlank hw)
  · intro h
    exact h.trans (List.prefix_append cs _)

namespace Lexer

theorem isNamePart_of_isBlank : isNamePart w = false := by
  have hletter : Text.isLetter w = false := Text.CharSet.contains_eq_false (by decide +kernel) hw
  have hnumeral : Text.isNumeral w = false := Text.CharSet.contains_eq_false (by decide +kernel) hw
  have hunderscore : w ≠ '_' := Text.ne_of_isBlank hw (by decide)
  have hdollar : w ≠ '$' := Text.ne_of_isBlank hw (by decide)
  simp [isNamePart, isNameStart, hletter, hnumeral, hunderscore, hdollar]

theorem numeral_append_blank (cs ds : List Char) : numeral (cs ++ w :: ds) = numeral cs := by
  have hdigit := Text.isDigit_of_isBlank hw
  have hpoint : w ≠ '.' := Text.ne_of_isBlank hw (by decide)
  simp only [numeral, takeWhile_append_cons_of_neg hdigit, dropWhile_append_cons_of_neg hdigit]
  congr 1
  cases cs.dropWhile Decimal.isDigit with
  | nil => simp [hpoint]
  | cons d rest =>
      by_cases hd : d = '.'
      · subst hd
        simp [takeWhile_append_cons_of_neg hdigit]
      · simp [hd]

end Lexer

end Blank

namespace Lexer

variable {c : Char} {cs : List Char} {kind : Token.Kind} {n : Nat}

/-- A string ends at its closing quote, whatever stands behind that. -/
theorem quoted?_append {quote : Char} {s : List Char} (h : quoted? quote cs = some (s, n))
    (ds : List Char) : n ≤ cs.length ∧ quoted? quote (cs ++ ds) = some (s, n) := by
  induction cs using quoted?.induct quote generalizing s n with
  | case1 => exact nomatch h
  | case2 cs =>
      rw [quoted?.eq_def] at h
      simp only [if_true, Option.some.injEq, Prod.mk.injEq] at h
      obtain ⟨rfl, rfl⟩ := h
      refine ⟨Nat.succ_pos _, ?_⟩
      rw [List.cons_append, quoted?.eq_def]
      simp only [if_true]
  | case3 hquote =>
      rw [quoted?.eq_def] at h
      simp [hquote] at h
  | case4 e rest hquote ih =>
      rw [quoted?] at h
      simp only [hquote, if_false, if_true, Option.map_eq_some_iff] at h
      obtain ⟨⟨front, m⟩, hrest, heq⟩ := h
      cases heq
      obtain ⟨hle, happend⟩ := ih hrest
      refine ⟨Nat.add_le_add_right hle 2, ?_⟩
      rw [List.cons_append, List.cons_append, quoted?, happend]
      simp only [hquote, if_false, if_true, Option.map_some]
  | case5 c cs hquote hslash ih =>
      rw [quoted?.eq_def] at h
      simp only [hquote, hslash, if_false, Option.map_eq_some_iff] at h
      obtain ⟨⟨front, m⟩, hrest, heq⟩ := h
      cases heq
      obtain ⟨hle, happend⟩ := ih hrest
      refine ⟨Nat.add_le_add_right hle 1, ?_⟩
      rw [List.cons_append, quoted?.eq_def]
      simp only [hquote, hslash, if_false, happend, Option.map_some]

theorem numeralLength_le (cs : List Char) : numeralLength (numeral cs) ≤ cs.length := by
  have hsplit := congrArg List.length
    (List.takeWhile_append_dropWhile (p := Decimal.isDigit) (l := cs))
  rw [List.length_append] at hsplit
  have hfraction : (numeral cs).fraction = [] ∨
      (numeral cs).fraction.length < (cs.dropWhile Decimal.isDigit).length := by
    simp only [numeral]
    split
    next rest hrest =>
      right
      rw [hrest]
      exact Nat.lt_succ_of_le (List.takeWhile_prefix _).length_le
    next => exact .inl rfl
  have hwhole : (numeral cs).whole.length = (cs.takeWhile Decimal.isDigit).length := rfl
  rw [numeralLength, hwhole]
  split
  next => omega
  next hnil =>
    rcases hfraction with hfraction | hfraction
    · exact absurd (List.isEmpty_iff.mpr hfraction) hnil
    · omega

/-- A token keeps its spelling if a blank stands behind the text. -/
theorem lexeme_append_blank {w : Char} (hw : Text.isBlank w = true)
    (h : lexeme c cs = .ok (kind, n)) (ds : List Char) :
    n ≤ (c :: cs).length ∧ lexeme c (cs ++ w :: ds) = .ok (kind, n) := by
  unfold lexeme at h ⊢
  split at h
  next hstart =>
    cases h
    rw [if_pos hstart, takeWhile_append_cons_of_neg (isNamePart_of_isBlank hw)]
    exact ⟨Nat.succ_le_succ (List.takeWhile_prefix _).length_le, rfl⟩
  next hstart =>
  split at h
  next hdigit =>
    cases h
    rw [if_neg hstart, if_pos hdigit, ← List.cons_append, numeral_append_blank hw]
    exact ⟨numeralLength_le _, rfl⟩
  next hdigit =>
  split at h
  next hquote =>
    split at h
    next s m hs =>
      cases h
      obtain ⟨hle, happend⟩ := quoted?_append hs (w :: ds)
      simp only [if_neg hstart, if_neg hdigit, if_pos hquote, happend]
      exact ⟨Nat.succ_le_succ hle, trivial⟩
    next => exact nomatch h
  next hquote =>
    split at h
    next sign hsign =>
      cases h
      rw [if_neg hstart, if_neg hdigit, if_neg hquote, ← List.cons_append,
        Sign.read?_append_blank hw, hsign]
      refine ⟨?_, rfl⟩
      rw [← String.length_toList]
      exact (Sign.isPrefix_of_read? hsign).length_le
    next => exact nomatch h

end Lexer

/-! ## Rows of tokens -/

/-- The same token in a text that starts `k` bytes earlier. -/
def Token.moved (k : Nat) (t : Token) : Token := { t with pos := t.pos + k }

namespace Lexer

variable {w c : Char} {pos : Nat} {a cs : List Char} {kind : Token.Kind} {ts : List Token}

theorem tokensFrom_blank (hw : Text.isBlank w = true) (pos : Nat) (cs : List Char) :
    tokensFrom pos (w :: cs) = tokensFrom (pos + w.utf8Size) cs := by
  rw [tokensFrom, if_pos hw]

theorem tokensFrom_nil (pos : Nat) : tokensFrom pos [] = .ok [] := by
  rw [tokensFrom]

theorem tokens_of_lexeme (hblank : ¬ Text.isBlank c)
    (h : lexeme c cs = .ok (kind, (c :: cs).length)) :
    tokens (c :: cs) = .ok [⟨kind, 0⟩] := by
  apply tokensFrom_cons hblank h
  rw [List.length_cons, Nat.add_sub_cancel, List.drop_length, tokensFrom_nil]

/-- Behind the tokens of a text that a blank ends follow those of what stands behind it. -/
theorem tokensFrom_append_blank (hw : Text.isBlank w = true) (h : tokensFrom pos a = .ok ts)
    (b : List Char) :
    tokensFrom pos (a ++ w :: b) =
      (tokensFrom (pos + Text.size a) (w :: b)).map (ts ++ ·) := by
  fun_induction tokensFrom pos a generalizing ts with
  | case1 pos =>
      cases h
      rw [List.nil_append, Text.size_nil, Nat.add_zero]
      cases tokensFrom pos (w :: b) <;> rfl
  | case2 pos c cs hblank ih =>
      rw [List.cons_append, tokensFrom_blank hblank, ih h, Text.size_cons, Nat.add_assoc pos]
  | case3 => cases h
  | case4 pos c cs hblank kind n hlexeme behind =>
      rename_i ih
      obtain ⟨tokens, htokens, heq⟩ := bind_eq_ok_iff.mp h
      cases heq
      obtain ⟨hle, happend⟩ := lexeme_append_blank hw hlexeme b
      have hsize : behind + Text.size (cs.drop (n - 1)) = pos + Text.size (c :: cs) := by
        rw [drop_of_lexeme hlexeme, Nat.add_assoc, ← Text.size_append, List.take_append_drop]
      rw [List.cons_append, tokensFrom_lexeme hblank happend, ← List.cons_append,
        List.take_append_of_le_length hle, List.drop_append_of_le_length (Nat.sub_le_of_le_add hle),
        ih htokens, hsize]
      cases tokensFrom (pos + Text.size (c :: cs)) (w :: b) <;> rfl

/-- A text that stands `k` bytes further has the same tokens and problems `k` bytes further. -/
theorem tokensFrom_add (pos k : Nat) (cs : List Char) :
    tokensFrom (pos + k) cs =
      ((tokensFrom pos cs).mapError (·.shift k)).map (List.map (Token.moved k)) := by
  fun_induction tokensFrom pos cs with
  | case1 pos => rw [tokensFrom_nil]; rfl
  | case2 pos c cs hblank ih => rw [tokensFrom_blank hblank, ← ih, Nat.add_right_comm]
  | case3 pos c cs hblank problem hlexeme =>
      rw [tokensFrom, if_neg hblank, hlexeme]
      rfl
  | case4 pos c cs hblank kind n hlexeme behind =>
      rename_i ih
      rw [tokensFrom_lexeme hblank hlexeme, Nat.add_right_comm, ih]
      cases tokensFrom behind (cs.drop (n - 1)) <;> rfl

theorem tokensFrom_of_tokens (h : tokens cs = .ok ts) (pos : Nat) :
    tokensFrom pos cs = .ok (ts.map (Token.moved pos)) := by
  have hadd := tokensFrom_add 0 pos cs
  rw [Nat.zero_add, show tokensFrom 0 cs = .ok ts from h] at hadd
  exact hadd

theorem tokensFrom_blanks {blanks : List Char} (h : ∀ w ∈ blanks, Text.isBlank w = true)
    (pos : Nat) (cs : List Char) :
    tokensFrom pos (blanks ++ cs) = tokensFrom (pos + Text.size blanks) cs := by
  induction blanks generalizing pos with
  | nil => rfl
  | cons w blanks ih =>
      obtain ⟨hw, hblanks⟩ := List.forall_mem_cons.mp h
      rw [List.cons_append, tokensFrom_blank hw, ih hblanks, Text.size_cons, Nat.add_assoc]

/-- The tokens of two texts with blanks between them are those of the first text and then those of
the second one, moved by what stands before it. If the second text has no tokens, then its
problem, moved as far, is the problem of the whole. -/
theorem tokens_append_blanks {a b blanks : List Char} (ha : tokens a = .ok ts)
    (hne : blanks ≠ []) (hblanks : ∀ w ∈ blanks, Text.isBlank w = true) :
    (∀ us, tokens b = .ok us → tokens (a ++ blanks ++ b) =
      .ok (ts ++ us.map (Token.moved (Text.size (a ++ blanks))))) ∧
    ∀ e, tokens b = .error e →
      tokens (a ++ blanks ++ b) = .error (e.shift (Text.size (a ++ blanks))) := by
  obtain ⟨w, rest, rfl⟩ := List.exists_cons_of_ne_nil hne
  have hw := hblanks w List.mem_cons_self
  have hseam : tokens (a ++ w :: rest ++ b) =
      (tokensFrom (0 + Text.size (a ++ w :: rest)) b).map (ts ++ ·) := by
    have happend := tokensFrom_append_blank hw ha (rest ++ b)
    rw [← List.cons_append, tokensFrom_blanks hblanks, Nat.add_assoc, ← Text.size_append,
      ← List.append_assoc] at happend
    exact happend
  rw [hseam, tokensFrom_add, ← tokens]
  constructor
  · intro us hus
    rw [hus]
    rfl
  · intro e he
    rw [he]
    rfl

/-- Blanks keep two signs apart; the wide one has three bytes. -/
theorem tokens_append_blanks_wide :
    let a := "x=".toList
    let blanks := [' ', '\u3000']
    tokens a = .ok [⟨.name "x", 0⟩, ⟨.sign .assign, 1⟩] ∧ blanks ≠ [] ∧
      (∀ w ∈ blanks, Text.isBlank w = true) ∧
      tokens (a ++ blanks ++ "=é".toList) =
        .ok [⟨.name "x", 0⟩, ⟨.sign .assign, 1⟩, ⟨.sign .assign, 6⟩, ⟨.name "é", 7⟩] ∧
      tokens (a ++ blanks ++ "='".toList) = .error ⟨.unclosedString, 7⟩ := by
  intro a blanks
  have ha : tokens a = .ok [⟨.name "x", 0⟩, ⟨.sign .assign, 1⟩] := by
    have hassign : tokensFrom 1 ['='] = .ok [⟨.sign .assign, 1⟩] :=
      tokensFrom_cons (n := 1) (by decide) (by rfl) (tokensFrom_nil 2)
    exact tokensFrom_cons (n := 1) (by decide) (by rfl) hassign
  have hblanks : ∀ w ∈ blanks, Text.isBlank w = true := List.all_eq_true.mp (by decide)
  have happend := fun b => tokens_append_blanks (b := b) ha (List.cons_ne_nil ' ' _) hblanks
  have hname : tokens "=é".toList = .ok [⟨.sign .assign, 0⟩, ⟨.name "é", 1⟩] := by
    have hrest : tokensFrom 1 ['é'] = .ok [⟨.name "é", 1⟩] :=
      tokensFrom_cons (n := 1) (by decide) (by rfl) (tokensFrom_nil 3)
    exact tokensFrom_cons (n := 1) (by decide) (by rfl) hrest
  have hquote : tokens "='".toList = .error ⟨.unclosedString, 1⟩ := by
    have hrest : tokensFrom 1 ['\''] = .error ⟨.unclosedString, 1⟩ := by
      rw [tokensFrom, if_neg (by decide)]
      rfl
    exact (tokensFrom_lexeme (n := 1) (by decide) (by rfl)).trans (congrArg _ hrest)
  exact ⟨ha, List.cons_ne_nil _ _, hblanks, (happend _).1 _ hname, (happend _).2 _ hquote⟩

end Lexer

end Stencil
