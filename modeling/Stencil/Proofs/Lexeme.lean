import Stencil.Proofs.CheckedReading

/-! # Spellings of tokens

Which words spell which tokens, stated without a lexer. The lexer takes the longest word at a place
that spells a token, and it fails exactly if no word there spells any.
-/

namespace Stencil

namespace Lexer

/-- Digits, alone or with further digits behind a point. -/
inductive Digits : List Char → Prop
  | whole {ds : List Char} (hne : ds ≠ []) (hds : ∀ d ∈ ds, Decimal.isDigit d = true) : Digits ds
  | point {ds fs : List Char} (hne : ds ≠ []) (hds : ∀ d ∈ ds, Decimal.isDigit d = true)
      (hfne : fs ≠ []) (hfs : ∀ d ∈ fs, Decimal.isDigit d = true) : Digits (ds ++ '.' :: fs)

/-- `Content quote body s`: between two quotes `body` stands for the string `s`. -/
inductive Content (quote : Char) : List Char → List Char → Prop
  | nil : Content quote [] []
  | plain {c : Char} {body s : List Char} (hquote : c ≠ quote) (hslash : c ≠ '\\')
      (h : Content quote body s) : Content quote (c :: body) (c :: s)
  | newline {body s : List Char} (h : Content quote body s) :
      Content quote ('\\' :: 'n' :: body) ('\n' :: s)
  | tab {body s : List Char} (h : Content quote body s) :
      Content quote ('\\' :: 't' :: body) ('\t' :: s)
  | escaped {c : Char} {body s : List Char} (hn : c ≠ 'n') (ht : c ≠ 't')
      (h : Content quote body s) : Content quote ('\\' :: c :: body) (c :: s)

/-- The characters that quotes can be. -/
def IsQuote (c : Char) : Prop := c = '"' ∨ c = '\''

/-- `Spells word kind`: the word is a spelling of a token of this kind. -/
inductive Spells : List Char → Token.Kind → Prop
  | sign (s : Sign) : Spells s.spelling.toList (.sign s)
  | name {c : Char} {cs : List Char} (hc : isNameStart c = true)
      (hcs : ∀ d ∈ cs, isNamePart d = true) (htrue : c :: cs ≠ "true".toList)
      (hfalse : c :: cs ≠ "false".toList) (hnull : c :: cs ≠ "null".toList) :
      Spells (c :: cs) (.name (String.ofList (c :: cs)))
  | bool (b : Bool) : Spells (if b then "true" else "false").toList (.bool b)
  | null : Spells "null".toList .null
  | number {word : List Char} {x : Float} (hword : Digits word)
      (hx : Decimal.float? word = some x) : Spells word (.number x)
  | string {quote : Char} {body s : List Char} (hquote : IsQuote quote)
      (h : Content quote body s) : Spells (quote :: (body ++ [quote])) (.string (String.ofList s))

/-- Where `word` stands before `behind`, it spells a token, and no longer word that starts there
spells any token. -/
structure Longest (word : List Char) (kind : Token.Kind) (behind : List Char) : Prop where
  spells : Spells word kind
  longest : ∀ other kind', other <+: word ++ behind → Spells other kind' →
    other.length ≤ word.length

/-- Why no word at the start of the text `c :: cs` spells a token: a quote is never closed, or the
text starts with nothing that begins a token. -/
inductive Unspelled : Char → List Char → Problem → Prop
  | unclosed {quote : Char} {cs : List Char} (hquote : IsQuote quote)
      (h : ∀ body s, Content quote body s → ¬ body ++ [quote] <+: cs) :
      Unspelled quote cs .unclosedString
  | stray {c : Char} {cs : List Char} (hquote : ¬ IsQuote c)
      (h : ∀ word kind, word <+: c :: cs → ¬ Spells word kind) : Unspelled c cs (.strayChar c)

end Lexer

/-! ## Characters that begin tokens -/

namespace Lexer

variable {c : Char} {cs : List Char}

theorem isNameStart_of_isDigit (h : Decimal.isDigit c = true) : isNameStart c = false := by
  have hdigit : Text.CharSet.contains [(48, 57)] c = true := by
    simp only [Decimal.isDigit, Bool.and_eq_true, decide_eq_true_eq] at h
    have hzero : 48 ≤ c.toNat := h.1
    have hnine : c.toNat ≤ 57 := h.2
    simp [Text.CharSet.contains, Text.CharSet.containsCode, hzero, hnine]
  have hletter : Text.isLetter c = false :=
    Text.CharSet.contains_eq_false (by decide +kernel) hdigit
  have hunderscore : c ≠ '_' := Decimal.ne_of_isDigit h rfl
  have hdollar : c ≠ '$' := Decimal.ne_of_isDigit h rfl
  simp [isNameStart, hletter, hunderscore, hdollar]

theorem IsQuote.plain (h : IsQuote c) :
    isNameStart c = false ∧ Decimal.isDigit c = false ∧ c ≠ '\\' := by
  rcases h with rfl | rfl
  · exact ⟨by decide +kernel, by decide, by decide⟩
  · exact ⟨by decide +kernel, by decide, by decide⟩

theorem isQuote_iff : (c = '"' || c = '\'') = true ↔ IsQuote c := by
  simp [IsQuote]

/-- A sign begins with a character that begins nothing else. -/
theorem exists_first_of_sign (s : Sign) :
    ∃ c cs, s.spelling.toList = c :: cs ∧ isNameStart c = false ∧ Decimal.isDigit c = false ∧
      ¬ IsQuote c := by
  unfold IsQuote
  cases s <;> exact ⟨_, _, rfl, by decide +kernel, by decide, by decide⟩

/-! ## What the lexer takes at a place -/

theorem lexeme_of_isNameStart (h : isNameStart c = true) :
    lexeme c cs = .ok (Token.Kind.ofWord (c :: cs.takeWhile isNamePart),
      (c :: cs.takeWhile isNamePart).length) := by
  rw [lexeme, if_pos h]

theorem lexeme_of_isDigit (h : Decimal.isDigit c = true) :
    lexeme c cs = .ok (.number (numeral (c :: cs)).toFloat, numeralLength (numeral (c :: cs))) := by
  simp [lexeme, isNameStart_of_isDigit h, h]

theorem lexeme_of_isQuote (h : IsQuote c) :
    lexeme c cs = match quoted? c cs with
      | some (s, n) => .ok (.string (String.ofList s), n + 1)
      | none => .error .unclosedString := by
  obtain ⟨hstart, hdigit, -⟩ := h.plain
  simp only [lexeme, hstart, hdigit, isQuote_iff.mpr h]
  rfl

theorem lexeme_of_other (hstart : isNameStart c = false) (hdigit : Decimal.isDigit c = false)
    (hquote : ¬ IsQuote c) :
    lexeme c cs = match Sign.read? (c :: cs) with
      | some sign => .ok (.sign sign, sign.spelling.length)
      | none => .error (.strayChar c) := by
  rw [← isQuote_iff, Bool.not_eq_true] at hquote
  simp only [lexeme, hstart, hdigit, hquote]
  rfl

/-! ## Every word that spells a token is taken, or a longer one -/

/-- What stands between quotes is read up to the closing quote. -/
theorem quoted?_of_content {quote : Char} {body s : List Char} (h : Content quote body s)
    (hslash : quote ≠ '\\') (behind : List Char) :
    quoted? quote (body ++ quote :: behind) = some (s, body.length + 1) := by
  induction h with
  | nil =>
      rw [List.nil_append, quoted?.eq_def]
      simp
  | plain hquote hplain _ ih =>
      rw [List.cons_append, quoted?.eq_def]
      simp [hquote, hplain, ih]
  | newline _ ih =>
      rw [List.cons_append, List.cons_append, quoted?]
      simp [hslash.symm, ih, unescape]
  | tab _ ih =>
      rw [List.cons_append, List.cons_append, quoted?]
      simp [hslash.symm, ih, unescape]
  | escaped hn ht _ ih =>
      rw [List.cons_append, List.cons_append, quoted?]
      simp [hslash.symm, ih, unescape, hn, ht]

theorem Digits.length_le {word behind : List Char} (h : Digits word) :
    word.length ≤ numeralLength (numeral (word ++ behind)) := by
  cases h with
  | whole hne hds =>
      simp only [numeralLength, numeral, List.takeWhile_append_of_pos hds, List.length_append]
      omega
  | @point ds fs hne hds hfne hfs =>
      have hpoint : Decimal.isDigit '.' = false := rfl
      have hwhole : (ds ++ '.' :: (fs ++ behind)).takeWhile Decimal.isDigit = ds := by
        rw [takeWhile_append_cons_of_neg hpoint, List.takeWhile_eq_self_iff.mpr hds]
      have hrest : (ds ++ '.' :: (fs ++ behind)).dropWhile Decimal.isDigit =
          '.' :: (fs ++ behind) := by
        rw [dropWhile_append_cons_of_neg hpoint, List.dropWhile_eq_nil_iff.mpr hds,
          List.nil_append]
      have hfraction : (fs ++ behind).takeWhile Decimal.isDigit ≠ [] := by
        rw [List.takeWhile_append_of_pos hfs]
        exact List.append_ne_nil_of_left_ne_nil hfne _
      have hlength : fs.length ≤ ((fs ++ behind).takeWhile Decimal.isDigit).length := by
        rw [List.takeWhile_append_of_pos hfs, List.length_append]
        exact Nat.le_add_right _ _
      simp only [numeralLength, numeral, List.append_assoc, List.cons_append, hwhole, hrest,
        List.isEmpty_eq_false_iff.mpr hfraction, List.length_append, List.length_cons]
      simp only [Bool.false_eq_true, if_false]
      omega

end Lexer

namespace Sign

theorem mem_all (s : Sign) : s ∈ all := by
  cases s <;> decide

/-- No sign comes behind a shorter one, and no two are spelled alike. -/
theorem pairwise_all :
    all.Pairwise fun s t => t.spelling.length ≤ s.spelling.length ∧ s.spelling ≠ t.spelling := by
  decide +kernel

/-- The longest sign at a place is read. -/
theorem read?_of_prefix {s : Sign} {cs : List Char} (h : s.spelling.toList <+: cs) :
    ∃ t, read? cs = some t ∧ s.spelling.length ≤ t.spelling.length ∧
      (s.spelling.length = t.spelling.length → s = t) := by
  let starts : Sign → Bool := fun s => s.spelling.toList.isPrefixOf cs
  have hs : starts s = true := List.isPrefixOf_iff_prefix.mpr h
  obtain ⟨t, ht⟩ := Option.isSome_iff_exists.mp (List.find?_isSome.mpr ⟨s, mem_all s, hs⟩)
  refine ⟨t, ht, ?_⟩
  obtain ⟨-, before, behind, hall, hbefore⟩ := List.find?_eq_some_iff_append.mp ht
  have hmem : s ∈ before ++ t :: behind := hall ▸ mem_all s
  have hpairs := pairwise_all
  rw [hall] at hpairs
  rcases List.mem_append.mp hmem with hmem | hmem
  · -- whatever comes before the sign that is found does not stand here
    have hnot := hbefore s hmem
    rw [hs] at hnot
    exact nomatch hnot
  rcases List.mem_cons.mp hmem with rfl | hmem
  · exact ⟨Nat.le_refl _, fun _ => rfl⟩
  obtain ⟨hle, hne⟩ := List.rel_of_pairwise_cons (List.pairwise_append.mp hpairs).2.1 hmem
  refine ⟨hle, fun hlength => absurd ?_ hne⟩
  rw [← String.length_toList, ← String.length_toList] at hlength
  have htoList := (List.prefix_of_prefix_length_le h (isPrefix_of_read? ht)
    (Nat.le_of_eq hlength)).eq_of_length hlength
  exact (String.toList_inj.mp htoList).symm

end Sign

namespace Lexer

variable {c : Char} {cs word : List Char} {kind : Token.Kind} {n : Nat}

/-- The lexer takes a token of the kind with `length` characters, or one with more. -/
def Takes (c : Char) (cs : List Char) (kind : Token.Kind) (length : Nat) : Prop :=
  ∃ kind' n, lexeme c cs = .ok (kind', n) ∧ length ≤ n ∧ (length = n → kind = kind')

theorem takes_word {rest : List Char} (hc : isNameStart c = true)
    (hrest : ∀ d ∈ rest, isNamePart d = true) (hfront : rest <+: cs) :
    Takes c cs (Token.Kind.ofWord (c :: rest)) (c :: rest).length := by
  obtain ⟨behind, rfl⟩ := hfront
  refine ⟨_, _, lexeme_of_isNameStart hc, ?_, ?_⟩
  · rw [List.takeWhile_append_of_pos hrest]
    simp
  · rw [List.takeWhile_append_of_pos hrest]
    intro hlength
    have hnil : behind.takeWhile isNamePart = [] := by
      simp only [List.length_cons, List.length_append] at hlength
      exact List.eq_nil_of_length_eq_zero (by omega)
    rw [hnil, List.append_nil]

theorem takes_number {x : Float} (hdigit : Decimal.isDigit c = true) (h : Digits word)
    (hx : Decimal.float? word = some x) (hfront : word <+: c :: cs) :
    Takes c cs (.number x) word.length := by
  refine ⟨_, _, lexeme_of_isDigit hdigit, ?_, ?_⟩
  · obtain ⟨behind, hbehind⟩ := hfront
    rw [← hbehind]
    exact h.length_le
  · intro hlength
    rw [← length_spelling] at hlength
    have hnumeral := spelling_prefix (c :: cs)
    have hword : word = spelling (numeral (c :: cs)) :=
      (List.prefix_of_prefix_length_le hfront hnumeral
        (Nat.le_of_eq hlength)).eq_of_length hlength
    rw [hword, float?_spelling hdigit, Option.some.injEq] at hx
    rw [hx]

theorem takes_string {body s : List Char} (hquote : IsQuote c) (h : Content c body s)
    (hfront : body ++ [c] <+: cs) :
    Takes c cs (.string (String.ofList s)) (c :: (body ++ [c])).length := by
  obtain ⟨behind, rfl⟩ := hfront
  have hread := quoted?_of_content h hquote.plain.2.2 behind
  refine ⟨_, _, ?_, Nat.le_refl _, fun _ => rfl⟩
  rw [lexeme_of_isQuote hquote, List.append_assoc, List.singleton_append, hread]
  simp

theorem takes_sign {s : Sign} (h : s.spelling.toList <+: c :: cs) :
    Takes c cs (.sign s) s.spelling.length := by
  obtain ⟨d, ds, hspelling, hstart, hdigit, hquote⟩ := exists_first_of_sign s
  obtain ⟨t, hread, hle, heq⟩ := Sign.read?_of_prefix h
  rw [hspelling] at h
  obtain ⟨rfl, -⟩ := List.cons_prefix_cons.mp h
  refine ⟨.sign t, t.spelling.length, ?_, hle, fun hlength => congrArg _ (heq hlength)⟩
  rw [lexeme_of_other hstart hdigit hquote, hread]

theorem Digits.exists_first (h : Digits word) :
    ∃ d ds, word = d :: ds ∧ Decimal.isDigit d = true := by
  cases h with
  | whole hne hds =>
      obtain ⟨d, ds, rfl⟩ := List.exists_cons_of_ne_nil hne
      exact ⟨d, ds, rfl, hds d List.mem_cons_self⟩
  | point hne hds _ _ =>
      obtain ⟨d, ds, rfl⟩ := List.exists_cons_of_ne_nil hne
      exact ⟨d, _, List.cons_append, hds d List.mem_cons_self⟩

/-- A word that spells a token is taken by the lexer, unless a longer one is. -/
theorem takes_of_spells (h : Spells word kind) (hfront : word <+: c :: cs) :
    Takes c cs kind word.length := by
  -- the three words that are constants are taken like names
  have hconstant : ∀ d ds, isNameStart d = true → ds.all isNamePart = true →
      word = d :: ds → kind = Token.Kind.ofWord word → Takes c cs kind word.length := by
    rintro d ds hd hds rfl rfl
    obtain ⟨rfl, hrest⟩ := List.cons_prefix_cons.mp hfront
    exact takes_word hd (List.all_eq_true.mp hds) hrest
  cases h with
  | sign s =>
      rw [String.length_toList]
      exact takes_sign hfront
  | name hc hcs htrue hfalse hnull =>
      apply hconstant _ _ hc (List.all_eq_true.mpr hcs) rfl
      simp only [Token.Kind.ofWord, htrue, hfalse, hnull, if_false]
  | bool b =>
      cases b with
      | true => exact hconstant 't' "rue".toList (by decide +kernel) (by decide +kernel) rfl rfl
      | false => exact hconstant 'f' "alse".toList (by decide +kernel) (by decide +kernel) rfl rfl
  | null => exact hconstant 'n' "ull".toList (by decide +kernel) (by decide +kernel) rfl rfl
  | number hword hx =>
      obtain ⟨d, ds, rfl, hd⟩ := hword.exists_first
      obtain ⟨rfl, -⟩ := List.cons_prefix_cons.mp hfront
      exact takes_number hd hword hx hfront
  | string hquote hcontent =>
      obtain ⟨rfl, hbody⟩ := List.cons_prefix_cons.mp hfront
      exact takes_string hquote hcontent hbody

/-! ## What the lexer takes spells a token -/

theorem content_of_quoted? {quote : Char} {s : List Char} (h : quoted? quote cs = some (s, n)) :
    ∃ body behind, cs = body ++ quote :: behind ∧ body.length + 1 = n ∧ Content quote body s := by
  induction cs using quoted?.induct quote generalizing s n with
  | case1 => cases h
  | case2 cs =>
      rw [quoted?.eq_def] at h
      simp only [if_true, Option.some.injEq, Prod.mk.injEq] at h
      obtain ⟨rfl, rfl⟩ := h
      exact ⟨[], cs, rfl, rfl, .nil⟩
  | case3 hquote =>
      rw [quoted?.eq_def] at h
      simp [hquote] at h
  | case4 e rest hquote ih =>
      rw [quoted?] at h
      simp only [hquote, if_false, if_true, Option.map_eq_some_iff] at h
      obtain ⟨⟨front, m⟩, hrest, heq⟩ := h
      cases heq
      obtain ⟨body, behind, rfl, rfl, hbody⟩ := ih hrest
      refine ⟨'\\' :: e :: body, behind, rfl, rfl, ?_⟩
      unfold unescape
      split
      next hn => exact hn ▸ .newline hbody
      next hn =>
        split
        next ht => exact ht ▸ .tab hbody
        next ht => exact .escaped hn ht hbody
  | case5 c cs hquote hslash ih =>
      rw [quoted?.eq_def] at h
      simp only [hquote, hslash, if_false, Option.map_eq_some_iff] at h
      obtain ⟨⟨front, m⟩, hrest, heq⟩ := h
      cases heq
      obtain ⟨body, behind, rfl, rfl, hbody⟩ := ih hrest
      exact ⟨c :: body, behind, rfl, rfl, .plain hquote hslash hbody⟩

theorem spells_ofWord (hc : isNameStart c = true) (hcs : ∀ d ∈ cs, isNamePart d = true) :
    Spells (c :: cs) (Token.Kind.ofWord (c :: cs)) := by
  unfold Token.Kind.ofWord
  split
  next h => exact h ▸ .bool true
  next htrue =>
  split
  next h => exact h ▸ .bool false
  next hfalse =>
  split
  next h => exact h ▸ .null
  next hnull => exact .name hc hcs htrue hfalse hnull

theorem digits_spelling (h : Decimal.isDigit c = true) :
    Digits (spelling (numeral (c :: cs))) := by
  have hne : (numeral (c :: cs)).whole ≠ [] := by simp [numeral, h]
  have hwhole : ∀ d ∈ (numeral (c :: cs)).whole, Decimal.isDigit d = true :=
    fun _ => List.mem_takeWhile_imp
  unfold spelling
  split
  next =>
    rw [List.append_nil]
    exact .whole hne hwhole
  next hfraction =>
    rw [List.isEmpty_iff] at hfraction
    exact .point hne hwhole hfraction fun _ => isDigit_of_mem_fraction

/-- What the lexer takes spells the token for which it is taken. -/
theorem spells_of_lexeme (h : lexeme c cs = .ok (kind, n)) :
    ∃ word behind, c :: cs = word ++ behind ∧ word.length = n ∧ Spells word kind := by
  by_cases hstart : isNameStart c = true
  · rw [lexeme_of_isNameStart hstart] at h
    cases h
    refine ⟨c :: cs.takeWhile isNamePart, cs.dropWhile isNamePart, ?_, rfl,
      spells_ofWord hstart fun _ => List.mem_takeWhile_imp⟩
    rw [List.cons_append, List.takeWhile_append_dropWhile]
  by_cases hdigit : Decimal.isDigit c = true
  · rw [lexeme_of_isDigit hdigit] at h
    cases h
    obtain ⟨behind, hbehind⟩ := spelling_prefix (c :: cs)
    exact ⟨_, behind, hbehind.symm, length_spelling _,
      .number (digits_spelling hdigit) (float?_spelling hdigit)⟩
  by_cases hquote : IsQuote c
  · rw [lexeme_of_isQuote hquote] at h
    cases hread : quoted? c cs with
    | none => simp [hread] at h
    | some found =>
        obtain ⟨s, m⟩ := found
        simp only [hread] at h
        cases h
        obtain ⟨body, behind, rfl, rfl, hbody⟩ := content_of_quoted? hread
        refine ⟨c :: (body ++ [c]), behind, ?_, ?_, .string hquote hbody⟩
        · simp
        · simp
  · rw [Bool.not_eq_true] at hstart hdigit
    rw [lexeme_of_other hstart hdigit hquote] at h
    cases hread : Sign.read? (c :: cs) with
    | none => simp [hread] at h
    | some s =>
        simp only [hread] at h
        cases h
        obtain ⟨behind, hbehind⟩ := Sign.isPrefix_of_read? hread
        exact ⟨_, behind, hbehind.symm, String.length_toList, .sign s⟩

/-! ## The longest word -/

/-- The lexer takes exactly the longest word that spells a token. -/
theorem lexeme_eq_ok_iff :
    lexeme c cs = .ok (kind, n) ↔
      ∃ word behind, c :: cs = word ++ behind ∧ word.length = n ∧ Longest word kind behind := by
  constructor
  · intro h
    obtain ⟨word, behind, hword, rfl, hspells⟩ := spells_of_lexeme h
    refine ⟨word, behind, hword, rfl, hspells, ?_⟩
    intro other kind' hother hspells'
    rw [← hword] at hother
    obtain ⟨_, n, hlexeme, hle, -⟩ := takes_of_spells hspells' hother
    rw [h] at hlexeme
    cases hlexeme
    exact hle
  · rintro ⟨word, behind, hword, rfl, hspells, hlongest⟩
    obtain ⟨kind', n, hlexeme, hle, heq⟩ :=
      takes_of_spells hspells (hword ▸ List.prefix_append word behind)
    obtain ⟨other, behind', hother, rfl, hspells'⟩ := spells_of_lexeme hlexeme
    have hge := hlongest other kind' (hword ▸ hother ▸ List.prefix_append other behind') hspells'
    have hlength := Nat.le_antisymm hle hge
    rw [hlexeme, ← heq hlength, hlength]

theorem problem_of_lexeme {problem : Problem} (h : lexeme c cs = .error problem) :
    IsQuote c ∧ problem = .unclosedString ∨ ¬ IsQuote c ∧ problem = .strayChar c := by
  by_cases hstart : isNameStart c = true
  · rw [lexeme_of_isNameStart hstart] at h
    exact nomatch h
  by_cases hdigit : Decimal.isDigit c = true
  · rw [lexeme_of_isDigit hdigit] at h
    exact nomatch h
  by_cases hquote : IsQuote c
  · rw [lexeme_of_isQuote hquote] at h
    split at h
    next => exact nomatch h
    next => exact .inl ⟨hquote, (Except.error.inj h).symm⟩
  · rw [Bool.not_eq_true] at hstart hdigit
    rw [lexeme_of_other hstart hdigit hquote] at h
    split at h
    next => exact nomatch h
    next => exact .inr ⟨hquote, (Except.error.inj h).symm⟩

/-- The lexer fails exactly where no word spells a token. -/
theorem lexeme_eq_error_iff {problem : Problem} :
    lexeme c cs = .error problem ↔ Unspelled c cs problem := by
  constructor
  · intro h
    have hnone : ∀ kind n, ¬ Takes c cs kind n := by
      rintro kind n ⟨_, _, hlexeme, -⟩
      rw [h] at hlexeme
      exact nomatch hlexeme
    rcases problem_of_lexeme h with ⟨hquote, rfl⟩ | ⟨hquote, rfl⟩
    · exact .unclosed hquote fun body s hbody hfront =>
        hnone _ _ (takes_string hquote hbody hfront)
    · exact .stray hquote fun word kind hfront hspells =>
        hnone _ _ (takes_of_spells hspells hfront)
  · intro h
    cases h with
    | unclosed hquote hopen =>
        rw [lexeme_of_isQuote hquote]
        cases hread : quoted? c cs with
        | none => rfl
        | some found =>
            obtain ⟨body, behind, rfl, -, hbody⟩ := content_of_quoted? hread
            refine absurd ?_ (hopen body found.1 hbody)
            exact ⟨behind, by simp⟩
    | stray hquote hnone =>
        cases hlexeme : lexeme c cs with
        | ok found =>
            obtain ⟨word, behind, hword, -, hspells⟩ := spells_of_lexeme hlexeme
            exact absurd hspells (hnone word _ (hword ▸ List.prefix_append word behind))
        | error problem =>
            rcases problem_of_lexeme hlexeme with ⟨hquote', -⟩ | ⟨-, rfl⟩
            · exact absurd hquote' hquote
            · rfl

/-- The sign for "and" is no sign when only half of it is written. -/
example : lexeme '&' " &".toList = .error (.strayChar '&') := by rfl

end Lexer

end Stencil
