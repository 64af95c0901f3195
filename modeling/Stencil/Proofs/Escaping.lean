import Mathlib.Data.List.TakeWhile
import Stencil.Filter

/-! # Escaping

What the filter `escape` makes of a text. The four characters with a meaning in HTML become
entities in one pass, which is the same as four passes one behind the other: one over the
ampersands, which steps over the entities that are there, and one over each of the other
characters.
-/

namespace Stencil

namespace Filter

/-- A text, which stands behind an ampersand, goes on with the name of an entity and a
semicolon. -/
def NamesEntity (cs : List Char) : Prop :=
  ∃ name behind, name ≠ [] ∧ (∀ c ∈ name, isEntityChar c) ∧ cs = name ++ ';' :: behind

/-- An entity stands somewhere in a text. -/
def HasEntity (s : List Char) : Prop :=
  ∃ before behind, s = before ++ '&' :: behind ∧ NamesEntity behind

/-- A text that may stand between tags and in an attribute: it has no bracket of a tag and no
quote, and its ampersands all start entities. -/
structure Safe (s : List Char) : Prop where
  noLess : '<' ∉ s
  noGreater : '>' ∉ s
  noQuote : '"' ∉ s
  entity : ∀ before behind, s = before ++ '&' :: behind → NamesEntity behind

/-- Writes the characters that `escape` makes entities of for these entities, in one pass from
left to right. -/
def decode : List Char → List Char
  | '&' :: 'a' :: 'm' :: 'p' :: ';' :: cs => '&' :: decode cs
  | '&' :: 'l' :: 't' :: ';' :: cs => '<' :: decode cs
  | '&' :: 'g' :: 't' :: ';' :: cs => '>' :: decode cs
  | '&' :: 'q' :: 'u' :: 'o' :: 't' :: ';' :: cs => '"' :: decode cs
  | c :: cs => c :: decode cs
  | [] => []

/-- A character without a meaning in HTML. -/
def Plain (c : Char) : Prop := c ≠ '&' ∧ c ≠ '<' ∧ c ≠ '>' ∧ c ≠ '"'

instance (c : Char) : Decidable (Plain c) :=
  inferInstanceAs (Decidable (c ≠ '&' ∧ c ≠ '<' ∧ c ≠ '>' ∧ c ≠ '"'))

theorem plain_of_isEntityChar {c : Char} (h : isEntityChar c) : Plain c := by
  refine ⟨?_, ?_, ?_, ?_⟩ <;> rintro rfl <;> exact absurd h (by decide)

theorem takeWhile_name {name : List Char} (hname : ∀ c ∈ name, isEntityChar c)
    (behind : List Char) : (name ++ ';' :: behind).takeWhile isEntityChar = name := by
  rw [List.takeWhile_append_of_pos hname, List.takeWhile_cons_of_neg (by decide),
    List.append_nil]

theorem dropWhile_name {name : List Char} (hname : ∀ c ∈ name, isEntityChar c)
    (behind : List Char) :
    (name ++ ';' :: behind).dropWhile isEntityChar = ';' :: behind := by
  rw [List.dropWhile_append_of_pos hname, List.dropWhile_cons_of_neg (by decide)]

/-- The longest start of name characters decides whether there is an entity. -/
theorem startsEntity_iff {cs : List Char} : startsEntity cs ↔ NamesEntity cs := by
  constructor
  · intro h
    unfold startsEntity at h
    split at h
    next c name behind hname hbehind =>
      have hcs := List.takeWhile_append_dropWhile (p := isEntityChar) (l := cs)
      rw [hname, hbehind] at hcs
      refine ⟨c :: name, behind, List.cons_ne_nil _ _, fun d hd => ?_, hcs.symm⟩
      exact List.mem_takeWhile_imp (hname.symm ▸ hd)
    next => exact nomatch h
  · rintro ⟨name, behind, hne, hname, rfl⟩
    obtain ⟨c, name, rfl⟩ := List.exists_cons_of_ne_nil hne
    unfold startsEntity
    rw [takeWhile_name hname, dropWhile_name hname]
    rfl

instance : DecidablePred NamesEntity := fun _ => decidable_of_iff _ startsEntity_iff

theorem hasEntity_cons_iff {c : Char} {cs : List Char} :
    HasEntity (c :: cs) ↔ c = '&' ∧ NamesEntity cs ∨ HasEntity cs := by
  constructor
  · rintro ⟨before, behind, h, hbehind⟩
    cases before with
    | nil =>
        cases h
        exact .inl ⟨rfl, hbehind⟩
    | cons d before =>
        cases h
        exact .inr ⟨before, behind, rfl, hbehind⟩
  · rintro (⟨rfl, hcs⟩ | ⟨before, behind, rfl, hbehind⟩)
    · exact ⟨[], cs, rfl, hcs⟩
    · exact ⟨c :: before, behind, rfl, hbehind⟩

instance decidableHasEntity : DecidablePred HasEntity
  | [] => isFalse fun ⟨_, _, h, _⟩ => by simp at h
  | c :: cs =>
    have : Decidable (HasEntity cs) := decidableHasEntity cs
    decidable_of_iff (c = '&' ∧ NamesEntity cs ∨ HasEntity cs) hasEntity_cons_iff.symm

/-! ## Character by character -/

/-- What is written for a character in front of a text. -/
inductive Writes : Char → List Char → List Char → Prop
  | entity {cs} (h : NamesEntity cs) : Writes '&' cs ['&']
  | ampersand {cs} (h : ¬ NamesEntity cs) : Writes '&' cs "&amp;".toList
  | less {cs} : Writes '<' cs "&lt;".toList
  | greater {cs} : Writes '>' cs "&gt;".toList
  | quote {cs} : Writes '"' cs "&quot;".toList
  | plain {c cs} (h : Plain c) : Writes c cs [c]

theorem exists_writes (c : Char) (cs : List Char) :
    ∃ word, Writes c cs word ∧ escape (c :: cs) = word ++ escape cs := by
  by_cases hamp : c = '&'
  · subst hamp
    by_cases h : startsEntity cs
    · exact ⟨_, .entity (startsEntity_iff.mp h), by simp [escape, h]⟩
    · exact ⟨_, .ampersand (mt startsEntity_iff.mpr h), by simp [escape, h]⟩
  by_cases hless : c = '<'
  · subst hless
    exact ⟨_, .less, rfl⟩
  by_cases hgreater : c = '>'
  · subst hgreater
    exact ⟨_, .greater, rfl⟩
  by_cases hquote : c = '"'
  · subst hquote
    exact ⟨_, .quote, rfl⟩
  exact ⟨_, .plain ⟨hamp, hless, hgreater, hquote⟩, by simp [escape, hamp, hless, hgreater, hquote]⟩

theorem escape_plain {c : Char} (h : Plain c) (cs : List Char) :
    escape (c :: cs) = c :: escape cs := by
  obtain ⟨word, hword, heq⟩ := exists_writes c cs
  cases hword with
  | plain => exact heq
  | entity | ampersand | less | greater | quote => simp [Plain] at h

theorem escape_plain_append {front : List Char} (h : ∀ c ∈ front, Plain c) (cs : List Char) :
    escape (front ++ cs) = front ++ escape cs := by
  induction front with
  | nil => rfl
  | cons c front ih =>
      obtain ⟨hc, hfront⟩ := List.forall_mem_cons.mp h
      rw [List.cons_append, escape_plain hc, ih hfront, List.cons_append]

/-- An entity stays one, since no character of its name and no semicolon is written in another
way. -/
theorem NamesEntity.escape {cs : List Char} (h : NamesEntity cs) : NamesEntity (escape cs) := by
  obtain ⟨name, behind, hne, hname, rfl⟩ := h
  refine ⟨name, Filter.escape behind, hne, hname, ?_⟩
  rw [escape_plain_append fun c hc => plain_of_isEntityChar (hname c hc),
    escape_plain (by decide)]

theorem safe_nil : Safe [] where
  noLess := List.not_mem_nil
  noGreater := List.not_mem_nil
  noQuote := List.not_mem_nil
  entity before behind h := by simp at h

theorem safe_cons_iff {c : Char} {cs : List Char} :
    Safe (c :: cs) ↔
      c ≠ '<' ∧ c ≠ '>' ∧ c ≠ '"' ∧ (c = '&' → NamesEntity cs) ∧ Safe cs := by
  constructor
  · rintro ⟨hless, hgreater, hquote, hentity⟩
    simp only [List.mem_cons, not_or] at hless hgreater hquote
    refine ⟨Ne.symm hless.1, Ne.symm hgreater.1, Ne.symm hquote.1, ?_, hless.2, hgreater.2,
      hquote.2, ?_⟩
    · rintro rfl
      exact hentity [] cs rfl
    · rintro before behind rfl
      exact hentity (c :: before) behind rfl
  · rintro ⟨hless, hgreater, hquote, hentity, hcs⟩
    refine ⟨?_, ?_, ?_, ?_⟩
    · simp [hcs.noLess, Ne.symm hless]
    · simp [hcs.noGreater, Ne.symm hgreater]
    · simp [hcs.noQuote, Ne.symm hquote]
    · intro before behind h
      cases before with
      | nil =>
          cases h
          exact hentity rfl
      | cons d before =>
          cases h
          exact hcs.entity before behind rfl

theorem Safe.plain {c : Char} {cs : List Char} (hc : Plain c) (h : Safe cs) : Safe (c :: cs) :=
  safe_cons_iff.mpr ⟨hc.2.1, hc.2.2.1, hc.2.2.2, fun hamp => absurd hamp hc.1, h⟩

theorem Safe.plain_append {front cs : List Char} (hfront : ∀ c ∈ front, Plain c) (h : Safe cs) :
    Safe (front ++ cs) := by
  induction front with
  | nil => exact h
  | cons c front ih =>
      obtain ⟨hc, hfront⟩ := List.forall_mem_cons.mp hfront
      exact (ih hfront).plain hc

theorem Safe.ampersand {cs : List Char} (hcs : NamesEntity cs) (h : Safe cs) :
    Safe ('&' :: cs) :=
  safe_cons_iff.mpr ⟨by decide, by decide, by decide, fun _ => hcs, h⟩

/-- A safe text stays safe behind an entity. -/
theorem Safe.entity_append {cs : List Char} (h : Safe cs) (name : List Char) (hne : name ≠ [])
    (hname : name.all isEntityChar) : Safe ('&' :: (name ++ ';' :: cs)) := by
  have hname := List.all_eq_true.mp hname
  have hbehind : Safe (name ++ ';' :: cs) :=
    .plain_append (fun c hc => plain_of_isEntityChar (hname c hc)) (.plain (by decide) h)
  exact hbehind.ampersand ⟨name, cs, hne, hname, rfl⟩

theorem safe_escape (s : List Char) : Safe (escape s) := by
  induction s with
  | nil => exact safe_nil
  | cons c cs ih =>
      obtain ⟨word, hword, heq⟩ := exists_writes c cs
      rw [heq]
      cases hword with
      | entity h => exact ih.ampersand h.escape
      | ampersand => exact ih.entity_append "amp".toList (by decide) (by decide)
      | less => exact ih.entity_append "lt".toList (by decide) (by decide)
      | greater => exact ih.entity_append "gt".toList (by decide) (by decide)
      | quote => exact ih.entity_append "quot".toList (by decide) (by decide)
      | plain h => exact ih.plain h

/-- A safe text has nothing to escape. -/
theorem Safe.escape_eq {s : List Char} (h : Safe s) : escape s = s := by
  induction s with
  | nil => rfl
  | cons c cs ih =>
      obtain ⟨hless, hgreater, hquote, hentity, hcs⟩ := safe_cons_iff.mp h
      obtain ⟨word, hword, heq⟩ := exists_writes c cs
      rw [heq, ih hcs]
      cases hword with
      | entity | plain => rfl
      | ampersand hnone => exact absurd (hentity rfl) hnone
      | less => exact absurd rfl hless
      | greater => exact absurd rfl hgreater
      | quote => exact absurd rfl hquote

/-! ## Decoding -/

theorem decode_cons {c : Char} (h : c ≠ '&') (cs : List Char) :
    decode (c :: cs) = c :: decode cs := by
  rw [decode]
  all_goals simp [h]

/-- Decoding restores a text without entities of its own. -/
theorem decode_escape {s : List Char} (h : ¬ HasEntity s) : decode (escape s) = s := by
  induction s with
  | nil => rfl
  | cons c cs ih =>
      obtain ⟨hnone, hcs⟩ := not_or.mp (mt hasEntity_cons_iff.mpr h)
      have hcs : decode (escape cs) = cs := ih hcs
      obtain ⟨word, hword, heq⟩ := exists_writes c cs
      rw [heq]
      cases hword with
      | entity hentity => exact absurd ⟨rfl, hentity⟩ hnone
      | ampersand => exact congrArg ('&' :: ·) hcs
      | less => exact congrArg ('<' :: ·) hcs
      | greater => exact congrArg ('>' :: ·) hcs
      | quote => exact congrArg ('"' :: ·) hcs
      | plain hc => rw [List.singleton_append, decode_cons hc.1, hcs]

/-! ## Four passes -/

/-- The pass over the ampersands: what the expression `&([A-Za-z0-9_]+;)?` matches is kept if it
is an entity, and becomes one otherwise. The first argument counts the characters of an entity
that are still to be kept. -/
def ampersandPass : Nat → List Char → List Char
  | _, [] => []
  | kept + 1, c :: cs => c :: ampersandPass kept cs
  | 0, c :: cs =>
    if c = '&' then
      if startsEntity cs then
        '&' :: ampersandPass ((cs.takeWhile isEntityChar).length + 1) cs
      else "&amp;".toList ++ ampersandPass 0 cs
    else c :: ampersandPass 0 cs

/-- The passes over the other three characters. -/
def laterPasses (s : List Char) : List Char :=
  Text.replace ['"'] "&quot;".toList
    (Text.replace ['>'] "&gt;".toList (Text.replace ['<'] "&lt;".toList s))

theorem replace_single (c : Char) (word s : List Char) :
    Text.replace [c] word s = s.flatMap fun d => if c = d then word else [d] := by
  unfold Text.replace
  induction s with
  | nil => rfl
  | cons d s ih =>
      rw [Text.replaceFrom, List.flatMap_cons, ← ih]
      by_cases h : c = d
      · simp [Text.after?, h]
      · simp [Text.after?, h]

theorem laterPasses_append (s t : List Char) :
    laterPasses (s ++ t) = laterPasses s ++ laterPasses t := by
  simp only [laterPasses, replace_single, List.flatMap_append]

theorem laterPasses_of_ne {c : Char} (hless : c ≠ '<') (hgreater : c ≠ '>') (hquote : c ≠ '"') :
    laterPasses [c] = [c] := by
  simp [laterPasses, replace_single, Ne.symm hless, Ne.symm hgreater, Ne.symm hquote]

theorem laterPasses_cons (c : Char) (cs : List Char) :
    laterPasses (c :: cs) = laterPasses [c] ++ laterPasses cs :=
  laterPasses_append [c] cs

theorem ampersandPass_entity {cs : List Char} (h : NamesEntity cs) :
    ampersandPass 0 ('&' :: cs) =
      '&' :: ampersandPass ((cs.takeWhile isEntityChar).length + 1) cs := by
  rw [ampersandPass, if_pos rfl, if_pos (startsEntity_iff.mpr h)]

theorem ampersandPass_ampersand {cs : List Char} (h : ¬ NamesEntity cs) :
    ampersandPass 0 ('&' :: cs) = "&amp;".toList ++ ampersandPass 0 cs := by
  rw [ampersandPass, if_pos rfl, if_neg (mt startsEntity_iff.mp h)]

theorem ampersandPass_of_ne {c : Char} (h : c ≠ '&') (cs : List Char) :
    ampersandPass 0 (c :: cs) = c :: ampersandPass 0 cs := by
  rw [ampersandPass, if_neg h]

theorem ampersand_notMem_entity {cs : List Char} (h : NamesEntity cs) :
    '&' ∉ cs.take ((cs.takeWhile isEntityChar).length + 1) := by
  obtain ⟨name, behind, -, hname, rfl⟩ := h
  rw [takeWhile_name hname, List.take_length_add_append, List.mem_append, not_or]
  exact ⟨fun hmem => absurd (hname _ hmem) (by decide), by simp⟩

/-- The later passes behind the pass over the ampersands, from a place inside an entity on. -/
theorem laterPasses_ampersandPass {kept : Nat} {cs : List Char} (h : '&' ∉ cs.take kept) :
    laterPasses (ampersandPass kept cs) = escape cs := by
  induction cs generalizing kept with
  | nil => cases kept <;> rfl
  | cons c cs ih =>
      have hrest : laterPasses (ampersandPass 0 cs) = escape cs := ih (by simp)
      obtain ⟨word, hword, heq⟩ := exists_writes c cs
      rw [heq]
      cases kept with
      | succ kept =>
          obtain ⟨hc, hcs⟩ := not_or.mp (mt List.mem_cons.mpr h)
          rw [ampersandPass, laterPasses_cons, ih hcs]
          cases hword with
          | entity | ampersand => exact absurd rfl hc
          | less | greater | quote => rfl
          | plain hplain => rw [laterPasses_of_ne hplain.2.1 hplain.2.2.1 hplain.2.2.2]
      | zero =>
          cases hword with
          | entity hentity =>
              rw [ampersandPass_entity hentity, laterPasses_cons,
                ih (ampersand_notMem_entity hentity)]
              rfl
          | ampersand hnone =>
              rw [ampersandPass_ampersand hnone, laterPasses_append, hrest]
              rfl
          | less | greater | quote =>
              rw [ampersandPass_of_ne (by decide), laterPasses_cons, hrest]
              rfl
          | plain hplain =>
              rw [ampersandPass_of_ne hplain.1, laterPasses_cons, hrest,
                laterPasses_of_ne hplain.2.1 hplain.2.2.1 hplain.2.2.2]

/-- Escaping in one pass does the same as the four passes one behind the other. -/
theorem escape_eq_passes (s : List Char) : escape s = laterPasses (ampersandPass 0 s) :=
  (laterPasses_ampersandPass (by simp)).symm

example : escape "&a&b;&&lt;<".toList = "&amp;a&b;&amp;&lt;&lt;".toList := by decide

/-! ## What escaping does -/

/-- Escaping gives a safe text, changes a text exactly if it is not safe, so that doing it again
changes nothing, and loses nothing of a text in which no entity stands. -/
theorem escape_safe_lossless (s : List Char) :
    Safe (escape s) ∧ (escape s = s ↔ Safe s) ∧ escape (escape s) = escape s ∧
      (¬ HasEntity s → decode (escape s) = s) :=
  ⟨safe_escape s, ⟨fun h => h ▸ safe_escape s, Safe.escape_eq⟩, (safe_escape s).escape_eq,
    decode_escape⟩

theorem escape_safe_lossless_tag :
    ¬ HasEntity "<b> & \"c\"".toList ∧
      decode (escape "<b> & \"c\"".toList) = "<b> & \"c\"".toList :=
  have hnone : ¬ HasEntity "<b> & \"c\"".toList := by decide
  ⟨hnone, (escape_safe_lossless _).2.2.2 hnone⟩

end Filter

end Stencil
