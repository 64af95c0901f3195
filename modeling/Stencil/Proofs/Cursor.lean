import Stencil.Expr.Parser

/-! # Places between tokens

How far one place lies behind another: which tokens are taken on the way and how many operators
are spent. The steps of the parser are described by these two alone.
-/

namespace Stencil

/-- The byte at which the first of some tokens starts, or at which the text ends. -/
def Token.firstByte (stop : Nat) : List Token → Nat
  | [] => stop
  | t :: _ => t.pos

namespace Cursor

theorem here_eq_firstByte (c : Cursor) : c.here = Token.firstByte c.stop c.rest := by
  unfold here
  cases c.rest <;> rfl

/-- From `c` to `c'` the given tokens are taken and the given number of operators is spent. -/
structure Advances (c : Cursor) (ts : List Token) (n : Nat) (c' : Cursor) : Prop where
  rest : c.rest = ts ++ c'.rest
  stop : c.stop = c'.stop
  spare : c.spare = c'.spare + n

theorem Advances.refl (c : Cursor) : c.Advances [] 0 c := ⟨rfl, rfl, rfl⟩

theorem Advances.trans {c c' c'' : Cursor} {ts us : List Token} {n m : Nat}
    (h : c.Advances ts n c') (h' : c'.Advances us m c'') :
    c.Advances (ts ++ us) (n + m) c'' where
  rest := by rw [h.rest, h'.rest, List.append_assoc]
  stop := h.stop.trans h'.stop
  spare := by rw [h.spare, h'.spare]; omega

/-- A place on the way, given how far the tokens and the operators are divided. -/
theorem Advances.split {c c'' : Cursor} {ts us : List Token} {n m : Nat}
    (h : c.Advances (ts ++ us) (n + m) c'') :
    ∃ c', c.Advances ts n c' ∧ c'.Advances us m c'' := by
  have hspare : c.spare = c''.spare + m + n := by rw [h.spare]; omega
  exact ⟨⟨us ++ c''.rest, c''.stop, c''.spare + m⟩,
    ⟨h.rest.trans (List.append_assoc _ _ _), h.stop, hspare⟩, rfl, rfl, rfl⟩

/-- The place behind the first token. -/
theorem Advances.first {c c'' : Cursor} {token : Token} {ts : List Token} {n : Nat}
    (h : c.Advances (token :: ts) n c'') :
    ∃ c', c.Advances [token] 0 c' ∧ c'.Advances ts n c'' := by
  have h : c.Advances ([token] ++ ts) (0 + n) c'' := by rwa [Nat.zero_add]
  exact h.split

/-- The place behind the first token, if that is an operator. -/
theorem Advances.operator {c c'' : Cursor} {token : Token} {ts : List Token} {n : Nat}
    (h : c.Advances (token :: ts) (n + 1) c'') :
    ∃ c', c.Advances [token] 1 c' ∧ c'.Advances ts n c'' := by
  have h : c.Advances ([token] ++ ts) (1 + n) c'' := by rwa [Nat.add_comm]
  exact h.split

/-- The place at the end determines the place at the start. -/
theorem Advances.eq {c c' : Cursor} {ts : List Token} {n : Nat} (h : c.Advances ts n c') :
    c = ⟨ts ++ c'.rest, c'.stop, c'.spare + n⟩ := by
  rw [← h.rest, ← h.stop, ← h.spare]

/-- Where nothing is taken and nothing is spent, the place stays the same. -/
theorem Advances.eq_of_nil {c c' : Cursor} (h : c.Advances [] 0 c') : c = c' := by
  rw [h.eq]
  rfl

theorem sign?_eq_some_iff {c c' : Cursor} {s : Sign} :
    c.sign? = some (s, c') ↔ ∃ pos, c.Advances [⟨.sign s, pos⟩] 0 c' := by
  constructor
  · intro h
    unfold sign? at h
    split at h
    next t pos after heq =>
      cases h
      exact ⟨pos, heq, rfl, rfl⟩
    next => exact nomatch h
  · rintro ⟨pos, h⟩
    rw [h.eq]
    rfl

theorem spend_eq_ok_iff {c c' : Cursor} : c.spend = .ok c' ↔ c.Advances [] 1 c' := by
  constructor
  · intro h
    obtain ⟨rest, stop, spare⟩ := c
    cases spare with
    | zero => exact nomatch h
    | succ spare =>
        cases h
        exact ⟨rfl, rfl, rfl⟩
  · intro h
    rw [h.eq]
    rfl

theorem expect_eq_ok_iff {c c' : Cursor} {s : Sign} {problem : Problem} :
    c.expect s problem = .ok c' ↔ ∃ pos, c.Advances [⟨.sign s, pos⟩] 0 c' := by
  rw [← sign?_eq_some_iff]
  unfold expect
  split
  next t after heq =>
    by_cases hts : t = s
    · subst hts
      simp [heq]
    · simp [heq, hts]
  next heq => simp [heq]

/-- Taking an operator is reading its sign and spending one operator. -/
theorem spend_sign_iff {c c' : Cursor} {s : Sign} :
    (∃ after, c.sign? = some (s, after) ∧ after.spend = .ok c') ↔
      ∃ pos, c.Advances [⟨.sign s, pos⟩] 1 c' := by
  constructor
  · rintro ⟨after, hsign, hspend⟩
    obtain ⟨pos, hfirst⟩ := sign?_eq_some_iff.mp hsign
    exact ⟨pos, hfirst.trans (spend_eq_ok_iff.mp hspend)⟩
  · rintro ⟨pos, hadv⟩
    obtain ⟨after, hfirst, hspend⟩ := hadv.first
    exact ⟨after, sign?_eq_some_iff.mpr ⟨pos, hfirst⟩, spend_eq_ok_iff.mpr hspend⟩

end Cursor

end Stencil
