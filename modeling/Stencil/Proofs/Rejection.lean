import Stencil.Proofs.Acceptance

/-! # Where the parser gives up

A part of the parser that fails, except at a bound, has taken tokens that some phrase of its stage
starts with, and no phrase starts with these and the next token. The first is shown by closing
what is open; the second because the parser reads every phrase and never looks behind the next
token.
-/

namespace Stencil

/-- The problem is that a bound is exceeded. -/
inductive Problem.IsBound : Problem → Prop
  | tooDeep : IsBound .tooDeep
  | tooLong : IsBound .tooLong

namespace Cursor

variable {c d : Cursor}

theorem ends_congr {stage : Grammar.Stage} (h : d.rest.head? = c.rest.head?)
    (hends : c.Ends stage) : d.Ends stage := by
  intro s after hsign
  obtain ⟨pos, hadv⟩ := sign?_eq_some_iff.mp hsign
  have hc : c.rest.head? = some ⟨.sign s, pos⟩ := by rw [← h, hadv.rest]; rfl
  obtain ⟨rest, hrest⟩ := List.head?_eq_some_iff.mp hc
  exact hends s { c with rest } (sign?_eq_some_iff.mpr ⟨pos, hrest, rfl, rfl⟩)

/-- Neither a name, a constant nor an opening parenthesis stands at the place. -/
def NoOperand (c : Cursor) : Prop :=
  ∀ t, c.rest.head? = some t → ∃ s, t.kind = .sign s ∧ s ≠ .leftParen

theorem NoOperand.congr (hnone : c.NoOperand) (h : d.rest.head? = c.rest.head?) :
    d.NoOperand := by
  unfold NoOperand
  rwa [h]

theorem isBound_of_spend {e : ParseError} (h : c.spend = .error e) : e.problem.IsBound := by
  unfold spend at h
  split at h
  next =>
    cases h
    exact .tooLong
  next => exact nomatch h

theorem expect_eq_error {s : Sign} {problem : Problem} {e : ParseError}
    (h : c.expect s problem = .error e) :
    e = ⟨problem, c.here⟩ ∧ ∀ pos, c.rest.head? ≠ some ⟨.sign s, pos⟩ := by
  have hpos : ∀ pos, c.rest.head? ≠ some ⟨.sign s, pos⟩ := by
    intro pos hhead
    obtain ⟨rest, hrest⟩ := List.head?_eq_some_iff.mp hhead
    have hok : c.expect s problem = .ok { c with rest } :=
      expect_eq_ok_iff.mpr ⟨pos, hrest, rfl, rfl⟩
    rw [h] at hok
    exact nomatch hok
  refine ⟨?_, hpos⟩
  unfold expect at h
  split at h
  next t after hsign =>
    split at h
    next => exact nomatch h
    next => exact (Except.error.inj h).symm
  next => exact (Except.error.inj h).symm

end Cursor

namespace Grammar

open Stencil.Parser

/-- The tokens with which open phrases are closed: a name where one is missing, and the signs that
close parentheses and brackets. -/
def closers : List Token.Kind := [.name "x", .sign .rightParen, .sign .rightBracket]

/-- A place where a parser gives up for good, seen from the place `c`: `before` are the tokens that
it took on the way, which can be completed to a phrase with a bounded number of operators. With
these tokens and the same next token, or the same end, it fails with any room. -/
structure Impasse (Phrase : List Token → Expr → Prop) (room : Nat) (Fails : Cursor → Prop)
    (c : Cursor) (pos : Nat) (before behind : List Token) : Prop where
  rest : c.rest = before ++ behind
  place : pos = Token.firstByte c.stop behind
  completes : ∃ us e, Phrase (before ++ us) e ∧ e.operators ≤ room ∧ ∀ u ∈ us, u.kind ∈ closers
  fails : ∀ tail stop extra, tail.head? = behind.head? →
    Fails ⟨before ++ tail, stop, c.spare + extra⟩

/-- There is such a place behind `c`, at byte `pos`. -/
def GivesUp (Phrase : List Token → Expr → Prop) (room : Nat) (Fails : Cursor → Prop) (c : Cursor)
    (pos : Nat) : Prop :=
  ∃ before behind, Impasse Phrase room Fails c pos before behind

section Places

variable {Phrase Phrase' : List Token → Expr → Prop} {room room' pos k : Nat}
  {Fails Fails' : Cursor → Prop} {c c' : Cursor} {ts : List Token}

/-- The parser gives up at the place itself. -/
theorem GivesUp.here {us : List Token} {e : Expr} (hus : Phrase us e) (hroom : e.operators ≤ room)
    (hclosers : ∀ u ∈ us, u.kind ∈ closers)
    (h : ∀ d : Cursor, d.rest.head? = c.rest.head? → Fails d) :
    GivesUp Phrase room Fails c c.here := by
  refine ⟨[], c.rest, rfl, c.here_eq_firstByte, ⟨us, e, hus, hroom, hclosers⟩, ?_⟩
  intro tail stop extra htail
  exact h _ htail

/-- What gives up behind some tokens gives up, if what completes it there goes on to complete a
phrase from the start. -/
theorem GivesUp.behind (h : GivesUp Phrase room Fails c' pos) (hadv : c.Advances ts k c')
    (hphrase : ∀ us e, Phrase us e → e.operators ≤ room →
      ∃ e', Phrase' (ts ++ us) e' ∧ e'.operators ≤ room')
    (hfails : ∀ d d' : Cursor, d.Advances ts k d' → d'.rest.head? = c'.rest.head? → Fails d' →
      Fails' d) :
    GivesUp Phrase' room' Fails' c pos := by
  obtain ⟨before, behind, himpasse⟩ := h
  obtain ⟨us, e, hus, hroom, hclosers⟩ := himpasse.completes
  obtain ⟨e', hphrase', hroom'⟩ := hphrase _ e hus hroom
  refine ⟨ts ++ before, behind, ?_, ?_, ⟨us, e', ?_, hroom', hclosers⟩, ?_⟩
  · rw [hadv.rest, himpasse.rest, List.append_assoc]
  · rw [himpasse.place, hadv.stop]
  · rwa [List.append_assoc]
  · intro tail stop extra htail
    refine hfails _ ⟨before ++ tail, stop, c'.spare + extra⟩ ⟨List.append_assoc _ _ _, rfl, ?_⟩ ?_
      (himpasse.fails tail stop extra htail)
    · simp only [hadv.spare]
      omega
    · rw [himpasse.rest, List.head?_append, List.head?_append, htail]

/-- What gives up at a place also gives up there as a part of what is read from there. -/
theorem GivesUp.imp (h : GivesUp Phrase room Fails c pos)
    (hphrase : ∀ us e, Phrase us e → Phrase' us e)
    (hfails : ∀ d : Cursor, d.rest.head? = c.rest.head? → Fails d → Fails' d) :
    GivesUp Phrase' room Fails' c pos := by
  apply h.behind (.refl c)
  · exact fun us e hus hroom => ⟨e, hphrase us e hus, hroom⟩
  · intro d d' hadv hhead hd
    obtain rfl := hadv.eq_of_nil
    exact hfails d hhead hd

/-- What gives up at a place gives up there before a token that closes it. -/
theorem GivesUp.closed (h : GivesUp Phrase room Fails c pos) {u : Token} (hu : u.kind ∈ closers)
    (hphrase : ∀ us e, Phrase us e → Phrase' (us ++ [u]) e)
    (hfails : ∀ d, Fails d → Fails' d) :
    GivesUp Phrase' room Fails' c pos := by
  obtain ⟨before, behind, himpasse⟩ := h
  obtain ⟨us, e, hus, hroom, hclosers⟩ := himpasse.completes
  refine ⟨before, behind, himpasse.rest, himpasse.place, ⟨us ++ [u], e, ?_, hroom, ?_⟩, ?_⟩
  · rw [← List.append_assoc]
    exact hphrase _ e hus
  · rw [List.forall_mem_append, List.forall_mem_singleton]
    exact ⟨hclosers, hu⟩
  · exact fun tail stop extra htail => hfails _ (himpasse.fails tail stop extra htail)

end Places

/-- In a family of parsers by their bounds on nesting, what one fails to read no other reads: it
gives up for itself and for all higher bounds. -/
def Refuses (P : Nat → Parser Expr) (Phrase : Nat → List Token → Expr → Prop) (n : Nat) : Prop :=
  ∀ c problem pos, P n c = .error ⟨problem, pos⟩ → ¬ problem.IsBound →
    GivesUp (Phrase n) c.spare (fun d => ∀ m, n ≤ m → ∀ r, P m d ≠ .ok r) c pos

/-! ## Levels of operators -/

section Levels

variable {l : Level} {P : Nat → Parser Expr} {n at_ pos : Nat} {left right : Expr} {s : Sign}
  {k : Connective} {ts us : List Token} {c c₁ c₂ : Cursor}

/-- The loop of a level gives up behind `left`, for which the tokens `ts` stand. -/
def ChainGivesUp (l : Level) (P : Nat → Parser Expr) (n : Nat) (left : Expr) (ts : List Token)
    (c : Cursor) (pos : Nat) : Prop :=
  GivesUp (fun us e => Derives n (.level l) (ts ++ us) e) (left.operators + c.spare)
    (fun d => ∀ m, n ≤ m → ∀ turns, d.spare ≤ turns → ∀ r,
      chainFrom l (P m) (turns + 1) left d ≠ .ok r) c pos

theorem chainGivesUp_of_operand (hk : l.connective? s = some k)
    (hleft : Derives n (.level l) ts left) (hop : c.Advances [⟨.sign s, at_⟩] 1 c₁)
    (h : GivesUp (Derives n (operand l)) c₁.spare (fun d => ∀ m, n ≤ m → ∀ r, P m d ≠ .ok r)
      c₁ pos) : ChainGivesUp l P n left ts c pos := by
  have hspare := hop.spare
  apply h.behind hop
  · intro us e hus hroom
    have hjoin := Derives.join s k at_ (connective?_eq_some_iff.mp hk) hleft hus
    refine ⟨k.join left e, hjoin, ?_⟩
    rw [operators_join]
    omega
  · intro d d₁ hd _ hfails m hm turns _ r hread
    rw [chainFrom_of_advances hk hd] at hread
    obtain ⟨_, hoperand, -⟩ := bind_eq_ok_iff.mp hread
    exact hfails m hm _ hoperand

theorem chainGivesUp_of_join (hp : ∀ m, Reads (P m) (operand l) (Derives m (operand l)))
    (hk : l.connective? s = some k) (hop : c.Advances [⟨.sign s, at_⟩] 1 c₁)
    (hus : Derives n (operand l) us right) (hadv : c₁.Advances us right.operators c₂)
    (hends : c₂.Ends (operand l))
    (h : ChainGivesUp l P n (k.join left right) (ts ++ ⟨.sign s, at_⟩ :: us) c₂ pos) :
    ChainGivesUp l P n left ts c pos := by
  have hspare := (hop.trans hadv).spare
  apply h.behind (hop.trans hadv)
  · intro vs e hvs hroom
    rw [operators_join] at hroom
    refine ⟨e, ?_, by omega⟩
    rwa [List.append_assoc] at hvs
  · intro d d₂ hd hhead hfails m hm turns hturns r hread
    have hspare := hd.spare
    obtain ⟨d₁, hd₁, hd₂⟩ := hd.split
    have hright : P m d₁ = .ok (right, d₂) :=
      (hp m d₁ right d₂).mpr ⟨us, hus.mono hm, hd₂, Cursor.ends_congr hhead hends⟩
    rw [chainFrom_of_advances hk hd₁, hright] at hread
    obtain ⟨turns, rfl⟩ : ∃ t, turns = t + 1 := ⟨turns - 1, by omega⟩
    exact hfails m hm turns (by omega) r hread

/-- Where the loop of a level gives up behind its first operand. -/
theorem chainFrom_givesUp (hp : ∀ m, Reads (P m) (operand l) (Derives m (operand l)))
    (hrefuses : Refuses P (fun m => Derives m (operand l)) n) {turns : Nat} {problem : Problem}
    (hturns : c.spare < turns) (hends : c.Ends (operand l)) (hleft : Derives n (.level l) ts left)
    (h : chainFrom l (P n) turns left c = .error ⟨problem, pos⟩) (hbound : ¬ problem.IsBound) :
    ChainGivesUp l P n left ts c pos := by
  induction turns generalizing left ts c with
  | zero => exact absurd hturns (Nat.not_lt_zero _)
  | succ turns ih =>
      by_cases hstop : c.Ends (.level l)
      · rw [chainFrom_of_stop hstop] at h
        exact nomatch h
      obtain ⟨s, after, k, hsign, hk⟩ := connective_of_not_ends hends hstop
      cases hspend : after.spend with
      | error e =>
          simp only [chainFrom, hsign, hk, hspend] at h
          cases h
          exact absurd (Cursor.isBound_of_spend hspend) hbound
      | ok c₁ =>
          obtain ⟨at_, hop⟩ := Cursor.spend_sign_iff.mp ⟨after, hsign, hspend⟩
          rw [chainFrom_of_advances hk hop] at h
          rcases bind_eq_error_iff.mp h with hright | ⟨⟨right, c₂⟩, hright, hrest⟩
          · exact chainGivesUp_of_operand hk hleft hop (hrefuses c₁ problem pos hright hbound)
          · obtain ⟨us, hus, hadv, hends₂⟩ := (hp n c₁ right c₂).mp hright
            have hjoin := Derives.join s k at_ (connective?_eq_some_iff.mp hk) hleft hus
            have hspare₁ := hop.spare
            have hspare₂ := hadv.spare
            exact chainGivesUp_of_join hp hk hop hus hadv hends₂
              (ih (by omega) hends₂ hjoin hrest)

theorem chain_refuses (hp : ∀ m, Reads (P m) (operand l) (Derives m (operand l)))
    (hrefuses : Refuses P (fun m => Derives m (operand l)) n) :
    Refuses (fun m => chain l (P m)) (fun m => Derives m (.level l)) n := by
  intro c problem pos h hbound
  rcases bind_eq_error_iff.mp h with hfirst | ⟨⟨left, c₁⟩, hfirst, hrest⟩
  · apply (hrefuses c problem pos hfirst hbound).imp
    · exact fun us e hus => .single l hus
    · intro d _ hfails m hm r hread
      obtain ⟨_, hoperand, -⟩ := bind_eq_ok_iff.mp hread
      exact hfails m hm _ hoperand
  · obtain ⟨ts, hts, hadv, hends⟩ := (hp n c left c₁).mp hfirst
    have hspare := hadv.spare
    apply (chainFrom_givesUp hp hrefuses (Nat.lt_succ_self _) hends (.single l hts) hrest
      hbound).behind hadv
    · exact fun us e hus hroom => ⟨e, hus, by omega⟩
    · intro d d₁ hd hhead hfails m hm r hread
      have hleft : P m d = .ok (left, d₁) :=
        (hp m d left d₁).mpr ⟨ts, hts.mono hm, hd, Cursor.ends_congr hhead hends⟩
      have hloop := eq_ok_of_bind hleft hread
      exact hfails m hm _ (Nat.le_refl _) r hloop

theorem joined_refuses (hp : ∀ m, Reads (P m) .unary (Derives m .unary))
    (hrefuses : Refuses P (fun m => Derives m .unary) n) :
    Refuses (fun m => joined (P m)) (fun m => Derives m whole) n := by
  have hproduct := fun m => chain_reads (l := .product) (hp m)
  have hsum := fun m => chain_reads (l := .sum) (hproduct m)
  have horder := fun m => chain_reads (l := .order) (hsum m)
  have hequality := fun m => chain_reads (l := .equality) (horder m)
  have hand := fun m => chain_reads (l := .and) (hequality m)
  have rproduct := chain_refuses (l := .product) hp hrefuses
  have rsum := chain_refuses (l := .sum) hproduct rproduct
  have rorder := chain_refuses (l := .order) hsum rsum
  have requality := chain_refuses (l := .equality) horder rorder
  have rand := chain_refuses (l := .and) hequality requality
  exact chain_refuses (l := .or) hand rand

end Levels

/-! ## Parts inside parts -/

theorem Inside.mono {n m : Nat} {stage : Stage} {ts : List Token} {e : Expr}
    (h : Inside n stage ts e) (hle : n ≤ m) : Inside m stage ts e := by
  cases n with
  | zero => exact h.elim
  | succ n =>
      obtain ⟨m, rfl⟩ := Nat.exists_eq_add_of_le' (Nat.le_trans (Nat.succ_pos n) hle)
      exact Derives.mono h (Nat.le_of_succ_le_succ hle)

/-- A whole expression and the sign that closes it. -/
def enclosed (i : Inner) (s : Sign) (problem : Problem) : Parser Expr := fun c => do
  let (e, c) ← i.whole c
  let c ← c.expect s problem
  .ok (e, c)

/-- The tokens of a whole expression and of the sign that closes it. -/
def Enclosed (s : Sign) (n : Nat) (ts : List Token) (e : Expr) : Prop :=
  ∃ us pos, ts = us ++ [⟨.sign s, pos⟩] ∧ Inside n whole us e

theorem enclosed_eq_ok_iff {s : Sign} (hs : s.tightness = 0) {problem : Problem} {n : Nat}
    {e : Expr} {c c' : Cursor} :
    enclosed (inner n) s problem c = .ok (e, c') ↔
      ∃ ts, Enclosed s n ts e ∧ c.Advances ts e.operators c' := by
  constructor
  · intro h
    obtain ⟨⟨e', c₁⟩, hwhole, h⟩ := bind_eq_ok_iff.mp h
    obtain ⟨c₂, hclose, heq⟩ := bind_eq_ok_iff.mp h
    cases heq
    obtain ⟨ts, pos, hts, hadv⟩ :=
      (enclosed_iff (inner_reads n) hs problem).mp ⟨c₁, hwhole, hclose⟩
    exact ⟨_, ⟨ts, pos, rfl, hts⟩, hadv⟩
  · rintro ⟨_, ⟨ts, pos, rfl, hts⟩, hadv⟩
    obtain ⟨c₁, hwhole, hclose⟩ :=
      (enclosed_iff (inner_reads n) hs problem).mpr ⟨ts, pos, hts, hadv⟩
    exact bind_eq_ok_iff.mpr ⟨_, hwhole, bind_eq_ok_iff.mpr ⟨c', hclose, rfl⟩⟩

theorem accessFrom_of_enclosed {i : Inner} {turns left : Nat} {base : Expr} {c c₁ : Cursor}
    (h : c.Advances [⟨.sign .leftBracket, left⟩] 1 c₁) :
    accessFrom i (turns + 1) base c =
      (enclosed i .rightBracket .missingBracket c₁ >>= fun x =>
        accessFrom i turns (.index base x.1) x.2) := by
  rw [accessFrom_of_leftBracket h, enclosed]
  cases i.whole c₁ with
  | error e => rfl
  | ok found =>
      simp only [Bind.bind, Except.bind]
      cases found.2.expect .rightBracket .missingBracket <;> rfl

theorem accessFrom_of_no_name {i : Inner} {dot : Nat} {c c₁ : Cursor}
    (hdot : c.Advances [⟨.sign .dot, dot⟩] 1 c₁)
    (hname : ∀ id pos, c₁.rest.head? ≠ some ⟨.name id, pos⟩) (turns : Nat) (base : Expr) :
    ∃ problem, accessFrom i (turns + 1) base c = .error ⟨problem, c₁.here⟩ := by
  obtain ⟨after, hsign, hspend⟩ := Cursor.spend_sign_iff.mpr ⟨dot, hdot⟩
  simp only [accessFrom, hsign, hspend]
  obtain ⟨rest, stop, spare⟩ := c₁
  cases rest with
  | nil => exact ⟨_, rfl⟩
  | cons token rest =>
      obtain ⟨kind, pos⟩ := token
      cases kind with
      | name id => exact absurd rfl (hname id pos)
      | _ => exact ⟨_, rfl⟩

theorem primary_of_noOperand {i : Inner} {c : Cursor} (h : c.NoOperand) :
    ∃ problem, primary i c = .error ⟨problem, c.here⟩ := by
  obtain ⟨rest, stop, spare⟩ := c
  cases rest with
  | nil => exact ⟨_, rfl⟩
  | cons token rest =>
      obtain ⟨kind, pos⟩ := token
      obtain ⟨s, rfl, hne⟩ := h _ rfl
      cases s <;> first | exact absurd rfl hne | exact ⟨_, rfl⟩

theorem isBound_of_accessFrom {i : Inner} {turns : Nat} {base : Expr} {c after : Cursor}
    {s : Sign} {e e' : ParseError} (hs : Stage.access.tightness ≤ s.tightness)
    (hsign : c.sign? = some (s, after)) (hspend : after.spend = .error e)
    (h : accessFrom i (turns + 1) base c = .error e') : e'.problem.IsBound := by
  have heq : e = e' := by
    rcases dot_or_leftBracket hs with rfl | rfl
    · simp only [accessFrom, hsign, hspend] at h
      exact Except.error.inj h
    · simp only [accessFrom, hsign, hspend] at h
      exact Except.error.inj h
  exact heq ▸ Cursor.isBound_of_spend hspend

/-- What may stand inside gives up for good. -/
structure InnerRefuses (n : Nat) : Prop where
  whole : Refuses (fun m => (inner m).whole) (fun m => Inside m whole) n
  operand : Refuses (fun m => (inner m).operand) (fun m => Inside m .unary) n

section Access

variable {n at_ pos : Nat} {base key : Expr} {ts us : List Token} {c c₁ c₂ : Cursor}

/-- The loop over members and elements gives up behind `base`, for which the tokens `ts` stand. -/
def AccessGivesUp (n : Nat) (base : Expr) (ts : List Token) (c : Cursor) (pos : Nat) : Prop :=
  GivesUp (fun us e => Derives n .access (ts ++ us) e) (base.operators + c.spare)
    (fun d => ∀ m, n ≤ m → ∀ turns, d.spare ≤ turns → ∀ r,
      accessFrom (inner m) (turns + 1) base d ≠ .ok r) c pos

theorem accessGivesUp_of_no_name (hbase : Derives n .access ts base)
    (hop : c.Advances [⟨.sign .dot, at_⟩] 1 c₁)
    (hname : ∀ id pos, c₁.rest.head? ≠ some ⟨.name id, pos⟩) :
    AccessGivesUp n base ts c c₁.here := by
  have hspare := hop.spare
  have hhere : GivesUp (fun us e => us = [⟨.name "x", 0⟩] ∧ e = .member base "x")
      (base.operators + 1) (fun d => ∀ id pos, d.rest.head? ≠ some ⟨.name id, pos⟩) c₁ c₁.here :=
    .here ⟨rfl, rfl⟩ (Nat.le_refl _) (by simp [closers]) fun d hd => by rwa [hd]
  apply hhere.behind hop
  · rintro _ _ ⟨rfl, rfl⟩ hroom
    exact ⟨_, .member "x" at_ 0 hbase, by omega⟩
  · intro d d₁ hd _ hfails m hm turns _ r hread
    obtain ⟨_, herror⟩ := accessFrom_of_no_name (i := inner m) hd hfails turns base
    rw [herror] at hread
    exact nomatch hread

theorem accessGivesUp_of_member {id : String} {name : Nat}
    (hop : c.Advances [⟨.sign .dot, at_⟩] 1 c₁) (hname : c₁.Advances [⟨.name id, name⟩] 0 c₂)
    (h : AccessGivesUp n (.member base id) (ts ++ [⟨.sign .dot, at_⟩, ⟨.name id, name⟩]) c₂ pos) :
    AccessGivesUp n base ts c pos := by
  have hspare := (hop.trans hname).spare
  apply h.behind (hop.trans hname)
  · intro us e hus hroom
    rw [Expr.operators] at hroom
    refine ⟨e, ?_, by omega⟩
    rwa [List.append_assoc] at hus
  · intro d d₂ hd _ hfails m hm turns hturns r hread
    have hspare := hd.spare
    obtain ⟨d₁, hd₁, hd₂⟩ := hd.split
    obtain ⟨turns, rfl⟩ : ∃ t, turns = t + 1 := ⟨turns - 1, by omega⟩
    rw [accessFrom_of_dot hd₁ hd₂] at hread
    exact hfails m hm turns (by omega) r hread

theorem accessGivesUp_of_key (hbase : Derives n .access ts base)
    (hop : c.Advances [⟨.sign .leftBracket, at_⟩] 1 c₁)
    (h : GivesUp (Enclosed .rightBracket n) c₁.spare
      (fun d => ∀ m, n ≤ m → ∀ r, enclosed (inner m) .rightBracket .missingBracket d ≠ .ok r)
      c₁ pos) : AccessGivesUp n base ts c pos := by
  have hspare := hop.spare
  apply h.behind hop
  · rintro _ key ⟨us, right, rfl, hus⟩ hroom
    cases n with
    | zero => exact hus.elim
    | succ n =>
        refine ⟨.index base key, Derives.index at_ right hbase hus, ?_⟩
        rw [Expr.operators]
        omega
  · intro d d₁ hd _ hfails m hm turns _ r hread
    rw [accessFrom_of_enclosed hd] at hread
    obtain ⟨_, hkey, -⟩ := bind_eq_ok_iff.mp hread
    exact hfails m hm _ hkey

theorem accessGivesUp_of_index (hop : c.Advances [⟨.sign .leftBracket, at_⟩] 1 c₁)
    (hus : Enclosed .rightBracket n us key) (hadv : c₁.Advances us key.operators c₂)
    (h : AccessGivesUp n (.index base key) (ts ++ ⟨.sign .leftBracket, at_⟩ :: us) c₂ pos) :
    AccessGivesUp n base ts c pos := by
  have hspare := (hop.trans hadv).spare
  apply h.behind (hop.trans hadv)
  · intro vs e hvs hroom
    rw [Expr.operators] at hroom
    refine ⟨e, ?_, by omega⟩
    rwa [List.append_assoc] at hvs
  · intro d d₂ hd _ hfails m hm turns hturns r hread
    have hspare := hd.spare
    obtain ⟨d₁, hd₁, hd₂⟩ := hd.split
    obtain ⟨vs, right, rfl, hvs⟩ := hus
    have hkey : enclosed (inner m) .rightBracket .missingBracket d₁ = .ok (key, d₂) :=
      (enclosed_eq_ok_iff rfl).mpr ⟨_, ⟨vs, right, rfl, hvs.mono hm⟩, hd₂⟩
    rw [accessFrom_of_enclosed hd₁, hkey] at hread
    obtain ⟨turns, rfl⟩ : ∃ t, turns = t + 1 := ⟨turns - 1, by omega⟩
    exact hfails m hm turns (by omega) r hread

end Access

section Operands

variable {n : Nat} (hinner : InnerRefuses n)

include hinner

theorem enclosed_refuses {s : Sign} (hs : .sign s ∈ closers) (problem : Problem) :
    Refuses (fun m => enclosed (inner m) s problem) (Enclosed s) n := by
  intro c problem' pos h hbound
  rcases bind_eq_error_iff.mp h with hwhole | ⟨⟨e, c₁⟩, hwhole, h⟩
  · apply (hinner.whole c problem' pos hwhole hbound).closed (u := ⟨.sign s, 0⟩) hs
    · exact fun us e hus => ⟨us, 0, rfl, hus⟩
    · intro d hfails m hm r hread
      obtain ⟨_, hwhole, -⟩ := bind_eq_ok_iff.mp hread
      exact hfails m hm _ hwhole
  rcases bind_eq_error_iff.mp h with hclose | ⟨_, _, h⟩
  · obtain ⟨heq, hhead⟩ := Cursor.expect_eq_error hclose
    cases heq
    obtain ⟨ts, hts, hadv, hends⟩ := ((inner_reads n).whole c e c₁).mp hwhole
    have hhere : GivesUp (fun us e' => us = [⟨.sign s, 0⟩] ∧ e' = e) e.operators
        (fun d => ∀ r, d.expect s problem ≠ .ok r) c₁ c₁.here := by
      refine .here ⟨rfl, rfl⟩ (Nat.le_refl _) (by simpa using hs) fun d hd r hexpect => ?_
      obtain ⟨at_, hat⟩ := Cursor.expect_eq_ok_iff.mp hexpect
      exact hhead at_ (by rw [← hd, hat.rest]; rfl)
    apply hhere.behind hadv
    · rintro _ _ ⟨rfl, rfl⟩ -
      exact ⟨_, ⟨ts, 0, rfl, hts⟩, hadv.spare ▸ Nat.le_add_left _ _⟩
    · intro d d₁ hd hsame hfails m hm r hread
      have hfound : (inner m).whole d = .ok (e, d₁) :=
        ((inner_reads m).whole d e d₁).mpr
          ⟨ts, hts.mono hm, hd, Cursor.ends_congr hsame hends⟩
      have hclose := eq_ok_of_bind hfound hread
      obtain ⟨d₂, hexpect, -⟩ := bind_eq_ok_iff.mp hclose
      exact hfails d₂ hexpect
  · exact nomatch h

theorem primary_refuses :
    Refuses (fun m => primary (inner m)) (fun m => Derives m .primary) n := by
  intro c problem pos h hbound
  by_cases hnone : c.NoOperand
  · obtain ⟨_, herror⟩ := primary_of_noOperand (i := inner n) hnone
    cases herror.symm.trans h
    refine .here (.name "x" 0) (Nat.zero_le _) (by simp [closers]) fun d hd m _ r hread => ?_
    obtain ⟨_, herror⟩ := primary_of_noOperand (i := inner m) (hnone.congr hd)
    cases herror.symm.trans hread
  simp only [Cursor.NoOperand, Classical.not_forall] at hnone
  obtain ⟨⟨kind, at_⟩, hhead, hnone⟩ := hnone
  obtain ⟨rest, hrest⟩ := List.head?_eq_some_iff.mp hhead
  have hstep : c.Advances [⟨kind, at_⟩] 0 { c with rest } := ⟨hrest, rfl, rfl⟩
  cases kind with
  | sign s =>
      obtain rfl : s = .leftParen := Classical.not_not.mp fun hne => hnone ⟨s, rfl, hne⟩
      have h := (primary_of_leftParen hstep).symm.trans h
      apply (enclosed_refuses hinner (s := .rightParen) (by simp [closers]) .missingParen _
        problem pos h hbound).behind hstep
      · rintro _ e ⟨us, right, rfl, hus⟩ hroom
        cases n with
        | zero => exact hus.elim
        | succ n => exact ⟨e, .paren at_ right hus, hroom⟩
      · intro d d₁ hd _ hfails m hm r hread
        exact hfails m hm r ((primary_of_leftParen hd).symm.trans hread)
  | _ =>
      rw [hstep.eq] at h
      exact nomatch h

/-- Where the loop over members and elements gives up behind its base. -/
theorem accessFrom_givesUp {turns pos : Nat} {base : Expr} {ts : List Token} {c : Cursor}
    {problem : Problem} (hturns : c.spare < turns) (hbase : Derives n .access ts base)
    (h : accessFrom (inner n) turns base c = .error ⟨problem, pos⟩) (hbound : ¬ problem.IsBound) :
    AccessGivesUp n base ts c pos := by
  induction turns generalizing base ts c with
  | zero => exact absurd hturns (Nat.not_lt_zero _)
  | succ turns ih =>
      by_cases hstop : c.Ends .access
      · rw [accessFrom_of_ends hstop] at h
        exact nomatch h
      simp only [Cursor.Ends, Classical.not_forall, Nat.not_lt] at hstop
      obtain ⟨s, after, hsign, hle⟩ := hstop
      cases hspend : after.spend with
      | error e => exact absurd (isBound_of_accessFrom hle hsign hspend h) hbound
      | ok c₁ =>
          obtain ⟨at_, hop⟩ := Cursor.spend_sign_iff.mp ⟨after, hsign, hspend⟩
          have hspare₁ := hop.spare
          rcases dot_or_leftBracket hle with rfl | rfl
          · by_cases hname : ∀ id pos, c₁.rest.head? ≠ some ⟨.name id, pos⟩
            · obtain ⟨missing, herror⟩ :=
                accessFrom_of_no_name (i := inner n) hop hname turns base
              rw [herror] at h
              cases h
              exact accessGivesUp_of_no_name hbase hop hname
            simp only [Classical.not_forall, Classical.not_not] at hname
            obtain ⟨id, name, hhead⟩ := hname
            obtain ⟨rest, hrest⟩ := List.head?_eq_some_iff.mp hhead
            have hname : c₁.Advances [⟨.name id, name⟩] 0 { c₁ with rest } := ⟨hrest, rfl, rfl⟩
            have hspare₂ := hname.spare
            rw [accessFrom_of_dot hop hname] at h
            exact accessGivesUp_of_member hop hname
              (ih (by omega) (.member id at_ name hbase) h)
          · rw [accessFrom_of_enclosed hop] at h
            rcases bind_eq_error_iff.mp h with hkey | ⟨⟨key, c₂⟩, hkey, hrest⟩
            · exact accessGivesUp_of_key hbase hop
                (enclosed_refuses hinner (by simp [closers]) _ c₁ problem pos hkey hbound)
            obtain ⟨us, hus, hadv⟩ := (enclosed_eq_ok_iff rfl).mp hkey
            have hspare₂ := hadv.spare
            refine accessGivesUp_of_index hop hus hadv (ih (by omega) ?_ hrest)
            obtain ⟨vs, right, rfl, hvs⟩ := hus
            cases n with
            | zero => exact hvs.elim
            | succ n => exact .index at_ right hbase hvs

theorem postfixed_refuses :
    Refuses (fun m => postfixed (inner m)) (fun m => Derives m .access) n := by
  intro c problem pos h hbound
  rcases bind_eq_error_iff.mp h with hfirst | ⟨⟨base, c₁⟩, hfirst, hrest⟩
  · apply (primary_refuses hinner c problem pos hfirst hbound).imp
    · exact fun us e hus => .bare hus
    · intro d _ hfails m hm r hread
      obtain ⟨_, hprimary, -⟩ := bind_eq_ok_iff.mp hread
      exact hfails m hm _ hprimary
  · obtain ⟨ts, hts, hadv⟩ := primary_sound (inner_reads n) hfirst
    have hspare := hadv.spare
    apply (accessFrom_givesUp hinner (Nat.lt_succ_self _) (.bare hts) hrest hbound).behind hadv
    · exact fun us e hus hroom => ⟨e, hus, by omega⟩
    · intro d d₁ hd _ hfails m hm r hread
      have hbase : primary (inner m) d = .ok (base, d₁) :=
        primary_complete (inner_reads m) (hts.mono hm) hd
      have hloop := eq_ok_of_bind hbase hread
      exact hfails m hm _ (Nat.le_refl _) r hloop

omit hinner in
theorem unary_of_plain {i : Inner} {c : Cursor}
    (h : ∀ s pos, c.rest.head? = some ⟨.sign s, pos⟩ → UnaryOp.ofSign? s = none) :
    unary i c = postfixed i c := by
  unfold unary
  split
  next => rfl
  next s after hsign =>
    obtain ⟨pos, hadv⟩ := Cursor.sign?_eq_some_iff.mp hsign
    rw [h s pos (by rw [hadv.rest]; rfl)]

theorem unary_refuses : Refuses (fun m => unary (inner m)) (fun m => Derives m .unary) n := by
  intro c problem pos h hbound
  by_cases hplain : ∀ s pos, c.rest.head? = some ⟨.sign s, pos⟩ → UnaryOp.ofSign? s = none
  · have h := (unary_of_plain hplain).symm.trans h
    apply (postfixed_refuses hinner c problem pos h hbound).imp
    · exact fun us e hus => .plain hus
    · intro d hd hfails m hm r hread
      rw [← hd] at hplain
      exact hfails m hm r ((unary_of_plain hplain).symm.trans hread)
  simp only [Classical.not_forall] at hplain
  obtain ⟨s, at_, hhead, hs⟩ := hplain
  obtain ⟨op, hs⟩ := Option.ne_none_iff_exists'.mp hs
  obtain ⟨rest, hrest⟩ := List.head?_eq_some_iff.mp hhead
  have hsign : c.sign? = some (s, { c with rest }) :=
    Cursor.sign?_eq_some_iff.mpr ⟨at_, hrest, rfl, rfl⟩
  cases hspend : Cursor.spend { c with rest } with
  | error e =>
      simp only [unary, hsign, hs, hspend] at h
      cases h
      exact absurd (Cursor.isBound_of_spend hspend) hbound
  | ok c₁ =>
      obtain ⟨at_, hop⟩ := Cursor.spend_sign_iff.mp ⟨_, hsign, hspend⟩
      have hspare := hop.spare
      have h := (unary_of_advances hs hop).symm.trans h
      rcases bind_eq_error_iff.mp h with hoperand | ⟨_, _, h⟩
      · apply (hinner.operand c₁ problem pos hoperand hbound).behind hop
        · intro us e hus hroom
          refine ⟨.unary op e, derives_unary at_ hs hus, ?_⟩
          rw [Expr.operators]
          omega
        · intro d d₁ hd _ hfails m hm r hread
          have hread := (unary_of_advances hs hd).symm.trans hread
          obtain ⟨_, hoperand, -⟩ := bind_eq_ok_iff.mp hread
          exact hfails m hm _ hoperand
      · cases h

end Operands

/-! ## Whole expressions -/

theorem Refuses.inside {P Q : Nat → Parser Expr} {stage : Stage} {n : Nat}
    (h : Refuses P (fun m => Derives m stage) n) (hQ : ∀ m, Q (m + 1) = P m) :
    Refuses Q (fun m => Inside m stage) (n + 1) := by
  intro c problem pos hread hbound
  rw [hQ] at hread
  apply (h c problem pos hread hbound).imp
  · exact fun us e hus => hus
  · intro d _ hfails m hm r hread
    obtain ⟨m, rfl⟩ := Nat.exists_eq_add_of_le' (Nat.le_trans (Nat.succ_pos n) hm)
    rw [hQ] at hread
    exact hfails m (Nat.le_of_succ_le_succ hm) r hread

/-- What is inside gives up for good, whatever nesting is left. -/
theorem inner_refuses (n : Nat) : InnerRefuses n := by
  induction n with
  | zero =>
      constructor
      · intro c problem pos h hbound
        cases h
        exact absurd .tooDeep hbound
      · intro c problem pos h hbound
        cases h
        exact absurd .tooDeep hbound
  | succ n ih =>
      have hoperand := unary_refuses ih
      have hwhole := joined_refuses (fun m => unary_reads (inner_reads m)) hoperand
      exact ⟨hwhole.inside fun m => rfl, hoperand.inside fun m => rfl⟩

/-- Whole expressions give up for good where they give up. -/
theorem whole_refuses (n : Nat) :
    Refuses (fun m => joined (unary (inner m))) (fun m => Derives m whole) n :=
  joined_refuses (fun m => unary_reads (inner_reads m)) (unary_refuses (inner_refuses n))

end Grammar

end Stencil
