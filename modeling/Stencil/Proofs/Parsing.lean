import Stencil.Proofs.Cursor
import Stencil.Proofs.Grammar
import Stencil.Proofs.Result

/-! # The parser and the grammar

Every part of the parser succeeds exactly where its stage of the grammar derives the tokens that
it takes, provided that the next token cannot make the phrase longer. The turns that bound a
loop never run out before the operators do.
-/

namespace Stencil

/-- How tightly a sign binds what stands before it; zero if it cannot go on with an
expression. -/
def Sign.tightness : Sign → Nat
  | or => 1
  | and => 2
  | eq | notEq | strictEq | strictNotEq => 3
  | lt | le | gt | ge => 4
  | plus | minus => 5
  | star | slash | percent => 6
  | dot | leftBracket => 7
  | _ => 0

namespace Grammar

/-- The tightness of the signs that can make a phrase of a stage longer is at least this. -/
def Stage.tightness : Stage → Nat
  | .level .or => 1
  | .level .and => 2
  | .level .equality => 3
  | .level .order => 4
  | .level .sum => 5
  | .level .product => 6
  | .unary => 7
  | .access => 7
  | .primary => 8

theorem tightness_operand (l : Level) :
    (operand l).tightness = (Stage.level l).tightness + 1 := by
  cases l <;> rfl

theorem connective?_eq_some_iff {l : Level} {s : Sign} {k : Connective} :
    l.connective? s = some k ↔ (s, k) ∈ l.operators := by
  cases l <;> cases s <;> simp [Level.connective?, Level.operators, eq_comm]

/-- The operators of a level are the signs of its tightness. -/
theorem isSome_connective?_iff (l : Level) (s : Sign) :
    (l.connective? s).isSome ↔ s.tightness = (Stage.level l).tightness := by
  cases l <;> cases s <;> decide

theorem tightness_of_connective? {l : Level} {s : Sign} {k : Connective}
    (h : l.connective? s = some k) : s.tightness = (Stage.level l).tightness :=
  (isSome_connective?_iff l s).mp (by rw [h]; rfl)

theorem operators_join (k : Connective) (left right : Expr) :
    (k.join left right).operators = left.operators + (right.operators + 1) := by
  cases k <;> rfl

end Grammar

namespace Cursor

/-- The next token cannot make a phrase of a stage longer. -/
def Ends (c : Cursor) (stage : Grammar.Stage) : Prop :=
  ∀ s after, c.sign? = some (s, after) → s.tightness < stage.tightness

theorem ends_of_sign {c after : Cursor} {s : Sign} {stage : Grammar.Stage}
    (h : c.sign? = some (s, after)) (hs : s.tightness < stage.tightness) : c.Ends stage := by
  intro t later ht
  rw [h, Option.some.injEq, Prod.mk.injEq] at ht
  rwa [← ht.1]

end Cursor

namespace Grammar

open Stencil.Parser

/-- A parser succeeds exactly where `R` relates the tokens that it takes to what it reads and
the next token cannot make the phrase longer. -/
def Reads (p : Parser Expr) (stage : Stage) (R : List Token → Expr → Prop) : Prop :=
  ∀ c e c', p c = .ok (e, c') ↔ ∃ ts, R ts e ∧ c.Advances ts e.operators c' ∧ c'.Ends stage

/-! ## Levels of operators -/

section Levels

variable {l : Level} {p : Parser Expr} {n : Nat}

theorem chainFrom_of_stop {turns : Nat} {left : Expr} {c : Cursor}
    (h : c.Ends (.level l)) : chainFrom l p (turns + 1) left c = .ok (left, c) := by
  simp only [chainFrom]
  cases hsign : c.sign? with
  | none => rfl
  | some found =>
      obtain ⟨s, after⟩ := found
      have hlt := h s after hsign
      cases hk : l.connective? s with
      | none => simp only [hk]
      | some k => exact absurd (tightness_of_connective? hk) (Nat.ne_of_lt hlt)

theorem chainFrom_of_advances {turns pos : Nat} {left : Expr} {c c' : Cursor} {s : Sign}
    {k : Connective} (hk : l.connective? s = some k) (h : c.Advances [⟨.sign s, pos⟩] 1 c') :
    chainFrom l p (turns + 1) left c =
      (p c' >>= fun x => chainFrom l p turns (k.join left x.1) x.2) := by
  obtain ⟨after, hsign, hspend⟩ := Cursor.spend_sign_iff.mpr ⟨pos, h⟩
  simp only [chainFrom, hsign, hk, hspend]
  rfl

/-- A phrase of the operands of a level is followed by an operator of the level, or by nothing
that could make a phrase of the level longer. -/
theorem connective_of_not_ends {c : Cursor} (hends : c.Ends (operand l))
    (h : ¬ c.Ends (.level l)) :
    ∃ s after k, c.sign? = some (s, after) ∧ l.connective? s = some k := by
  simp only [Cursor.Ends, Classical.not_forall, Nat.not_lt] at h
  obtain ⟨s, after, hsign, hle⟩ := h
  have hlt := hends s after hsign
  rw [tightness_operand] at hlt
  have hsome := (isSome_connective?_iff l s).mpr (Nat.le_antisymm (Nat.le_of_lt_succ hlt) hle)
  obtain ⟨k, hk⟩ := Option.isSome_iff_exists.mp hsome
  exact ⟨s, after, k, hsign, hk⟩

/-- What the loop of a level adds to its first operand extends a phrase of the level. -/
theorem chainFrom_sound (hp : Reads p (operand l) (Derives n (operand l))) {turns : Nat}
    {left e : Expr} {ts : List Token} {c c' : Cursor} (hturns : c.spare < turns)
    (hends : c.Ends (operand l)) (hleft : Derives n (.level l) ts left)
    (h : chainFrom l p turns left c = .ok (e, c')) :
    ∃ us k, Derives n (.level l) (ts ++ us) e ∧ c.Advances us k c' ∧
      e.operators = left.operators + k ∧ c'.Ends (.level l) := by
  -- each turn spends an operator, so `hturns` is kept and the loop never runs dry
  induction turns generalizing left ts c with
  | zero => exact absurd hturns (Nat.not_lt_zero _)
  | succ turns ih =>
      by_cases hstop : c.Ends (.level l)
      · rw [chainFrom_of_stop hstop, Except.ok.injEq, Prod.mk.injEq] at h
        obtain ⟨rfl, rfl⟩ := h
        exact ⟨[], 0, by rwa [List.append_nil], .refl c, rfl, hstop⟩
      · obtain ⟨s, after, k, hsign, hk⟩ := connective_of_not_ends hends hstop
        cases hspend : after.spend with
        | error problem =>
            simp only [chainFrom, hsign, hk, hspend] at h
            exact nomatch h
        | ok c₁ =>
            obtain ⟨pos, hop⟩ := Cursor.spend_sign_iff.mp ⟨after, hsign, hspend⟩
            rw [chainFrom_of_advances hk hop, bind_eq_ok_iff] at h
            obtain ⟨⟨right, c₂⟩, hright, hrest⟩ := h
            obtain ⟨us, hus, hoperand, hends₂⟩ := (hp c₁ right c₂).mp hright
            have hjoin := Derives.join s k pos (connective?_eq_some_iff.mp hk) hleft hus
            have hspare₁ := hop.spare
            have hspare₂ := hoperand.spare
            obtain ⟨vs, m, hderives, hadv, hcount, hdone⟩ :=
              ih (by omega) hends₂ hjoin hrest
            refine ⟨⟨.sign s, pos⟩ :: (us ++ vs), 1 + (right.operators + m), ?_, ?_, ?_, hdone⟩
            · simpa only [List.append_assoc, List.cons_append] using hderives
            · exact hop.trans (hoperand.trans hadv)
            · rw [hcount, operators_join]
              omega

/-- The loop of a level reaches the end of every phrase of the level with turns to spare. -/
theorem chain_complete (hp : Reads p (operand l) (Derives n (operand l))) {ts : List Token}
    {e : Expr} (h : Derives n (.level l) ts e) {c c' : Cursor}
    (hadv : c.Advances ts e.operators c') (hends : c'.Ends (operand l)) :
    ∃ turns, c'.spare ≤ turns ∧ chain l p c = chainFrom l p (turns + 1) e c' := by
  -- derivations of a level lean to the left: their induction follows the turns of the loop
  generalize hstage : Stage.level l = stage at h
  induction h generalizing c c' with
  | single l' h =>
      cases hstage
      have hfirst := (hp c _ c').mpr ⟨_, h, hadv, hends⟩
      refine ⟨c'.spare, Nat.le_refl _, ?_⟩
      simp only [chain, hfirst]
      rfl
  | join s k pos hs hleft hright ihleft _ =>
      cases hstage
      rw [operators_join] at hadv
      obtain ⟨c₁, hadv₁, hadv⟩ := hadv.split
      obtain ⟨c₂, hop, hadv₂⟩ := hadv.operator
      have hk := connective?_eq_some_iff.mpr hs
      obtain ⟨after, hsign, -⟩ := Cursor.spend_sign_iff.mpr ⟨pos, hop⟩
      -- the operand on the left stops at the operator, which binds too loosely to be part of it
      have hends₁ : c₁.Ends (operand _) := Cursor.ends_of_sign hsign (by
        rw [tightness_of_connective? hk, tightness_operand]
        exact Nat.lt_succ_self _)
      obtain ⟨turns, hturns, heq⟩ := ihleft hp hadv₁ hends₁ rfl
      have hright := (hp c₂ _ c').mpr ⟨_, hright, hadv₂, hends⟩
      have hspare₁ := hop.spare
      have hspare₂ := hadv₂.spare
      obtain ⟨turns, rfl⟩ : ∃ m, turns = m + 1 := ⟨turns - 1, by omega⟩
      refine ⟨turns, by omega, ?_⟩
      rw [heq, chainFrom_of_advances hk hop, hright]
      rfl
  | _ => cases hstage

/-- Operands with operators of one level between them read the phrases of the level. -/
theorem chain_reads (hp : Reads p (operand l) (Derives n (operand l))) :
    Reads (chain l p) (.level l) (Derives n (.level l)) := by
  intro c e c'
  constructor
  · intro h
    obtain ⟨⟨left, c₁⟩, hfirst, hrest⟩ := bind_eq_ok_iff.mp h
    obtain ⟨ts, hts, hadv₁, hends₁⟩ := (hp c left c₁).mp hfirst
    obtain ⟨us, k, hderives, hadv₂, hcount, hends⟩ :=
      chainFrom_sound hp (Nat.lt_succ_self _) hends₁ (.single l hts) hrest
    exact ⟨ts ++ us, hderives, hcount ▸ hadv₁.trans hadv₂, hends⟩
  · rintro ⟨ts, hts, hadv, hends⟩
    have hends' : c'.Ends (operand l) := by
      intro s after hs
      exact Nat.lt_trans (hends s after hs) (tightness_operand l ▸ Nat.lt_succ_self _)
    obtain ⟨turns, -, heq⟩ := chain_complete hp hts hadv hends'
    rw [heq, chainFrom_of_stop hends]

end Levels

/-! ## Parts inside parts -/

/-- What the grammar derives inside parentheses, brackets and unary operators. -/
def Inside : Nat → Stage → List Token → Expr → Prop
  | 0, _, _, _ => False
  | n + 1, stage, ts, e => Derives n stage ts e

/-- What may stand inside is read with one nesting less. -/
structure InnerReads (i : Inner) (n : Nat) : Prop where
  whole : Reads i.whole whole (Inside n whole)
  operand : Reads i.operand .unary (Inside n .unary)

section Operands

variable {i : Inner} {n : Nat}

/-- A whole expression and the sign that closes it, where the sign cannot go on with the
expression. -/
theorem enclosed_iff (hi : InnerReads i n) {s : Sign} (hs : s.tightness = 0)
    (problem : Problem) {e : Expr} {c c' : Cursor} :
    (∃ c₁, i.whole c = .ok (e, c₁) ∧ c₁.expect s problem = .ok c') ↔
      ∃ ts pos, Inside n whole ts e ∧ c.Advances (ts ++ [⟨.sign s, pos⟩]) e.operators c' := by
  constructor
  · rintro ⟨c₁, hwhole, hclose⟩
    obtain ⟨ts, hts, hadv, -⟩ := (hi.whole c e c₁).mp hwhole
    obtain ⟨pos, hpos⟩ := Cursor.expect_eq_ok_iff.mp hclose
    exact ⟨ts, pos, hts, hadv.trans hpos⟩
  · rintro ⟨ts, pos, hts, hadv⟩
    have hadv : c.Advances (ts ++ [⟨.sign s, pos⟩]) (e.operators + 0) c' := hadv
    obtain ⟨c₁, hadv₁, hpos⟩ := hadv.split
    have hsign := Cursor.sign?_eq_some_iff.mpr ⟨pos, hpos⟩
    have hends : c₁.Ends whole := Cursor.ends_of_sign hsign (hs ▸ Nat.one_pos)
    exact ⟨c₁, (hi.whole c e c₁).mpr ⟨ts, hts, hadv₁, hends⟩,
      Cursor.expect_eq_ok_iff.mpr ⟨pos, hpos⟩⟩

theorem primary_of_leftParen {c c₁ : Cursor} {left : Nat}
    (h : c.Advances [⟨.sign .leftParen, left⟩] 0 c₁) :
    primary i c = (i.whole c₁ >>= fun x =>
      x.2.expect .rightParen .missingParen >>= fun c' => .ok (x.1, c')) := by
  rw [h.eq]
  rfl

theorem primary_sound (hi : InnerReads i n) {e : Expr} {c c' : Cursor}
    (h : primary i c = .ok (e, c')) :
    ∃ ts, Derives n .primary ts e ∧ c.Advances ts e.operators c' := by
  obtain ⟨rest, stop, spare⟩ := c
  cases rest with
  | nil => exact nomatch h
  | cons token rest =>
      obtain ⟨kind, pos⟩ := token
      have hstep : Cursor.Advances ⟨⟨kind, pos⟩ :: rest, stop, spare⟩ [⟨kind, pos⟩] 0
        ⟨rest, stop, spare⟩ := ⟨rfl, rfl, rfl⟩
      cases kind with
      | name id =>
          cases h
          exact ⟨_, .name id pos, hstep⟩
      | number x =>
          cases h
          exact ⟨_, .number x pos, hstep⟩
      | string s =>
          cases h
          exact ⟨_, .string s pos, hstep⟩
      | bool b =>
          cases h
          exact ⟨_, .bool b pos, hstep⟩
      | null =>
          cases h
          exact ⟨_, .null pos, hstep⟩
      | sign s =>
          by_cases hs : s = .leftParen
          · subst hs
            rw [primary_of_leftParen hstep, bind_eq_ok_iff] at h
            obtain ⟨⟨inside, c₁⟩, hwhole, h⟩ := h
            obtain ⟨c₂, hclose, heq⟩ := bind_eq_ok_iff.mp h
            cases heq
            obtain ⟨ts, right, hts, hadv⟩ :=
              (enclosed_iff hi rfl .missingParen).mp ⟨c₁, hwhole, hclose⟩
            cases n with
            | zero => exact hts.elim
            | succ n =>
                have hall := hstep.trans hadv
                rw [Nat.zero_add] at hall
                exact ⟨_, .paren pos right hts, hall⟩
          · -- no other sign starts an operand
            cases s <;> first | exact absurd rfl hs | exact nomatch h

theorem primary_complete (hi : InnerReads i n) {ts : List Token} {e : Expr} {c c' : Cursor}
    (h : Derives n .primary ts e) (hadv : c.Advances ts e.operators c') :
    primary i c = .ok (e, c') := by
  cases h with
  | paren left right h =>
      obtain ⟨c₁, hopen, hrest⟩ := hadv.first
      obtain ⟨c₂, hwhole, hclose⟩ := (enclosed_iff hi rfl .missingParen).mpr ⟨_, right, h, hrest⟩
      rw [primary_of_leftParen hopen]
      exact bind_eq_ok_iff.mpr ⟨(e, c₂), hwhole, bind_eq_ok_iff.mpr ⟨c', hclose, rfl⟩⟩
  | _ =>
      rw [hadv.eq]
      rfl

/-- A sign that goes on with a postfixed expression is a point or an opening bracket. -/
theorem dot_or_leftBracket {s : Sign} (h : Stage.access.tightness ≤ s.tightness) :
    s = .dot ∨ s = .leftBracket := by
  cases s <;> simp_all [Stage.tightness, Sign.tightness]

theorem accessFrom_of_ends {turns : Nat} {base : Expr} {c : Cursor} (h : c.Ends .access) :
    accessFrom i (turns + 1) base c = .ok (base, c) := by
  unfold accessFrom
  split
  next after hsign => exact absurd (h _ after hsign) (by decide)
  next after hsign => exact absurd (h _ after hsign) (by decide)
  next => rfl

theorem accessFrom_of_dot {turns dot pos : Nat} {base : Expr} {id : String}
    {c c₁ c₂ : Cursor} (hdot : c.Advances [⟨.sign .dot, dot⟩] 1 c₁)
    (hname : c₁.Advances [⟨.name id, pos⟩] 0 c₂) :
    accessFrom i (turns + 1) base c = accessFrom i turns (.member base id) c₂ := by
  obtain ⟨after, hsign, hspend⟩ := Cursor.spend_sign_iff.mpr ⟨dot, hdot⟩
  simp only [accessFrom, hsign, hspend, hname.eq]
  rfl

/-- Behind a point there is a name. -/
theorem name_of_accessFrom_dot {turns dot : Nat} {base : Expr} {c c₁ : Cursor}
    {result : Expr × Cursor} (hdot : c.Advances [⟨.sign .dot, dot⟩] 1 c₁)
    (h : accessFrom i (turns + 1) base c = .ok result) :
    ∃ id pos c₂, c₁.Advances [⟨.name id, pos⟩] 0 c₂ := by
  obtain ⟨after, hsign, hspend⟩ := Cursor.spend_sign_iff.mpr ⟨dot, hdot⟩
  simp only [accessFrom, hsign, hspend] at h
  obtain ⟨rest, stop, spare⟩ := c₁
  cases rest with
  | nil => exact nomatch h
  | cons token rest =>
      obtain ⟨kind, pos⟩ := token
      cases kind with
      | name id => exact ⟨id, pos, ⟨rest, stop, spare⟩, rfl, rfl, rfl⟩
      | _ => exact nomatch h

theorem accessFrom_of_leftBracket {turns left : Nat} {base : Expr} {c c₁ : Cursor}
    (h : c.Advances [⟨.sign .leftBracket, left⟩] 1 c₁) :
    accessFrom i (turns + 1) base c = (i.whole c₁ >>= fun x =>
      x.2.expect .rightBracket .missingBracket >>= fun c₂ =>
        accessFrom i turns (.index base x.1) c₂) := by
  obtain ⟨after, hsign, hspend⟩ := Cursor.spend_sign_iff.mpr ⟨left, h⟩
  simp only [accessFrom, hsign, hspend]
  rfl

/-- What the loop over members and elements adds to a base extends a postfixed phrase. -/
theorem accessFrom_sound (hi : InnerReads i n) {turns : Nat} {base e : Expr}
    {ts : List Token} {c c' : Cursor} (hturns : c.spare < turns)
    (hbase : Derives n .access ts base) (h : accessFrom i turns base c = .ok (e, c')) :
    ∃ us k, Derives n .access (ts ++ us) e ∧ c.Advances us k c' ∧
      e.operators = base.operators + k ∧ c'.Ends .access := by
  induction turns generalizing base ts c with
  | zero => exact absurd hturns (Nat.not_lt_zero _)
  | succ turns ih =>
      by_cases hstop : c.Ends .access
      · rw [accessFrom_of_ends hstop, Except.ok.injEq, Prod.mk.injEq] at h
        obtain ⟨rfl, rfl⟩ := h
        exact ⟨[], 0, by rwa [List.append_nil], .refl c, rfl, hstop⟩
      simp only [Cursor.Ends, Classical.not_forall, Nat.not_lt] at hstop
      obtain ⟨s, after, hsign, hle⟩ := hstop
      cases hspend : after.spend with
      | error problem =>
          rcases dot_or_leftBracket hle with rfl | rfl
          · simp only [accessFrom, hsign, hspend] at h
            exact nomatch h
          · simp only [accessFrom, hsign, hspend] at h
            exact nomatch h
      | ok c₁ =>
          obtain ⟨pos, hop⟩ := Cursor.spend_sign_iff.mp ⟨after, hsign, hspend⟩
          have hspare := hop.spare
          rcases dot_or_leftBracket hle with rfl | rfl
          · obtain ⟨id, at_, c₂, hname⟩ := name_of_accessFrom_dot hop h
            rw [accessFrom_of_dot hop hname] at h
            have hspare₁ := hname.spare
            obtain ⟨us, k, hderives, hrest, hcount, hdone⟩ :=
              ih (by omega) (.member id pos at_ hbase) h
            refine ⟨⟨.sign .dot, pos⟩ :: ⟨.name id, at_⟩ :: us, 1 + (0 + k), ?_,
              hop.trans (hname.trans hrest), ?_, hdone⟩
            · simpa only [List.append_assoc, List.cons_append, List.nil_append] using hderives
            · rw [hcount, Expr.operators]
              omega
          · rw [accessFrom_of_leftBracket hop, bind_eq_ok_iff] at h
            obtain ⟨⟨key, c₂⟩, hwhole, h⟩ := h
            obtain ⟨c₃, hclose, h⟩ := bind_eq_ok_iff.mp h
            obtain ⟨us, right, hus, hadv⟩ :=
              (enclosed_iff hi rfl .missingBracket).mp ⟨c₂, hwhole, hclose⟩
            cases n with
            | zero => exact hus.elim
            | succ n =>
                have hspare₁ := hadv.spare
                obtain ⟨vs, k, hderives, hrest, hcount, hdone⟩ :=
                  ih (by omega) (.index pos right hbase hus) h
                refine ⟨⟨.sign .leftBracket, pos⟩ :: (us ++ [⟨.sign .rightBracket, right⟩] ++ vs),
                  1 + (key.operators + k), ?_, hop.trans (hadv.trans hrest), ?_, hdone⟩
                · simpa only [List.append_assoc, List.cons_append] using hderives
                · rw [hcount, Expr.operators]
                  omega

/-- The loop over members and elements reaches the end of every postfixed phrase with turns to
spare. -/
theorem postfixed_complete (hi : InnerReads i n) {ts : List Token} {e : Expr}
    (h : Derives n .access ts e) {c c' : Cursor} (hadv : c.Advances ts e.operators c') :
    ∃ turns, c'.spare ≤ turns ∧ postfixed i c = accessFrom i (turns + 1) e c' := by
  generalize hstage : Stage.access = stage at h
  induction h generalizing c c' with
  | bare h =>
      have hfirst := primary_complete hi h hadv
      refine ⟨c'.spare, Nat.le_refl _, ?_⟩
      simp only [postfixed, hfirst]
      rfl
  | member id dot pos _ ih =>
      obtain ⟨c₁, hbase, hadv⟩ := hadv.split
      obtain ⟨c₂, hdot, hname⟩ := hadv.operator
      obtain ⟨turns, hturns, heq⟩ := ih hi hbase rfl
      have hspare₁ := hdot.spare
      have hspare₂ := hname.spare
      obtain ⟨turns, rfl⟩ : ∃ m, turns = m + 1 := ⟨turns - 1, by omega⟩
      exact ⟨turns, by omega, heq.trans (accessFrom_of_dot hdot hname)⟩
  | index left right _ hkey ih _ =>
      rw [Expr.operators, Nat.add_assoc] at hadv
      obtain ⟨c₁, hbase, hadv⟩ := hadv.split
      obtain ⟨c₂, hopen, hadv⟩ := hadv.operator
      obtain ⟨c₃, hwhole, hclose⟩ :=
        (enclosed_iff hi rfl .missingBracket).mpr ⟨_, right, hkey, hadv⟩
      obtain ⟨turns, hturns, heq⟩ := ih hi hbase rfl
      have hspare₁ := hopen.spare
      have hspare₂ := hadv.spare
      obtain ⟨turns, rfl⟩ : ∃ m, turns = m + 1 := ⟨turns - 1, by omega⟩
      refine ⟨turns, by omega, ?_⟩
      rw [heq, accessFrom_of_leftBracket hopen, hwhole]
      simp only [bind, Except.bind, hclose]
  | _ => cases hstage

theorem postfixed_reads (hi : InnerReads i n) :
    Reads (postfixed i) .access (Derives n .access) := by
  intro c e c'
  constructor
  · intro h
    obtain ⟨⟨base, c₁⟩, hfirst, hrest⟩ := bind_eq_ok_iff.mp h
    obtain ⟨ts, hts, hadv⟩ := primary_sound hi hfirst
    obtain ⟨us, k, hderives, hadv', hcount, hends⟩ :=
      accessFrom_sound hi (Nat.lt_succ_self _) (.bare hts) hrest
    exact ⟨ts ++ us, hderives, hcount ▸ hadv.trans hadv', hends⟩
  · rintro ⟨ts, hts, hadv, hends⟩
    obtain ⟨turns, -, heq⟩ := postfixed_complete hi hts hadv
    rw [heq, accessFrom_of_ends hends]

theorem bang_or_minus {s : Sign} {op : UnaryOp} (h : UnaryOp.ofSign? s = some op) :
    s = .bang ∧ op = .not ∨ s = .minus ∧ op = .neg := by
  cases s <;> simp_all [UnaryOp.ofSign?, eq_comm]

/-- A postfixed expression does not start with a unary operator. -/
theorem postfixed_of_ofSign? {c after : Cursor} {s : Sign} {op : UnaryOp}
    {result : Expr × Cursor} (hsign : c.sign? = some (s, after))
    (hop : UnaryOp.ofSign? s = some op) : postfixed i c ≠ .ok result := by
  intro h
  obtain ⟨first, hfirst, -⟩ := bind_eq_ok_iff.mp h
  obtain ⟨rest, stop, spare⟩ := c
  obtain ⟨pos, hrest, -, -⟩ := Cursor.sign?_eq_some_iff.mp hsign
  simp only [List.cons_append, List.nil_append] at hrest
  subst hrest
  rcases bang_or_minus hop with ⟨rfl, -⟩ | ⟨rfl, -⟩
  · exact nomatch hfirst
  · exact nomatch hfirst

theorem unary_of_advances {c c₁ : Cursor} {s : Sign} {op : UnaryOp} {pos : Nat}
    (hs : UnaryOp.ofSign? s = some op) (h : c.Advances [⟨.sign s, pos⟩] 1 c₁) :
    unary i c = (i.operand c₁ >>= fun x => .ok (.unary op x.1, x.2)) := by
  obtain ⟨after, hsign, hspend⟩ := Cursor.spend_sign_iff.mpr ⟨pos, h⟩
  simp only [unary, hsign, hs, hspend]
  rfl

/-- A unary operator with its operand, read with one nesting less. -/
theorem derives_unary {s : Sign} {op : UnaryOp} {ts : List Token} {e : Expr} (pos : Nat)
    (hs : UnaryOp.ofSign? s = some op) (h : Inside n .unary ts e) :
    Derives n .unary (⟨.sign s, pos⟩ :: ts) (.unary op e) := by
  cases n with
  | zero => exact h.elim
  | succ n =>
      rcases bang_or_minus hs with ⟨rfl, rfl⟩ | ⟨rfl, rfl⟩
      · exact .not pos h
      · exact .neg pos h

theorem unary_sound (hi : InnerReads i n) {e : Expr} {c c' : Cursor}
    (h : unary i c = .ok (e, c')) :
    ∃ ts, Derives n .unary ts e ∧ c.Advances ts e.operators c' ∧ c'.Ends .unary := by
  have hplain : postfixed i c = .ok (e, c') →
      ∃ ts, Derives n .unary ts e ∧ c.Advances ts e.operators c' ∧ c'.Ends .unary := by
    intro h
    obtain ⟨ts, hts, hrest⟩ := (postfixed_reads hi c e c').mp h
    exact ⟨ts, .plain hts, hrest⟩
  cases hsign : c.sign? with
  | none =>
      simp only [unary, hsign] at h
      exact hplain h
  | some found =>
      obtain ⟨s, after⟩ := found
      cases hs : UnaryOp.ofSign? s with
      | none =>
          simp only [unary, hsign, hs] at h
          exact hplain h
      | some op =>
          cases hspend : after.spend with
          | error problem =>
              simp only [unary, hsign, hs, hspend] at h
              exact nomatch h
          | ok c₁ =>
              obtain ⟨pos, hop⟩ := Cursor.spend_sign_iff.mp ⟨after, hsign, hspend⟩
              rw [unary_of_advances hs hop, bind_eq_ok_iff] at h
              obtain ⟨⟨inside, c₂⟩, hinside, heq⟩ := h
              cases heq
              obtain ⟨ts, hts, hadv, hends⟩ := (hi.operand c₁ inside c₂).mp hinside
              refine ⟨_, derives_unary pos hs hts, ?_, hends⟩
              rw [Expr.operators, Nat.add_comm]
              exact hop.trans hadv

/-- A unary operator is read with its operand. -/
theorem unary_of_operand (hi : InnerReads i n) {s : Sign} {op : UnaryOp} {pos : Nat}
    {ts : List Token} {e : Expr} {c c' : Cursor} (hs : UnaryOp.ofSign? s = some op)
    (h : Inside n .unary ts e) (hadv : c.Advances (⟨.sign s, pos⟩ :: ts) (e.operators + 1) c')
    (hends : c'.Ends .unary) : unary i c = .ok (.unary op e, c') := by
  obtain ⟨c₁, hop, hrest⟩ := hadv.operator
  have hinside := (hi.operand c₁ e c').mpr ⟨ts, h, hrest, hends⟩
  rw [unary_of_advances hs hop, hinside]
  rfl

theorem unary_complete (hi : InnerReads i n) {ts : List Token} {e : Expr} {c c' : Cursor}
    (h : Derives n .unary ts e) (hadv : c.Advances ts e.operators c') (hends : c'.Ends .unary) :
    unary i c = .ok (e, c') := by
  cases h with
  | plain h =>
      have hpost := (postfixed_reads hi c e c').mpr ⟨ts, h, hadv, hends⟩
      unfold unary
      split
      next => exact hpost
      next s after hsign =>
        split
        next => exact hpost
        -- a sign that is a unary operator would be taken for one, but none starts this phrase
        next op hs => exact absurd hpost (postfixed_of_ofSign? hsign hs)
  | not pos h => exact unary_of_operand hi rfl h hadv hends
  | neg pos h => exact unary_of_operand hi rfl h hadv hends

theorem unary_reads (hi : InnerReads i n) : Reads (unary i) .unary (Derives n .unary) := by
  intro c e c'
  constructor
  · intro h
    exact unary_sound hi h
  · rintro ⟨ts, hts, hadv, hends⟩
    exact unary_complete hi hts hadv hends

end Operands

/-! ## Whole expressions -/

/-- All levels above operands that are read read whole expressions. -/
theorem joined_reads {p : Parser Expr} {n : Nat} (hp : Reads p .unary (Derives n .unary)) :
    Reads (joined p) whole (Derives n whole) := by
  have hproduct := chain_reads (l := .product) hp
  have hsum := chain_reads (l := .sum) hproduct
  have horder := chain_reads (l := .order) hsum
  have hequality := chain_reads (l := .equality) horder
  have hand := chain_reads (l := .and) hequality
  exact chain_reads (l := .or) hand

theorem refuse_reads (stage : Stage) (problem : Problem) :
    Reads (fun c => .error ⟨problem, c.here⟩) stage (Inside 0 stage) := by
  intro c e c'
  constructor
  · intro h
    exact nomatch h
  · rintro ⟨ts, hts, -⟩
    exact hts.elim

/-- What is inside is read with the nesting that is left. -/
theorem inner_reads (n : Nat) : InnerReads (inner n) n := by
  induction n with
  | zero => exact ⟨refuse_reads whole .tooDeep, refuse_reads .unary .tooDeep⟩
  | succ n ih => exact ⟨joined_reads (unary_reads ih), unary_reads ih⟩

/-- Whole expressions are read exactly where the grammar derives them within a bound on
nesting. -/
theorem whole_reads (n : Nat) : Reads (joined (unary (inner n))) whole (Derives n whole) :=
  joined_reads (unary_reads (inner_reads n))

end Grammar

end Stencil
