import Stencil.Expr.Parser

/-! # The grammar of expressions

Which rows of tokens stand for which expressions, stated without a parser. The stages of the
grammar run from the loosest operators to the parts that no operator can split; operators of
one level associate to the left. Parentheses leave no trace in the expression, so the bound on
nesting belongs to the derivation and not to what it derives.
-/

namespace Stencil

/-- The operators of a level, each with what it makes of its operands. -/
def Level.operators : Level → List (Sign × Connective)
  | or => [(.or, .logical .or)]
  | and => [(.and, .logical .and)]
  | equality =>
    [(.eq, .binary .eq), (.notEq, .binary .notEq),
      (.strictEq, .binary .strictEq), (.strictNotEq, .binary .strictNotEq)]
  | order => [(.lt, .binary .lt), (.le, .binary .le), (.gt, .binary .gt), (.ge, .binary .ge)]
  | sum => [(.plus, .binary .add), (.minus, .binary .sub)]
  | product => [(.star, .binary .mul), (.slash, .binary .div), (.percent, .binary .rem)]

namespace Grammar

/-- The stages of the grammar. -/
inductive Stage where
  /-- Operands with operators of one level between them. -/
  | level (l : Level)
  /-- An operand behind unary operators. -/
  | unary
  /-- A primary expression with members and elements taken from it. -/
  | access
  /-- A name, a constant, or an expression in parentheses. -/
  | primary
deriving DecidableEq, Repr

/-- The stage of the operands of a level. -/
def operand : Level → Stage
  | .or => .level .and
  | .and => .level .equality
  | .equality => .level .order
  | .order => .level .sum
  | .sum => .level .product
  | .product => .unary

/-- The stage that every expression has. -/
abbrev whole : Stage := .level .or

/-- `Derives n stage ts e`: the tokens `ts` stand for `e` at a stage, and at most `n` parentheses,
brackets and unary operators lie around one another. -/
inductive Derives : Nat → Stage → List Token → Expr → Prop
  | single {n ts e} (l : Level) (h : Derives n (operand l) ts e) : Derives n (.level l) ts e
  | join {n l ts us left right} (s : Sign) (k : Connective) (pos : Nat)
      (hs : (s, k) ∈ l.operators) (hleft : Derives n (.level l) ts left)
      (hright : Derives n (operand l) us right) :
      Derives n (.level l) (ts ++ ⟨.sign s, pos⟩ :: us) (k.join left right)
  | plain {n ts e} (h : Derives n .access ts e) : Derives n .unary ts e
  | not {n ts e} (pos : Nat) (h : Derives n .unary ts e) :
      Derives (n + 1) .unary (⟨.sign .bang, pos⟩ :: ts) (.unary .not e)
  | neg {n ts e} (pos : Nat) (h : Derives n .unary ts e) :
      Derives (n + 1) .unary (⟨.sign .minus, pos⟩ :: ts) (.unary .neg e)
  | bare {n ts e} (h : Derives n .primary ts e) : Derives n .access ts e
  | member {n ts base} (id : String) (dot pos : Nat) (h : Derives n .access ts base) :
      Derives n .access (ts ++ [⟨.sign .dot, dot⟩, ⟨.name id, pos⟩]) (.member base id)
  | index {n ts us base key} (left right : Nat) (hbase : Derives (n + 1) .access ts base)
      (hkey : Derives n whole us key) :
      Derives (n + 1) .access
        (ts ++ ⟨.sign .leftBracket, left⟩ :: (us ++ [⟨.sign .rightBracket, right⟩]))
        (.index base key)
  | name {n} (id : String) (pos : Nat) : Derives n .primary [⟨.name id, pos⟩] (.name id)
  | number {n} (x : Float) (pos : Nat) :
      Derives n .primary [⟨.number x, pos⟩] (.literal (Value.ofFloat x))
  | string {n} (s : String) (pos : Nat) :
      Derives n .primary [⟨.string s, pos⟩] (.literal (.string s))
  | bool {n} (b : Bool) (pos : Nat) : Derives n .primary [⟨.bool b, pos⟩] (.literal (.bool b))
  | null {n} (pos : Nat) : Derives n .primary [⟨.null, pos⟩] (.literal .null)
  | paren {n ts e} (left right : Nat) (h : Derives n whole ts e) :
      Derives (n + 1) .primary
        (⟨.sign .leftParen, left⟩ :: (ts ++ [⟨.sign .rightParen, right⟩])) e

/-- The tokens stand for an expression with bounded nesting and a bounded number of operators. -/
def Expression (depth operators : Nat) (ts : List Token) (e : Expr) : Prop :=
  Derives depth whole ts e ∧ e.operators ≤ operators

/-- The tokens are names of filters, each behind a pipe sign; with every name goes the byte at
which it starts. -/
inductive Filters : List Token → List (String × Nat) → Prop
  | nil : Filters [] []
  | cons {ts filters} (pipe : Nat) (id : String) (pos : Nat) (h : Filters ts filters) :
      Filters (⟨.sign .pipe, pipe⟩ :: ⟨.name id, pos⟩ :: ts) ((id, pos) :: filters)

/-- More nesting may be allowed than a derivation needs. -/
theorem Derives.mono {n m : Nat} {stage : Stage} {ts : List Token} {e : Expr}
    (h : Derives n stage ts e) (hle : n ≤ m) : Derives m stage ts e := by
  induction h generalizing m with
  | single l _ ih => exact .single l (ih hle)
  | join s k pos hs _ _ ihleft ihright => exact .join s k pos hs (ihleft hle) (ihright hle)
  | plain _ ih => exact .plain (ih hle)
  | not pos _ ih =>
      cases m with
      | zero => exact absurd hle (Nat.not_succ_le_zero _)
      | succ m => exact .not pos (ih (Nat.le_of_succ_le_succ hle))
  | neg pos _ ih =>
      cases m with
      | zero => exact absurd hle (Nat.not_succ_le_zero _)
      | succ m => exact .neg pos (ih (Nat.le_of_succ_le_succ hle))
  | bare _ ih => exact .bare (ih hle)
  | member id dot pos _ ih => exact .member id dot pos (ih hle)
  | index left right _ _ ihbase ihkey =>
      cases m with
      | zero => exact absurd hle (Nat.not_succ_le_zero _)
      | succ m => exact .index left right (ihbase hle) (ihkey (Nat.le_of_succ_le_succ hle))
  | name id pos => exact .name id pos
  | number x pos => exact .number x pos
  | string s pos => exact .string s pos
  | bool b pos => exact .bool b pos
  | null pos => exact .null pos
  | paren left right _ ih =>
      cases m with
      | zero => exact absurd hle (Nat.not_succ_le_zero _)
      | succ m => exact .paren left right (ih (Nat.le_of_succ_le_succ hle))

/-- A derivation does not look at the places of its tokens. -/
theorem Derives.of_kinds {n : Nat} {stage : Stage} {ts ts' : List Token} {e : Expr}
    (h : Derives n stage ts e) (hkinds : ts'.map Token.kind = ts.map Token.kind) :
    Derives n stage ts' e := by
  -- the places are read off the given row, which is divided as the derived one
  induction h generalizing ts' with
  | single l _ ih => exact .single l (ih hkinds)
  | join s k pos hs _ _ ihleft ihright =>
      rw [List.map_append, List.map_cons] at hkinds
      obtain ⟨front, behind, rfl, hfront, hbehind⟩ := List.map_eq_append_iff.mp hkinds
      obtain ⟨⟨_, at_⟩, back, rfl, rfl, hback⟩ := List.map_eq_cons_iff.mp hbehind
      exact .join s k at_ hs (ihleft hfront) (ihright hback)
  | plain _ ih => exact .plain (ih hkinds)
  | not pos _ ih =>
      obtain ⟨⟨_, at_⟩, back, rfl, rfl, hback⟩ := List.map_eq_cons_iff.mp hkinds
      exact .not at_ (ih hback)
  | neg pos _ ih =>
      obtain ⟨⟨_, at_⟩, back, rfl, rfl, hback⟩ := List.map_eq_cons_iff.mp hkinds
      exact .neg at_ (ih hback)
  | bare _ ih => exact .bare (ih hkinds)
  | member id dot pos _ ih =>
      rw [List.map_append] at hkinds
      obtain ⟨front, behind, rfl, hfront, hbehind⟩ := List.map_eq_append_iff.mp hkinds
      obtain ⟨⟨_, at_⟩, back, rfl, rfl, hback⟩ := List.map_eq_cons_iff.mp hbehind
      obtain ⟨⟨_, name⟩, rfl, rfl⟩ := List.map_eq_singleton_iff.mp hback
      exact .member id at_ name (ih hfront)
  | index left right _ _ ihbase ihkey =>
      rw [List.map_append, List.map_cons, List.map_append] at hkinds
      obtain ⟨front, behind, rfl, hfront, hbehind⟩ := List.map_eq_append_iff.mp hkinds
      obtain ⟨⟨_, at_⟩, back, rfl, rfl, hback⟩ := List.map_eq_cons_iff.mp hbehind
      obtain ⟨key, last, rfl, hkey, hlast⟩ := List.map_eq_append_iff.mp hback
      obtain ⟨⟨_, at_'⟩, rfl, rfl⟩ := List.map_eq_singleton_iff.mp hlast
      exact .index at_ at_' (ihbase hfront) (ihkey hkey)
  | name id pos =>
      obtain ⟨⟨_, at_⟩, rfl, rfl⟩ := List.map_eq_singleton_iff.mp hkinds
      exact .name id at_
  | number x pos =>
      obtain ⟨⟨_, at_⟩, rfl, rfl⟩ := List.map_eq_singleton_iff.mp hkinds
      exact .number x at_
  | string s pos =>
      obtain ⟨⟨_, at_⟩, rfl, rfl⟩ := List.map_eq_singleton_iff.mp hkinds
      exact .string s at_
  | bool b pos =>
      obtain ⟨⟨_, at_⟩, rfl, rfl⟩ := List.map_eq_singleton_iff.mp hkinds
      exact .bool b at_
  | null pos =>
      obtain ⟨⟨_, at_⟩, rfl, rfl⟩ := List.map_eq_singleton_iff.mp hkinds
      exact .null at_
  | paren left right _ ih =>
      rw [List.map_cons, List.map_append] at hkinds
      obtain ⟨⟨_, at_⟩, back, rfl, rfl, hback⟩ := List.map_eq_cons_iff.mp hkinds
      obtain ⟨inside, last, rfl, hinside, hlast⟩ := List.map_eq_append_iff.mp hback
      obtain ⟨⟨_, at_'⟩, rfl, rfl⟩ := List.map_eq_singleton_iff.mp hlast
      exact .paren at_ at_' (ih hinside)

/-- The names of filters do not depend on the places of the tokens. -/
theorem Filters.of_kinds {ts ts' : List Token} {filters : List (String × Nat)}
    (h : Filters ts filters) (hkinds : ts'.map Token.kind = ts.map Token.kind) :
    ∃ filters', Filters ts' filters' := by
  induction h generalizing ts' with
  | nil =>
      obtain rfl := List.map_eq_nil_iff.mp hkinds
      exact ⟨[], .nil⟩
  | cons pipe id pos _ ih =>
      obtain ⟨⟨_, at_⟩, back, rfl, rfl, hback⟩ := List.map_eq_cons_iff.mp hkinds
      obtain ⟨⟨_, name⟩, rest, rfl, rfl, hrest⟩ := List.map_eq_cons_iff.mp hback
      obtain ⟨filters', hfilters'⟩ := ih hrest
      exact ⟨(_, name) :: filters', .cons at_ _ name hfilters'⟩

end Grammar

end Stencil
