import Stencil.Render

/-! # What rendering depends on

Rendering looks at its environment only through the values of the names in its expressions. If
these are the same in two environments, both renderings are the same; if some are missing in the
first environment only, the second rendering may succeed where the first one fails, but not
differ from it otherwise.
-/

namespace Stencil

/-- The second result is the first one up to `R`, or the same error. If errors may be mended,
anything may stand in place of an error. -/
inductive Follows {ε α β : Type} (mend : Prop) (R : α → β → Prop) :
    Except ε α → Except ε β → Prop
  | ok {a b} (h : R a b) : Follows mend R (.ok a) (.ok b)
  | error (e : ε) : Follows mend R (.error e) (.error e)
  | mended (h : mend) (e : ε) (y : Except ε β) : Follows mend R (.error e) y

namespace Follows

variable {ε α β γ δ : Type} {mend : Prop} {R : α → β → Prop} {S : γ → δ → Prop}
  {x : Except ε α} {y : Except ε β}

theorem same (x : Except ε α) : Follows mend Eq x x := by
  cases x with
  | ok a => exact .ok rfl
  | error e => exact .error e

theorem bind {f : α → Except ε γ} {g : β → Except ε δ} (h : Follows mend R x y)
    (hf : ∀ a b, R a b → Follows mend S (f a) (g b)) : Follows mend S (x >>= f) (y >>= g) := by
  cases h with
  | ok h => exact hf _ _ h
  | error e => exact .error e
  | mended h e => exact .mended h e _

theorem bind_eq {x y : Except ε α} {f : α → Except ε γ} {g : α → Except ε δ}
    (h : Follows mend Eq x y) (hf : ∀ a, Follows mend S (f a) (g a)) :
    Follows mend S (x >>= f) (y >>= g) := by
  apply h.bind
  rintro a _ rfl
  exact hf a

theorem map {f : α → γ} {g : β → δ} (h : Follows mend R x y)
    (hf : ∀ a b, R a b → S (f a) (g b)) : Follows mend S (x.map f) (y.map g) := by
  cases h with
  | ok h => exact .ok (hf _ _ h)
  | error e => exact .error e
  | mended h e => exact .mended h e _

/-- A last step that cannot fail is taken on the second side only. -/
theorem bind_ok {g : β → δ} {S : α → δ → Prop} (h : Follows mend R x y)
    (hg : ∀ a b, R a b → S a (g b)) : Follows mend S x (y >>= fun b => .ok (g b)) := by
  cases h with
  | ok h => exact .ok (hg _ _ h)
  | error e => exact .error e
  | mended h e => exact .mended h e _

theorem eq {x y : Except ε α} (h : Follows False Eq x y) : x = y := by
  cases h with
  | ok h => rw [h]
  | error e => rfl
  | mended h => exact h.elim

theorem eq_ok {x y : Except ε α} {a : α} (h : Follows mend Eq x y) (hx : x = .ok a) :
    y = .ok a := by
  subst hx
  cases h with
  | ok h => rw [h]

end Follows

/-! ## The names of expressions -/

/-- The names that occur in an expression. The keys of members are no names. -/
def Expr.names : Expr → List String
  | literal _ => []
  | name id => [id]
  | member base _ => base.names
  | index base key => base.names ++ key.names
  | unary _ operand => operand.names
  | binary _ left right => left.names ++ right.names
  | logical _ left right => left.names ++ right.names

namespace Node

mutual

/-- The names that occur in the expressions of a node. -/
def names : Node → List String
  | text _ => []
  | comment _ => []
  | output out => out.expr.names
  | bind _ value => value.names
  | eval value => value.names
  | cond branches none => namesBranches branches
  | cond branches (some body) => namesBranches branches ++ namesAll body
  | each collection body => collection.names ++ namesAll body

/-- The names that occur in the expressions of nodes. -/
def namesAll : List Node → List String
  | [] => []
  | node :: rest => names node ++ namesAll rest

/-- The names that occur in the tests and nodes of branches. -/
def namesBranches : List (Expr × List Node) → List String
  | [] => []
  | (test, body) :: rest => test.names ++ (namesAll body ++ namesBranches rest)

end

end Node

/-! ## Two environments -/

namespace Env

/-- The given names have the same values in both environments, except that those without a value
in the first may have one in the second if errors may be mended. -/
def FollowedBy (env : Env) (mend : Prop) (names : List String) (env' : Env) : Prop :=
  ∀ name ∈ names, Follows mend Eq (env.get name) (env'.get name)

variable {env env' : Env} {mend : Prop} {names : List String}

theorem lookup_cons_eq_ite (name key : String) (v : Value) (rest : List (String × Value)) :
    ((key, v) :: rest).lookup name = if name = key then some v else rest.lookup name := by
  rw [List.lookup_cons]
  by_cases heq : name = key
  · rw [if_pos heq, beq_iff_eq.mpr heq]
  · rw [if_neg heq, beq_eq_false_iff_ne.mpr heq]

theorem get_cons (name key : String) (v : Value) (env : Env) :
    get ((key, v) :: env) name = if name = key then .ok v else env.get name := by
  rw [get, lookup_cons_eq_ite]
  by_cases heq : name = key
  · rw [if_pos heq, if_pos heq]
  · rw [if_neg heq, if_neg heq, get]

theorem get_eq_of_lookup {name : String} (h : env.lookup name = env'.lookup name) :
    env.get name = env'.get name := by
  rw [get, get, h]

theorem FollowedBy.cons (h : env.FollowedBy mend names env') (key : String) (v : Value) :
    FollowedBy ((key, v) :: env) mend names ((key, v) :: env') := by
  intro name hname
  rw [get_cons, get_cons]
  by_cases heq : name = key
  · rw [if_pos heq, if_pos heq]
    exact .ok rfl
  · rw [if_neg heq, if_neg heq]
    exact h name hname

theorem FollowedBy.enter (h : env.FollowedBy mend names env') (item : Value)
    (index count : Nat) :
    (env.enter item index count).FollowedBy mend names (env'.enter item index count) :=
  ((h.cons _ _).cons _ _).cons _ _

end Env

section Rendering

variable {env env' : Env} {mend : Prop} {names : List String}

theorem Expr.eval_follows (h : env.FollowedBy mend names env') {e : Expr} (he : e.names ⊆ names) :
    Follows mend Eq (e.eval env) (e.eval env') := by
  induction e with
  | literal v => exact .ok rfl
  | name id => exact h id (he List.mem_cons_self)
  | member base key ih =>
      apply (ih he).bind_eq
      intro v
      exact .same _
  | index base key ihbase ihkey =>
      obtain ⟨hbase, hkey⟩ := List.append_subset.mp he
      apply (ihbase hbase).bind_eq
      intro v
      apply (ihkey hkey).bind_eq
      intro k
      exact .same _
  | unary op operand ih =>
      apply (ih he).bind_eq
      intro v
      exact .ok rfl
  | binary op left right ihleft ihright =>
      obtain ⟨hleft, hright⟩ := List.append_subset.mp he
      apply (ihleft hleft).bind_eq
      intro a
      apply (ihright hright).bind_eq
      intro b
      exact .ok rfl
  | logical op left right ihleft ihright =>
      obtain ⟨hleft, hright⟩ := List.append_subset.mp he
      apply (ihleft hleft).bind_eq
      intro a
      -- the left operand has the same value, so both evaluations skip the right one or neither
      by_cases hdecides : op.decides a
      · simp only [hdecides, if_true]
        exact .ok rfl
      · simp only [hdecides]
        exact ihright hright

theorem Output.render_follows (h : env.FollowedBy mend names env') {out : Output}
    (hout : out.expr.names ⊆ names) : Follows mend Eq (out.render env) (out.render env') := by
  apply (Expr.eval_follows h hout).bind_eq
  intro v
  exact .ok rfl

theorem renderRounds_follows {round : Env → Except Fault (List Char)}
    (hround : ∀ {env env' : Env}, env.FollowedBy mend names env' →
      Follows mend Eq (round env) (round env'))
    (h : env.FollowedBy mend names env') (count index : Nat) (items : List Value) :
    Follows mend Eq (renderRounds round env count index items)
      (renderRounds round env' count index items) := by
  induction items generalizing index with
  | nil => exact .ok rfl
  | cons item items ih =>
      apply (hround (h.enter item index count)).bind_eq
      intro first
      apply (ih (index + 1)).bind_eq
      intro others
      exact .ok rfl

namespace Node

/-- The same text, and environments of which the second goes on following the first. -/
structure Parallel (mend : Prop) (names : List String) (a b : List Char × Env) : Prop where
  text : a.1 = b.1
  env : a.2.FollowedBy mend names b.2

mutual

theorem render_follows : ∀ (node : Node) {env env' : Env}, env.FollowedBy mend names env' →
    node.names ⊆ names →
      Follows mend (Parallel mend names) (render env node) (render env' node)
  | .text content, _, _, h, _ => .ok ⟨rfl, h⟩
  | .comment content, _, _, h, _ => .ok ⟨rfl, h⟩
  | .output out, _, _, h, hnames => by
      apply (Output.render_follows h hnames).bind_eq
      intro cs
      exact .ok ⟨rfl, h⟩
  | .bind name value, _, _, h, hnames => by
      apply (Expr.eval_follows h hnames).bind_eq
      intro v
      exact .ok ⟨rfl, h.cons name v⟩
  | .eval value, _, _, h, hnames => by
      apply (Expr.eval_follows h hnames).bind_eq
      intro v
      exact .ok ⟨rfl, h⟩
  | .cond branches none, _, _, h, hnames => by
      rw [render, render]
      apply (renderBranches_follows branches h hnames).bind
      intro a b hab
      cases hab with
      | some hab => exact .ok hab
      | none => exact .ok ⟨rfl, h⟩
  | .cond branches (some body), _, _, h, hnames => by
      obtain ⟨hbranches, hbody⟩ := List.append_subset.mp hnames
      rw [render, render]
      apply (renderBranches_follows branches h hbranches).bind
      intro a b hab
      cases hab with
      | some hab => exact .ok hab
      | none => exact renderAll_follows body h hbody
  | .each collection body, _, _, h, hnames => by
      obtain ⟨hcollection, hbody⟩ := List.append_subset.mp hnames
      -- only the text of a round is used, so what the round binds does not matter
      have hround : ∀ {env env' : Env}, env.FollowedBy mend names env' →
          Follows mend Eq ((renderAll env body).map (·.1)) ((renderAll env' body).map (·.1)) :=
        fun h => (renderAll_follows body h hbody).map fun _ _ hab => hab.text
      rw [render, render]
      apply (Expr.eval_follows h hcollection).bind_eq
      intro v
      cases v.elements? with
      | none => exact .error _
      | some items =>
          apply (renderRounds_follows hround h items.length 0 items).bind_eq
          intro cs
          exact .ok ⟨rfl, h⟩

theorem renderAll_follows : ∀ (nodes : List Node) {env env' : Env},
    env.FollowedBy mend names env' → namesAll nodes ⊆ names →
      Follows mend (Parallel mend names) (renderAll env nodes) (renderAll env' nodes)
  | [], _, _, h, _ => .ok ⟨rfl, h⟩
  | node :: rest, _, _, h, hnames => by
      obtain ⟨hnode, hrest⟩ := List.append_subset.mp hnames
      rw [renderAll, renderAll]
      apply (render_follows node h hnode).bind
      intro a b hab
      apply (renderAll_follows rest hab.env hrest).bind
      intro c d hcd
      refine .ok ⟨?_, hcd.env⟩
      rw [hab.text, hcd.text]

theorem renderBranches_follows : ∀ (branches : List (Expr × List Node)) {env env' : Env},
    env.FollowedBy mend names env' → namesBranches branches ⊆ names →
      Follows mend (Option.Rel (Parallel mend names)) (renderBranches env branches)
        (renderBranches env' branches)
  | [], _, _, _, _ => .ok .none
  | (test, body) :: rest, _, _, h, hnames => by
      obtain ⟨htest, hnames⟩ := List.append_subset.mp hnames
      obtain ⟨hbody, hrest⟩ := List.append_subset.mp hnames
      rw [renderBranches, renderBranches]
      apply (Expr.eval_follows h htest).bind_eq
      intro v
      split
      next => exact (renderAll_follows body h hbody).map fun _ _ hab => .some hab
      next => exact renderBranches_follows rest h hrest

end

end Node

end Rendering

end Stencil
