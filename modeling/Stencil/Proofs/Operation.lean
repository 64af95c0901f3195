import Stencil.Engine
import Stencil.Proofs.Result

/-! # Operations on an engine

The calls that an engine answers, their outcomes, and all that one of them may do to the engine
and its cache.
-/

namespace Stencil

namespace Cache

/-- Dropping the templates under one digest hides none under another. -/
theorem lookup_filter_ne {digest other : List Char} (hne : other ≠ digest)
    (entries : List (List Char × Template)) :
    (entries.filter (·.1 ≠ digest)).lookup other = entries.lookup other := by
  induction entries with
  | nil => rfl
  | cons entry rest ih =>
      obtain ⟨key, template⟩ := entry
      by_cases hkey : key = digest
      · have hother : (other == key) = false := beq_eq_false_iff_ne.mpr (hkey ▸ hne)
        rw [List.filter_cons_of_neg (by simpa using hkey), ih, List.lookup_cons, hother]
      · rw [List.filter_cons_of_pos (by simpa using hkey), List.lookup_cons, List.lookup_cons, ih]

theorem get?_insert (cache : Cache) (digest other : List Char) (template : Template) :
    (cache.insert digest template).get? other =
      if other = digest then some template else cache.get? other := by
  rw [get?, insert, List.lookup_cons]
  by_cases heq : other = digest
  · rw [if_pos heq, beq_iff_eq.mpr heq]
  · rw [if_neg heq, beq_eq_false_iff_ne.mpr heq]
    exact lookup_filter_ne heq cache.entries

/-- An emptied cache holds nothing, and a cache that is off does not either. -/
theorem get?_emptied (cache : Option Cache) (digest : List Char) :
    (cache.map fun _ => empty).bind (·.get? digest) = none := by
  cases cache with
  | none => rfl
  | some cache => rfl

end Cache

/-- A call to an engine. Nothing but compiling puts templates into the cache. -/
inductive Operation where
  | register (name : String) (filter : Filter)
  | prepare (source : List Char)
  | scan (source : List Char)
  | render (source : List Char) (data : Value)
  | compile (source : List Char) (data : Value)
  | clearCache

namespace Operation

/-- The source whose template an operation asks for. -/
def source? : Operation → Option (List Char)
  | prepare source | render source _ | compile source _ => some source
  | _ => none

/-- Whether an operation empties the cache. -/
def empties : Operation → Bool
  | register .. | clearCache => true
  | _ => false

end Operation

/-- What a call to an engine gives. A template is given by what it was compiled to. -/
inductive Outcome where
  | done
  | template (result : Except Diagnostic Compiled)
  | segments (result : Except Diagnostic (List Segment))
  | text (result : Except Diagnostic (List Char))
  | maybeText (content : Option (List Char))

namespace Engine

/-- The outcome of an operation and the engine behind it. -/
def perform (e : Engine) : Operation → Outcome × Engine
  | .register name filter => (.done, e.register name filter)
  | .prepare source =>
    let use := e.prepare source
    (.template (use.result.map Template.compiled), use.engine)
  | .scan source =>
    let use := e.scan source
    (.segments use.result, use.engine)
  | .render source data =>
    let use := e.render source data
    (.text use.result, use.engine)
  | .compile source data =>
    let use := e.compile source data
    (.maybeText use.result, use.engine)
  | .clearCache => (.done, e.clearCache)

/-- The engine behind a row of operations. -/
def after (e : Engine) (ops : List Operation) : Engine :=
  ops.foldl (fun e op => (e.perform op).2) e

/-- The outcomes of a row of operations. -/
def outcomes : Engine → List Operation → List Outcome
  | _, [] => []
  | e, op :: ops => (e.perform op).1 :: outcomes (e.perform op).2 ops

/-- What a source compiles to with the filters of the moment. The cache has no part in it. -/
def freshly (e : Engine) (source : List Char) : Except Diagnostic Compiled :=
  Compiled.ofSource e.signs e.dialect source

/-- The template that the cache holds under a digest. -/
def kept? (e : Engine) (digest : List Char) : Option Template := e.cache.bind (·.get? digest)

/-- In a row of operations a source was compiled, and the cache was not emptied since. -/
def CompiledSince (e : Engine) (ops : List Operation) (source : List Char) : Prop :=
  ∃ before op behind compiled, ops = before ++ op :: behind ∧ op.source? = some source ∧
    (e.after before).freshly source = .ok compiled ∧ ∀ later ∈ behind, later.empties = false

variable {e : Engine} {source digest : List Char} {op : Operation}

/-- A template is put under one digest, and only if there is a cache. -/
theorem kept?_cacheTemplate (e : Engine) (source digest : List Char) (template : Template) :
    (e.cacheTemplate source template).kept? digest =
      if digest = Digest.ofText source then e.cache.map fun _ => template
      else e.kept? digest := by
  unfold kept? cacheTemplate
  cases e.cache with
  | none => simp
  | some cache => exact cache.get?_insert _ _ _

/-- What `prepare` does: it takes the template from the cache, or it compiles the source, and
keeps the template if there is one. -/
theorem prepare_cases (e : Engine) (source : List Char) :
    (∃ template, e.cached? source = some template ∧
      (e.prepare source).result = .ok template ∧ (e.prepare source).engine = e) ∨
    (∃ d, e.cached? source = none ∧ e.freshly source = .error d ∧
      (e.prepare source).result = .error d ∧ (e.prepare source).engine = e) ∨
    (∃ compiled, e.cached? source = none ∧ e.freshly source = .ok compiled ∧
      (e.prepare source).result = .ok ⟨e.made, compiled⟩ ∧
      (e.prepare source).engine =
        { e with made := e.made + 1 }.cacheTemplate source ⟨e.made, compiled⟩) := by
  unfold prepare
  cases hcached : e.cached? source with
  | some template => exact .inl ⟨template, rfl, rfl, rfl⟩
  | none =>
      refine .inr ?_
      unfold compileFresh
      cases hfresh : e.freshly source with
      | error d =>
          rw [freshly] at hfresh
          exact .inl ⟨d, rfl, rfl, by simp only [hfresh], by simp only [hfresh]⟩
      | ok compiled =>
          rw [freshly] at hfresh
          exact .inr ⟨compiled, rfl, rfl, by simp only [hfresh], by simp only [hfresh]⟩

/-- An engine behind `compile` is the engine behind `prepare`. -/
theorem compile_engine (e : Engine) (source : List Char) (data : Value) :
    (e.compile source data).engine = (e.prepare source).engine := by
  unfold compile
  dsimp only
  split
  next => rfl
  next => rfl

/-- What an operation does to an engine: it empties the cache, it does nothing, or it prepares
its source. -/
theorem perform_cases (e : Engine) (op : Operation) :
    (op.source? = none ∧ op.empties = true ∧
      (e.perform op).2.cache = e.cache.map fun _ => .empty) ∨
    (op.source? = none ∧ op.empties = false ∧ (e.perform op).2 = e) ∨
    (∃ source, op.source? = some source ∧ op.empties = false ∧
      (e.perform op).2 = (e.prepare source).engine) := by
  cases op with
  | register name filter => exact .inl ⟨rfl, rfl, rfl⟩
  | clearCache => exact .inl ⟨rfl, rfl, rfl⟩
  | scan source => exact .inr (.inl ⟨rfl, rfl, rfl⟩)
  | prepare source => exact .inr (.inr ⟨source, rfl, rfl, rfl⟩)
  | render source data => exact .inr (.inr ⟨source, rfl, rfl, rfl⟩)
  | compile source data =>
      exact .inr (.inr ⟨source, rfl, rfl, e.compile_engine source data⟩)

theorem kept?_of_emptied {e₁ e₂ : Engine} (h : e₂.cache = e₁.cache.map fun _ => .empty)
    (digest : List Char) : e₂.kept? digest = none := by
  rw [kept?, h, Cache.get?_emptied]

/-- No operation turns the cache on or off. -/
theorem cache_isSome_perform (e : Engine) (op : Operation) :
    (e.perform op).2.cache.isSome = e.cache.isSome := by
  rcases e.perform_cases op with ⟨_, _, h⟩ | ⟨_, _, h⟩ | ⟨source, _, _, h⟩
  · rw [h, Option.isSome_map]
  · rw [h]
  · rcases e.prepare_cases source with ⟨_, _, _, hp⟩ | ⟨_, _, _, _, hp⟩ | ⟨_, _, _, _, hp⟩
    · rw [h, hp]
    · rw [h, hp]
    · rw [h, hp, cacheTemplate, Option.isSome_map]

/-- No operation changes the markers. -/
theorem signs_perform (e : Engine) (op : Operation) : (e.perform op).2.signs = e.signs := by
  have hprepare : ∀ source, (e.prepare source).engine.signs = e.signs := by
    intro source
    rcases e.prepare_cases source with ⟨_, _, _, hp⟩ | ⟨_, _, _, _, hp⟩ | ⟨_, _, _, _, hp⟩
    · rw [hp]
    · rw [hp]
    · rw [hp]
      rfl
  cases op with
  | register name filter => rfl
  | clearCache => rfl
  | scan source => rfl
  | prepare source => exact hprepare source
  | render source data => exact hprepare source
  | compile source data =>
      simp only [perform, compile_engine]
      exact hprepare source

/-- A template is rendered as what it was compiled to. -/
theorem render_result (e : Engine) (source : List Char) (data : Value) :
    (e.render source data).result =
      ((e.prepare source).result.map Template.compiled).bind (·.render data) := by
  unfold render
  dsimp only
  cases (e.prepare source).result with
  | error d => rfl
  | ok template => rfl

/-- A source is rendered if it can be prepared and the tree of its template can be rendered. -/
theorem render_eq_ok_iff {data : Value} {cs : List Char} :
    (e.render source data).result = .ok cs ↔
      ∃ template, (e.prepare source).result = .ok template ∧
        renderNodes template.compiled.nodes data = .ok cs := by
  constructor
  · intro h
    obtain ⟨template, htemplate, hrender⟩ := bind_eq_ok_iff.mp h
    exact ⟨template, htemplate, mapError_eq_ok_iff.mp hrender⟩
  · rintro ⟨template, htemplate, hrender⟩
    exact bind_eq_ok_iff.mpr ⟨template, htemplate, mapError_eq_ok_iff.mpr hrender⟩

theorem compile_result (e : Engine) (source : List Char) (data : Value) :
    (e.compile source data).result = (e.render source data).result.toOption := by
  unfold compile
  dsimp only
  split
  next text htext => rw [htext, Except.toOption]
  next d hd => rw [hd, Except.toOption]

theorem after_append (e : Engine) (before behind : List Operation) :
    e.after (before ++ behind) = (e.after before).after behind := List.foldl_append

theorem after_concat (e : Engine) (ops : List Operation) (op : Operation) :
    e.after (ops ++ [op]) = ((e.after ops).perform op).2 := e.after_append ops [op]

theorem cache_isSome_after (e : Engine) (ops : List Operation) :
    (e.after ops).cache.isSome = e.cache.isSome := by
  induction ops generalizing e with
  | nil => rfl
  | cons op rest ih => exact (ih (e.perform op).2).trans (e.cache_isSome_perform op)

theorem signs_after (e : Engine) (ops : List Operation) : (e.after ops).signs = e.signs := by
  induction ops generalizing e with
  | nil => rfl
  | cons op rest ih => exact (ih (e.perform op).2).trans (e.signs_perform op)

/-- Whether a source was compiled since the cache was last emptied is decided by the last
operation or, unless that empties the cache, by those before it. -/
theorem compiledSince_concat {ops : List Operation} :
    e.CompiledSince (ops ++ [op]) source ↔
      (op.source? = some source ∧ ∃ compiled, (e.after ops).freshly source = .ok compiled) ∨
      (op.empties = false ∧ e.CompiledSince ops source) := by
  constructor
  · rintro ⟨before, first, behind, compiled, heq, hsource, hfresh, hlater⟩
    rcases List.eq_nil_or_concat behind with rfl | ⟨init, last, rfl⟩
    · obtain ⟨rfl, hlast⟩ := List.append_inj' heq rfl
      cases hlast
      exact .inl ⟨hsource, compiled, hfresh⟩
    · rw [List.concat_eq_append] at heq hlater
      rw [← List.cons_append, ← List.append_assoc] at heq
      obtain ⟨rfl, hlast⟩ := List.append_inj' heq rfl
      cases hlast
      obtain ⟨hinit, hop⟩ := List.forall_mem_append.mp hlater
      exact .inr ⟨hop _ List.mem_cons_self, before, first, init, compiled, rfl, hsource, hfresh,
        hinit⟩
  · rintro (⟨hsource, compiled, hfresh⟩ |
      ⟨hop, before, first, behind, compiled, rfl, hsource, hfresh, hlater⟩)
    · exact ⟨ops, op, [], compiled, rfl, hsource, hfresh, fun _ h => nomatch h⟩
    · refine ⟨before, first, behind ++ [op], compiled, ?_, hsource, hfresh, ?_⟩
      · rw [List.append_assoc, List.cons_append]
      · refine List.forall_mem_append.mpr ⟨hlater, ?_⟩
        intro last hlast
        rwa [List.mem_singleton.mp hlast]

/-- Two engines with the same markers, filters and mode. -/
structure Alike (e₁ e₂ : Engine) : Prop where
  signs : e₁.signs = e₂.signs
  dialect : e₁.dialect = e₂.dialect

namespace Alike

variable {e₁ e₂ e₃ : Engine}

theorem symm (h : Alike e₁ e₂) : Alike e₂ e₁ := ⟨h.signs.symm, h.dialect.symm⟩

theorem trans (h₁ : Alike e₁ e₂) (h₂ : Alike e₂ e₃) : Alike e₁ e₃ :=
  ⟨h₁.signs.trans h₂.signs, h₁.dialect.trans h₂.dialect⟩

theorem freshly (h : Alike e₁ e₂) (source : List Char) :
    e₁.freshly source = e₂.freshly source := by
  rw [Engine.freshly, Engine.freshly, h.signs, h.dialect]

theorem prepare (e : Engine) (source : List Char) : Alike (e.prepare source).engine e := by
  rcases e.prepare_cases source with ⟨_, _, _, h⟩ | ⟨_, _, _, _, h⟩ | ⟨_, _, _, _, h⟩
  · rw [h]
    exact ⟨rfl, rfl⟩
  · rw [h]
    exact ⟨rfl, rfl⟩
  · rw [h]
    exact ⟨rfl, rfl⟩

/-- Engines stay alike under the same operation. -/
theorem perform (h : Alike e₁ e₂) (op : Operation) :
    Alike (e₁.perform op).2 (e₂.perform op).2 := by
  cases op with
  | register name filter =>
      obtain ⟨hregistry, hmode⟩ := Dialect.mk.inj h.dialect
      refine ⟨h.signs, ?_⟩
      simp only [Engine.perform, register, Engine.dialect, hregistry, hmode]
  | clearCache => exact ⟨h.signs, h.dialect⟩
  | scan source => exact h
  | prepare source => exact (prepare e₁ source).trans (h.trans (prepare e₂ source).symm)
  | render source data => exact (prepare e₁ source).trans (h.trans (prepare e₂ source).symm)
  | compile source data =>
      simp only [Engine.perform, compile_engine]
      exact (prepare e₁ source).trans (h.trans (prepare e₂ source).symm)

end Alike

end Engine

end Stencil
