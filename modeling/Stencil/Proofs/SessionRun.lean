import Stencil.Proofs.Caching
import Stencil.Session

/-! # Rows of calls in a session

What a call may do to the engine of a session and to the templates that it holds, and what a row of
calls does from the first one on. A held template is never replaced. The engine has for a source
what it compiles to, unless a call has put something else in its place since the cache was last
emptied.
-/

namespace Stencil

namespace Call

/-- The operation on the engine that a call consists of. -/
def operation? : Call → Option Operation
  | register name filter => some (.register name filter)
  | prepare source => some (.prepare source)
  | scan source => some (.scan source)
  | render source data => some (.render source data)
  | compile source data => some (.compile source data)
  | cacheClear => some .clearCache
  | _ => none

/-- Whether a call empties the cache. -/
def empties (call : Call) : Bool := call.operation?.any Operation.empties

/-- A call puts under the digest of a source what was not compiled from it there: a template that
is put into the cache by hand, or the template of another source with the same digest. -/
inductive Displaces (source : List Char) : Call → Prop
  | byHand {other : List Char} {held : Nat} (h : Digest.ofText other = Digest.ofText source) :
      Displaces source (.cacheInsert other held)
  | byDigest {call : Call} {op : Operation} {other : List Char}
      (hcall : call.operation? = some op) (hop : op.source? = some other)
      (h : Digest.ofText other = Digest.ofText source) (hne : other ≠ source) :
      Displaces source call

end Call

namespace Engine

/-- What the cache has for a source is what the source compiles to now. -/
def Faithful (e : Engine) (source : List Char) : Prop :=
  ∀ template, e.cached? source = some template → e.freshly source = .ok template.compiled

variable {e : Engine} {source : List Char}

theorem Faithful.of_cache_eq_none (h : e.cache = none) : e.Faithful source := by
  intro template htemplate
  simp [cached?, h] at htemplate

theorem Faithful.of_emptied {e' : Engine} (h : e'.cache = e.cache.map fun _ => .empty) :
    e'.Faithful source := by
  intro template htemplate
  cases (kept?_of_emptied h (Digest.ofText source)).symm.trans htemplate

/-- The template that is prepared is a fresh one exactly if the cache has no other. -/
theorem prepare_eq_freshly_iff :
    (e.prepare source).result.map Template.compiled = e.freshly source ↔ e.Faithful source := by
  constructor
  · intro h template htemplate
    rw [← h, prepare, htemplate]
    rfl
  · exact prepare_result_of_cached?

/-- An operation keeps the cache faithful to a source if it compiles no other source with the same
digest. -/
theorem Faithful.perform (h : e.Faithful source) {op : Operation}
    (hop : ∀ other, op.source? = some other → Digest.ofText other = Digest.ofText source →
      other = source) : (e.perform op).2.Faithful source := by
  intro template htemplate
  obtain ⟨hfreshly, hold | ⟨other, hother, hdigest, hfresh⟩⟩ := of_kept?_perform htemplate
  · rw [hfreshly]
    exact h template hold
  · rw [hfreshly, ← hop other hother hdigest]
    exact hfresh

/-- A template that is put into the cache by hand under another digest changes nothing. -/
theorem Faithful.cacheTemplate (h : e.Faithful source) {other : List Char}
    (hdigest : Digest.ofText other ≠ Digest.ofText source) (template : Template) :
    (e.cacheTemplate other template).Faithful source := by
  intro found hfound
  rw [cached?, ← kept?, kept?_cacheTemplate, if_neg hdigest.symm] at hfound
  exact h found hfound

end Engine

namespace Session

/-- The session behind a row of calls. -/
def after (s : Session) (calls : List Call) : Session :=
  calls.foldl (fun s call => (s.call call).2.1) s

variable {s : Session} {call : Call} {source : List Char}

theorem engine_hold (s : Session) (template : Template) :
    (s.hold template).2.engine = s.engine := by
  unfold hold
  split
  next => rfl
  next => rfl

theorem held_hold (s : Session) (template : Template) :
    s.held <+: (s.hold template).2.held := by
  unfold hold
  split
  next => exact List.prefix_refl _
  next => exact List.prefix_append _ _

/-- What a call does to the engine: it performs its operation, it puts a template into the cache by
hand, or it does nothing. -/
theorem engine_call (s : Session) (call : Call) :
    (∃ op, call.operation? = some op ∧ (s.call call).2.1.engine = (s.engine.perform op).2) ∨
    (∃ other held template, call = .cacheInsert other held ∧
      (s.call call).2.1.engine = s.engine.cacheTemplate other template) ∨
    (call.operation? = none ∧ (s.call call).2.1.engine = s.engine) := by
  cases call with
  | register name filter => exact .inl ⟨_, rfl, rfl⟩
  | prepare source =>
      refine .inl ⟨_, rfl, ?_⟩
      simp only [Session.call, Engine.perform]
      split
      next => rfl
      next template _ => exact engine_hold _ template
  | scan source => exact .inl ⟨_, rfl, rfl⟩
  | render source data => exact .inl ⟨_, rfl, rfl⟩
  | compile source data => exact .inl ⟨_, rfl, rfl⟩
  | cacheClear => exact .inl ⟨_, rfl, rfl⟩
  | cacheInsert other held =>
      simp only [Session.call]
      split
      next cache template _ _ => exact .inr (.inl ⟨other, held, template, rfl, rfl⟩)
      next => exact .inr (.inr ⟨rfl, rfl⟩)
  | renderHeld held data | heldSegments held =>
      simp only [Session.call]
      split
      next => exact .inr (.inr ⟨rfl, rfl⟩)
      next => exact .inr (.inr ⟨rfl, rfl⟩)
  | cacheHas source => exact .inr (.inr ⟨rfl, rfl⟩)
  | describe name => exact .inr (.inr ⟨rfl, rfl⟩)

/-- A call gives up no held template and replaces none. -/
theorem held_call (s : Session) (call : Call) : s.held <+: (s.call call).2.1.held := by
  cases call with
  | prepare source =>
      simp only [Session.call]
      split
      next => exact List.prefix_refl _
      next template _ =>
        exact held_hold { s with engine := (s.engine.prepare source).engine } template
  | cacheInsert other held | renderHeld held data | heldSegments held =>
      simp only [Session.call]
      split
      next => exact List.prefix_refl _
      next => exact List.prefix_refl _
  | _ => exact List.prefix_refl _

/-- The first template that a session is given is held as the one with the number 0. -/
theorem held_prepare_ofConfig {config : Config} {compiled : Compiled}
    (h : (Engine.ofConfig config).freshly source = .ok compiled) :
    ((ofConfig config).call (.prepare source)).2.1.held = [⟨0, compiled⟩] := by
  have hnone : (Engine.ofConfig config).cached? source = none := Engine.kept?_ofConfig config _
  rw [Engine.freshly] at h
  simp only [call, ofConfig, Engine.prepare, hnone, Engine.compileFresh, h]
  rfl

/-- A template that is held can be put into a cache. -/
theorem engine_cacheInsert {held : Nat} {template : Template} (hon : s.engine.cache.isSome)
    (hheld : s.held[held]? = some template) (source : List Char) :
    (s.call (.cacheInsert source held)).2.1.engine = s.engine.cacheTemplate source template := by
  obtain ⟨cache, hcache⟩ := Option.isSome_iff_exists.mp hon
  simp only [call, hcache, hheld]

theorem held_after (s : Session) (calls : List Call) : s.held <+: (s.after calls).held := by
  induction calls generalizing s with
  | nil => exact List.prefix_refl _
  | cons call rest ih => exact (held_call s call).trans (ih (s.call call).2.1)

/-- A held template is rendered alike behind any row of calls. -/
theorem answer_renderHeld_after {held : Nat} (hheld : held < s.held.length) (calls : List Call)
    (data : Value) :
    ((s.after calls).call (.renderHeld held data)).1 = (s.call (.renderHeld held data)).1 := by
  have hsame : (s.after calls).held[held]? = s.held[held]? := by
    obtain ⟨more, hmore⟩ := held_after s calls
    rw [← hmore, List.getElem?_append_left hheld]
  simp only [Session.call, hsame]
  split
  next => rfl
  next => rfl

theorem after_concat (s : Session) (calls : List Call) (call : Call) :
    s.after (calls ++ [call]) = ((s.after calls).call call).2.1 := List.foldl_append

theorem signs_call (s : Session) (call : Call) :
    (s.call call).2.1.engine.signs = s.engine.signs := by
  rcases engine_call s call with ⟨op, -, h⟩ | ⟨other, held, template, -, h⟩ | ⟨-, h⟩
  · rw [h, Engine.signs_perform]
  · rw [h, Engine.cacheTemplate]
  · rw [h]

theorem signs_after (s : Session) (calls : List Call) :
    (s.after calls).engine.signs = s.engine.signs := by
  induction calls generalizing s with
  | nil => rfl
  | cons call rest ih => exact (ih (s.call call).2.1).trans (signs_call s call)

theorem cache_isSome_call (s : Session) (call : Call) :
    (s.call call).2.1.engine.cache.isSome = s.engine.cache.isSome := by
  rcases engine_call s call with ⟨op, -, h⟩ | ⟨other, held, template, -, h⟩ | ⟨-, h⟩
  · rw [h, Engine.cache_isSome_perform]
  · rw [h, Engine.cacheTemplate, Option.isSome_map]
  · rw [h]

theorem cache_isSome_after (s : Session) (calls : List Call) :
    (s.after calls).engine.cache.isSome = s.engine.cache.isSome := by
  induction calls generalizing s with
  | nil => rfl
  | cons call rest ih => exact (ih (s.call call).2.1).trans (cache_isSome_call s call)

/-- The first template of a session, put into the cache by hand, is what is found for a source. -/
theorem cached?_cacheInsert_first {config : Config} {first : List Char} {compiled : Compiled}
    (hcache : config.cache = true) (h : (Engine.ofConfig config).freshly first = .ok compiled)
    (source : List Char) :
    ((ofConfig config).after [.prepare first, .cacheInsert source 0]).engine.cached? source =
      some ⟨0, compiled⟩ := by
  let held := (ofConfig config).after [.prepare first]
  have hon : held.engine.cache.isSome := by
    rw [cache_isSome_after]
    simp [ofConfig, Engine.ofConfig, hcache]
  have hinsert : ((ofConfig config).after [.prepare first, .cacheInsert source 0]).engine =
      held.engine.cacheTemplate source ⟨0, compiled⟩ := by
    apply engine_cacheInsert hon
    rw [show held.held = _ from held_prepare_ofConfig h]
    rfl
  obtain ⟨cache, hsome⟩ := Option.isSome_iff_exists.mp hon
  rw [hinsert, Engine.cached?, ← Engine.kept?, Engine.kept?_cacheTemplate, if_pos rfl, hsome]
  rfl

/-- The cache was emptied behind every call that put something else in the place of the template of
a source. -/
def Undisturbed (source : List Char) (calls : List Call) : Prop :=
  ∀ before call behind, calls = before ++ call :: behind → call.Displaces source →
    ∃ later ∈ behind, later.empties = true

theorem Undisturbed.of_forall_not {calls : List Call}
    (h : ∀ call ∈ calls, ¬ call.Displaces source) : Undisturbed source calls := by
  rintro before call behind rfl hcall
  exact absurd hcall (h call (by simp))

theorem Undisturbed.concat {calls : List Call} (h : Undisturbed source (calls ++ [call])) :
    call.empties = true ∨ Undisturbed source calls ∧ ¬ call.Displaces source := by
  by_cases hempties : call.empties = true
  · exact .inl hempties
  · refine .inr ⟨?_, ?_⟩
    · rintro before other behind rfl hother
      obtain ⟨later, hlater, hempty⟩ :=
        h before other (behind ++ [call]) (by simp) hother
      rcases List.mem_append.mp hlater with hlater | hlater
      · exact ⟨later, hlater, hempty⟩
      · rw [List.mem_singleton.mp hlater] at hempty
        exact absurd hempty hempties
    · intro hdisplaces
      obtain ⟨later, hlater, -⟩ := h calls call [] rfl hdisplaces
      exact nomatch hlater

theorem faithful_of_empties (hempties : call.empties = true) :
    (s.call call).2.1.engine.Faithful source := by
  cases call with
  | register name filter => exact .of_emptied (e := s.engine) rfl
  | cacheClear => exact .of_emptied (e := s.engine) rfl
  | _ => exact nomatch hempties

/-- A call keeps the cache faithful to a source unless it puts something else in the place of its
template. -/
theorem faithful_call (h : s.engine.Faithful source) (hcall : ¬ call.Displaces source) :
    (s.call call).2.1.engine.Faithful source := by
  rcases engine_call s call with ⟨op, hop, hengine⟩ | ⟨other, held, template, rfl, hengine⟩ |
    ⟨-, hengine⟩
  · rw [hengine]
    apply h.perform
    intro other hother hdigest
    by_contra hne
    exact hcall (.byDigest hop hother hdigest hne)
  · rw [hengine]
    exact h.cacheTemplate (fun hdigest => hcall (.byHand hdigest)) template
  · rwa [hengine]

/-- Behind a row of calls the cache is faithful to a source that was left in its place. -/
theorem faithful_after {config : Config} {calls : List Call}
    (h : config.cache = true → Undisturbed source calls) :
    ((ofConfig config).after calls).engine.Faithful source := by
  cases hcache : config.cache with
  | false =>
      apply Engine.Faithful.of_cache_eq_none
      rw [← Option.isNone_iff_eq_none, ← Option.not_isSome, cache_isSome_after]
      simp [ofConfig, Engine.ofConfig, hcache]
  | true =>
      have hundisturbed := h hcache
      -- from the end, since a call that empties the cache makes what was before it immaterial
      induction calls using List.reverseRecOn with
      | nil =>
          intro template htemplate
          cases (Engine.kept?_ofConfig config _).symm.trans htemplate
      | append_singleton calls call ih =>
          rw [after_concat]
          rcases hundisturbed.concat with hempties | ⟨hbefore, hcall⟩
          · exact faithful_of_empties hempties
          · exact faithful_call (ih (fun _ => hbefore) hbefore) hcall

end Session

end Stencil
