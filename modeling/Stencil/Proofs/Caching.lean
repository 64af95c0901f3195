import Mathlib.Data.List.Induction
import Mathlib.Data.Set.Function
import Stencil.Proofs.Operation

/-! # Caching

What an engine keeps in its cache along a row of operations, and that no outcome depends on it.
A template is kept under the digest of its source, so all of this is about sources whose digests
differ.
-/

namespace Stencil

namespace Engine

variable {e : Engine} {source digest : List Char} {op : Operation}

/-- A new engine has nothing in its cache. -/
theorem kept?_ofConfig (config : Config) (digest : List Char) :
    (ofConfig config).kept? digest = none := by
  rw [kept?, ofConfig]
  cases config.cache with
  | true => rfl
  | false => rfl

/-- If the template that is found for a source is its own, the cache has no part in what `prepare`
gives. -/
theorem prepare_result_of_cached?
    (h : ∀ template, e.cached? source = some template →
      e.freshly source = .ok template.compiled) :
    (e.prepare source).result.map Template.compiled = e.freshly source := by
  rcases e.prepare_cases source with
    ⟨template, hcached, hresult, _⟩ | ⟨d, _, hfresh, hresult, _⟩ |
    ⟨compiled, _, hfresh, hresult, _⟩
  · rw [hresult, h template hcached, Except.map]
  · rw [hresult, hfresh, Except.map]
  · rw [hresult, hfresh, Except.map]

/-- What the cache holds behind an operation it held before or the operation has just compiled. If
it holds anything, then sources compile to what they did before. -/
theorem of_kept?_perform {template : Template}
    (h : (e.perform op).2.kept? digest = some template) :
    (∀ source, (e.perform op).2.freshly source = e.freshly source) ∧
      (e.kept? digest = some template ∨
        ∃ source, op.source? = some source ∧ Digest.ofText source = digest ∧
          e.freshly source = .ok template.compiled) := by
  rcases e.perform_cases op with ⟨_, _, hengine⟩ | ⟨_, _, hengine⟩ | ⟨source, hsource, _, hengine⟩
  · exact nomatch (kept?_of_emptied hengine digest).symm.trans h
  · rw [hengine] at h ⊢
    exact ⟨fun _ => rfl, .inl h⟩
  · rw [hengine] at h ⊢
    refine ⟨(Alike.prepare e source).freshly, ?_⟩
    rcases e.prepare_cases source with
      ⟨_, _, _, hp⟩ | ⟨_, _, _, _, hp⟩ | ⟨compiled, _, hfresh, _, hp⟩
    · rw [hp] at h
      exact .inl h
    · rw [hp] at h
      exact .inl h
    · rw [hp, kept?_cacheTemplate] at h
      -- the new template is under the digest of its source, all others are under their old ones
      by_cases hdigest : digest = Digest.ofText source
      · rw [if_pos hdigest] at h
        obtain ⟨_, _, rfl⟩ := Option.map_eq_some_iff.mp h
        exact .inr ⟨source, hsource, hdigest.symm, hfresh⟩
      · rw [if_neg hdigest] at h
        exact .inl h

/-- Each template in the cache is what one of the sources would now compile to. -/
def Coherent (sources : Set (List Char)) (e : Engine) : Prop :=
  ∀ digest template, e.kept? digest = some template →
    ∃ source ∈ sources, Digest.ofText source = digest ∧ e.freshly source = .ok template.compiled

namespace Coherent

variable {sources : Set (List Char)}

theorem of_kept?_eq_none (h : ∀ digest, e.kept? digest = none) : Coherent sources e := by
  intro digest template htemplate
  rw [h] at htemplate
  exact nomatch htemplate

/-- If no two of the sources have the same digest, then the template that is found for a source is
its own. -/
theorem freshly_eq (h : Coherent sources e) (hinj : sources.InjOn Digest.ofText)
    (hs : source ∈ sources) {template : Template} (hcached : e.cached? source = some template) :
    e.freshly source = .ok template.compiled := by
  obtain ⟨other, hother, hdigest, hfresh⟩ := h _ _ hcached
  rwa [hinj hother hs hdigest] at hfresh

/-- What `prepare` gives does not depend on the cache. -/
theorem prepare_result (h : Coherent sources e) (hinj : sources.InjOn Digest.ofText)
    (hs : source ∈ sources) :
    (e.prepare source).result.map Template.compiled = e.freshly source :=
  prepare_result_of_cached? fun _ hcached => h.freshly_eq hinj hs hcached

/-- An operation keeps the cache right. Registering a filter changes what sources compile to, but
it leaves no template in the cache. -/
theorem perform (h : Coherent sources e)
    (hop : ∀ source, op.source? = some source → source ∈ sources) :
    Coherent sources (e.perform op).2 := by
  intro digest template hkept
  obtain ⟨hfreshly, hold | ⟨source, hsource, hdigest, hfresh⟩⟩ := of_kept?_perform hkept
  · obtain ⟨other, hother, hdigest, hfresh⟩ := h digest template hold
    exact ⟨other, hother, hdigest, (hfreshly other).trans hfresh⟩
  · exact ⟨source, hop source hsource, hdigest, (hfreshly source).trans hfresh⟩

end Coherent

section Outcomes

variable {sources : Set (List Char)} {e₁ e₂ : Engine} {ops : List Operation}

/-- Two engines that differ only in what they have cached give the same outcome. -/
theorem perform_outcome (hinj : sources.InjOn Digest.ofText) (h₁ : Coherent sources e₁)
    (h₂ : Coherent sources e₂) (halike : Alike e₁ e₂)
    (hop : ∀ source, op.source? = some source → source ∈ sources) :
    (e₁.perform op).1 = (e₂.perform op).1 := by
  have hprepare : ∀ source ∈ sources, (e₁.prepare source).result.map Template.compiled =
      (e₂.prepare source).result.map Template.compiled := by
    intro source hs
    rw [h₁.prepare_result hinj hs, h₂.prepare_result hinj hs, halike.freshly]
  cases op with
  | register name filter => rfl
  | clearCache => rfl
  | scan source =>
      simp only [perform, scan]
      rw [halike.signs, halike.dialect]
  | prepare source => exact congrArg Outcome.template (hprepare source (hop source rfl))
  | render source data =>
      simp only [perform, render_result]
      rw [hprepare source (hop source rfl)]
  | compile source data =>
      simp only [perform, compile_result, render_result]
      rw [hprepare source (hop source rfl)]

/-- Two engines that differ only in what they have cached give the same outcomes in any row of
operations. -/
theorem outcomes_eq (hinj : sources.InjOn Digest.ofText) (h₁ : Coherent sources e₁)
    (h₂ : Coherent sources e₂) (halike : Alike e₁ e₂)
    (hops : ∀ op ∈ ops, ∀ source, op.source? = some source → source ∈ sources) :
    e₁.outcomes ops = e₂.outcomes ops := by
  induction ops generalizing e₁ e₂ with
  | nil => rfl
  | cons op rest ih =>
      obtain ⟨hop, hrest⟩ := List.forall_mem_cons.mp hops
      rw [outcomes, outcomes, perform_outcome hinj h₁ h₂ halike hop,
        ih (h₁.perform hop) (h₂.perform hop) (halike.perform op) hrest]

theorem Coherent.after (h : Coherent sources e)
    (hops : ∀ op ∈ ops, ∀ source, op.source? = some source → source ∈ sources) :
    Coherent sources (e.after ops) := by
  induction ops generalizing e with
  | nil => exact h
  | cons op rest ih =>
      obtain ⟨hop, hrest⟩ := List.forall_mem_cons.mp hops
      exact ih (h.perform hop) hrest

/-- An engine prepares what a source compiles to, unless its cache has had a source with the same
digest. -/
theorem prepare_after_result {config : Config}
    (hdigest : config.cache = true → ∀ op ∈ ops, ∀ other, op.source? = some other →
      Digest.ofText other = Digest.ofText source → other = source) :
    (((ofConfig config).after ops).prepare source).result.map Template.compiled =
      ((ofConfig config).after ops).freshly source := by
  have hcoherent : Coherent {other | ∃ op ∈ ops, op.source? = some other} (ofConfig config) :=
    .of_kept?_eq_none (kept?_ofConfig config)
  have hafter := hcoherent.after fun op hop other hother => ⟨op, hop, hother⟩
  apply prepare_result_of_cached?
  intro template hcached
  have hcache : config.cache = true := by
    have hon : ((ofConfig config).after ops).cache.isSome :=
      Option.isSome_of_isSome_bind (Option.isSome_of_eq_some hcached)
    rw [cache_isSome_after] at hon
    cases hcache : config.cache with
    | true => rfl
    | false => simp [ofConfig, hcache] at hon
  obtain ⟨other, ⟨op, hop, hother⟩, heq, hfresh⟩ := hafter _ _ hcached
  rwa [hdigest hcache op hop other hother heq] at hfresh

end Outcomes

/-- Preparing a source that compiles puts its digest into the cache, and nothing else does. -/
theorem isSome_kept?_prepare (hon : e.cache.isSome) :
    ((e.prepare source).engine.kept? digest).isSome ↔
      (digest = Digest.ofText source ∧ ∃ compiled, e.freshly source = .ok compiled) ∨
      (e.kept? digest).isSome := by
  rcases e.prepare_cases source with
    ⟨template, hcached, _, hengine⟩ | ⟨d, _, hfresh, _, hengine⟩ |
    ⟨compiled, _, hfresh, _, hengine⟩
  · have hfound : digest = Digest.ofText source → (e.kept? digest).isSome := by
      rintro rfl
      exact Option.isSome_of_eq_some hcached
    rw [hengine]
    exact ⟨.inr, fun h => h.elim (fun h => hfound h.1) id⟩
  · rw [hengine, hfresh]
    simp
  · rw [hengine, hfresh, kept?_cacheTemplate]
    by_cases hdigest : digest = Digest.ofText source
    · rw [if_pos hdigest, Option.isSome_map]
      exact iff_of_true hon (.inl ⟨hdigest, compiled, rfl⟩)
    · rw [if_neg hdigest]
      exact ⟨.inr, fun h => h.elim (fun h => absurd h.1 hdigest) id⟩

section Digests

variable {sources : Set (List Char)} (hinj : sources.InjOn Digest.ofText)

include hinj

/-- Behind an operation the cache has a source exactly if the operation has just compiled it, or
it was there and the cache was not emptied. -/
theorem isSome_cached?_perform (hon : e.cache.isSome) (hs : source ∈ sources)
    (hop : ∀ source, op.source? = some source → source ∈ sources) :
    ((e.perform op).2.cached? source).isSome ↔
      (op.source? = some source ∧ ∃ compiled, e.freshly source = .ok compiled) ∨
      (op.empties = false ∧ (e.cached? source).isSome) := by
  rcases e.perform_cases op with
    ⟨hnone, hempties, hengine⟩ | ⟨hnone, hempties, hengine⟩ | ⟨other, hother, hempties, hengine⟩
  · have hkept := kept?_of_emptied hengine (Digest.ofText source)
    rw [cached?, ← kept?, hkept, hnone, hempties]
    simp
  · rw [hengine, hnone, hempties]
    simp
  · have hdigest : Digest.ofText source = Digest.ofText other ↔ source = other :=
      hinj.eq_iff hs (hop other hother)
    have hsource : (source = other ∧ ∃ compiled, e.freshly other = .ok compiled) ↔
        (op.source? = some source ∧ ∃ compiled, e.freshly source = .ok compiled) := by
      rw [hother, Option.some_inj, eq_comm]
      exact and_congr_right fun heq => by rw [heq]
    rw [hengine, cached?, ← kept?, isSome_kept?_prepare hon, hdigest, hsource]
    simp only [hempties, true_and]
    rfl

/-- Behind a row of operations the cache has a source exactly if it was compiled since the cache
was last emptied. -/
theorem isSome_cached?_iff (hempty : e.cache = some .empty) (hs : source ∈ sources)
    {ops : List Operation}
    (hops : ∀ op ∈ ops, ∀ source, op.source? = some source → source ∈ sources) :
    ((e.after ops).cached? source).isSome ↔ e.CompiledSince ops source := by
  -- from the end, since only the last operations decide what the cache has
  induction ops using List.reverseRecOn with
  | nil =>
      rw [cached?, after, List.foldl_nil, hempty]
      constructor
      · intro h
        exact nomatch h
      · rintro ⟨before, op, behind, _, heq, _⟩
        exact absurd heq.symm
          (List.append_ne_nil_of_right_ne_nil before (List.cons_ne_nil op behind))
  | append_singleton ops op ih =>
      obtain ⟨hops, hop⟩ := List.forall_mem_append.mp hops
      have hon : (e.after ops).cache.isSome := by
        rw [cache_isSome_after, hempty]
        rfl
      rw [after_concat, isSome_cached?_perform hinj hon hs (hop op List.mem_cons_self),
        compiledSince_concat, ih hops]

end Digests

/-- Preparing any source leaves the templates in the cache. -/
theorem kept?_prepare {template : Template} (h : e.kept? digest = some template)
    (source : List Char) : (e.prepare source).engine.kept? digest = some template := by
  rcases e.prepare_cases source with ⟨_, _, _, hp⟩ | ⟨_, _, _, _, hp⟩ | ⟨_, hnone, _, _, hp⟩
  · rwa [hp]
  · rwa [hp]
  · -- what is compiled was not in the cache, so it takes no template's place
    have hdigest : digest ≠ Digest.ofText source := by
      rintro rfl
      exact Option.some_ne_none template (h.symm.trans hnone)
    rw [hp, kept?_cacheTemplate, if_neg hdigest]
    exact h

/-- An operation that does not empty the cache leaves the templates in it. -/
theorem kept?_perform {template : Template} (h : e.kept? digest = some template)
    (hop : op.empties = false) : (e.perform op).2.kept? digest = some template := by
  rcases e.perform_cases op with ⟨_, hempties, _⟩ | ⟨_, _, hengine⟩ | ⟨source, _, _, hengine⟩
  · exact nomatch hop.symm.trans hempties
  · rwa [hengine]
  · rw [hengine]
    exact kept?_prepare h source

/-- A template stays in the cache until the cache is emptied. -/
theorem kept?_after {template : Template} (h : e.kept? digest = some template)
    {ops : List Operation} (hops : ∀ op ∈ ops, op.empties = false) :
    (e.after ops).kept? digest = some template := by
  induction ops generalizing e with
  | nil => exact h
  | cons op rest ih =>
      obtain ⟨hop, hrest⟩ := List.forall_mem_cons.mp hops
      exact ih (kept?_perform h hop) hrest

/-- A source that has been prepared is in the cache. -/
theorem cached?_prepare {template : Template} (hon : e.cache.isSome)
    (h : (e.prepare source).result = .ok template) :
    (e.prepare source).engine.cached? source = some template := by
  rcases e.prepare_cases source with
    ⟨_, hcached, hresult, hengine⟩ | ⟨_, _, _, hresult, _⟩ | ⟨_, _, _, hresult, hengine⟩
  · cases hresult.symm.trans h
    rwa [hengine]
  · exact nomatch hresult.symm.trans h
  · cases hresult.symm.trans h
    obtain ⟨cache, hcache⟩ := Option.isSome_iff_exists.mp hon
    rw [hengine, cached?, ← kept?, kept?_cacheTemplate, if_pos rfl, hcache]
    rfl

/-- What the cache of an engine holds behind a row of operations whose sources are among the
given ones. -/
structure CacheAccount (sources : Set (List Char)) (e : Engine) (ops : List Operation) :
    Prop where
  /-- It has the sources that were compiled since it was last emptied, and no others. -/
  has_iff : ∀ source ∈ sources,
    ((e.after ops).cached? source).isSome ↔ e.CompiledSince ops source
  /-- Each template is what its source would compile to now. -/
  fresh : Coherent sources (e.after ops)
  /-- A source that does not compile changes nothing. -/
  failed : ∀ op source d, op.source? = some source → (e.after ops).freshly source = .error d →
    ((e.after ops).perform op).2 = e.after ops
  /-- A source that is prepared again gives the same template until the cache is emptied. -/
  same : ∀ source template later, ((e.after ops).prepare source).result = .ok template →
    (∀ op ∈ later, op.empties = false) →
    ((((e.after ops).prepare source).engine.after later).prepare source).result = .ok template

theorem cacheAccount {sources : Set (List Char)} (hinj : sources.InjOn Digest.ofText)
    (hempty : e.cache = some .empty) {ops : List Operation}
    (hops : ∀ op ∈ ops, ∀ source, op.source? = some source → source ∈ sources) :
    CacheAccount sources e ops := by
  have hcoherent : Coherent sources e := by
    refine .of_kept?_eq_none ?_
    intro digest
    rw [kept?, hempty]
    rfl
  have hfresh := hcoherent.after hops
  have hon : (e.after ops).cache.isSome := by
    rw [cache_isSome_after, hempty]
    rfl
  refine ⟨fun source hs => isSome_cached?_iff hinj hempty hs hops, hfresh, ?_, ?_⟩
  · intro op source d hsource herror
    rcases (e.after ops).perform_cases op with
      ⟨hnone, _, _⟩ | ⟨_, _, hengine⟩ | ⟨other, hother, _, hengine⟩
    · rw [hnone] at hsource
      cases hsource
    · exact hengine
    · cases hother.symm.trans hsource
      rw [hengine]
      rcases (e.after ops).prepare_cases source with
        ⟨_, _, _, hp⟩ | ⟨_, _, _, _, hp⟩ | ⟨_, _, hok, _, _⟩
      · exact hp
      · exact hp
      · rw [herror] at hok
        cases hok
  · intro source template later hresult hlater
    have hcached := kept?_after (cached?_prepare hon hresult) hlater
    rw [prepare, cached?, ← kept?, hcached]

/-- The cache is only an optimization. If no two sources of a row of operations have the same
digest, an engine with a cache gives the same outcomes as one without, and at each moment its
cache holds what it should. -/
theorem cache_transparent {sources : Set (List Char)} (hinj : sources.InjOn Digest.ofText)
    (config : Config) (ops : List Operation)
    (hops : ∀ op ∈ ops, ∀ source, op.source? = some source → source ∈ sources) :
    let cached := ofConfig { config with cache := true }
    let plain := ofConfig { config with cache := false }
    cached.outcomes ops = plain.outcomes ops ∧
      ∀ before, before <+: ops → CacheAccount sources cached before := by
  constructor
  · exact outcomes_eq hinj (.of_kept?_eq_none fun _ => rfl) (.of_kept?_eq_none fun _ => rfl)
      ⟨rfl, rfl⟩ hops
  · intro before hbefore
    exact cacheAccount hinj rfl fun op hop => hops op (hbefore.subset hop)

/-- A filter is registered between two uses of a template that asks for it. -/
theorem cache_transparent_registering :
    let asking := "\x7b\x7b x | twice \x7d\x7d".toList
    let other := "a".toList
    let ops : List Operation :=
      [.render asking .null, .prepare other, .register "twice" fun cs => cs ++ cs,
        .render asking .null, .compile other .null, .clearCache, .prepare asking]
    let cached := ofConfig { Config.standard with cache := true }
    let plain := ofConfig { Config.standard with cache := false }
    Set.InjOn Digest.ofText {asking, other} ∧
      (∀ op ∈ ops, ∀ source, op.source? = some source → source ∈ ({asking, other} : Set _)) ∧
      cached.outcomes ops = plain.outcomes ops ∧
      ∀ before, before <+: ops → CacheAccount {asking, other} cached before := by
  intro asking other ops cached plain
  have hne : Digest.ofText asking ≠ Digest.ofText other := by decide +kernel
  have hinj : Set.InjOn Digest.ofText {asking, other} := by
    refine Set.injOn_pair.mpr ?_
    intro heq
    exact absurd heq hne
  have hops : ∀ op ∈ ops, ∀ source, op.source? = some source →
      source ∈ ({asking, other} : Set (List Char)) := by
    simp [ops, Operation.source?]
  exact ⟨hinj, hops, cache_transparent hinj .standard ops hops⟩

end Engine

end Stencil
