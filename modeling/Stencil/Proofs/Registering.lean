import Stencil.Proofs.OutputDirective
import Stencil.Proofs.SessionRun

/-! # Registering a filter

Compiling looks up no filters but those that a template asks for. So registering a filter changes
nothing for a template that does not ask for it, unless the cache has had something else in the
place of that template. A template that is held keeps the filters that it was compiled with.
-/

namespace Stencil

namespace Registry

theorem lookup_insertEntry_of_ne {name other : String} (h : other ≠ name) (filter : Filter)
    (entries : List (String × Filter)) :
    (insertEntry name filter entries).lookup other = entries.lookup other := by
  have hskip : ∀ rest : List (String × Filter),
      ((name, filter) :: rest).lookup other = rest.lookup other := by
    intro rest
    rw [List.lookup_cons, beq_eq_false_iff_ne.mpr h]
  induction entries with
  | nil => exact hskip []
  | cons entry rest ih =>
      obtain ⟨first, f⟩ := entry
      unfold insertEntry
      split
      next => exact hskip _
      next =>
        split
        next heq =>
          rw [hskip, List.lookup_cons, ← heq, beq_eq_false_iff_ne.mpr h]
        next => rw [List.lookup_cons, List.lookup_cons, ih]

/-- A registration is about one name only. -/
theorem get?_insert_of_ne {name other : String} (h : other ≠ name) (filter : Filter)
    (registry : Registry) : (registry.insert name filter).get? other = registry.get? other :=
  lookup_insertEntry_of_ne h filter registry.entries

end Registry

/-- A filter with a given name stands behind the expression of an output directive. -/
def Directive.AsksFor (d : Directive) (name : String) : Prop :=
  d.kind = .output ∧
    ∃ pipeline, Pipeline.parse d.body = .ok pipeline ∧ name ∈ pipeline.filters.map Prod.fst

/-- An output directive of a template asks for a filter. -/
def Signs.AsksFor (signs : Signs) (source : List Char) (name : String) : Prop :=
  ∃ d, Piece.directive d ∈ signs.pieces (signs.preprocess source) ∧ d.AsksFor name

/-- A template that is one output directive asks for the filters behind its expression. -/
theorem Pipeline.asksFor_template_iff {source : List Char} {expr : Expr} {names : List String}
    (hexpr : Expr.parse source = .ok expr) (hsource : Embeddable source)
    (hnames : ∀ name ∈ names, Lexer.tokens name.toList = .ok [⟨.name name, 0⟩]) (name : String) :
    Signs.standard.AsksFor (template source names) name ↔ name ∈ names := by
  obtain ⟨filters, hparse, hfilters⟩ := parse_piped hexpr hnames
  unfold Signs.AsksFor
  rw [preprocess_template hnames hsource, pieces_template hnames hsource]
  constructor
  · rintro ⟨d, hd, -, pipeline, hpipeline, hname⟩
    cases List.mem_singleton.mp hd
    cases hparse.symm.trans hpipeline
    rwa [← hfilters]
  · intro hname
    rw [← hfilters] at hname
    exact ⟨_, List.mem_singleton_self _, rfl, _, hparse, hname⟩

section Registries

variable {registry₁ registry₂ : Registry}

theorem Directive.resolve_congr {filters : List (String × Nat)}
    (h : ∀ name ∈ filters.map Prod.fst, registry₁.get? name = registry₂.get? name)
    (text : List Char) (start : Nat) :
    resolve registry₁ text start filters = resolve registry₂ text start filters := by
  induction filters with
  | nil => rfl
  | cons filter rest ih =>
      obtain ⟨hname, hrest⟩ := List.forall_mem_cons.mp h
      simp only [resolve, hname, ih hrest]

theorem Directive.read_congr {d : Directive}
    (h : ∀ name, d.AsksFor name → registry₁.get? name = registry₂.get? name)
    (syntaxMode : Bool) (text : List Char) :
    d.read ⟨registry₁, syntaxMode⟩ text = d.read ⟨registry₂, syntaxMode⟩ text := by
  unfold read
  cases hkind : d.kind with
  | output =>
      simp only [output]
      split
      next => rfl
      next pipeline hpipeline =>
        rw [resolve_congr fun name hname => h name ⟨hkind, pipeline, hpipeline, hname⟩]
  | silent | comment | statement | blockEnd => rfl

theorem Piece.readAll_congr {pieces : List Piece}
    (h : ∀ d, .directive d ∈ pieces → ∀ name, d.AsksFor name →
      registry₁.get? name = registry₂.get? name) (syntaxMode : Bool) (text : List Char) :
    readAll ⟨registry₁, syntaxMode⟩ text pieces = readAll ⟨registry₂, syntaxMode⟩ text pieces := by
  induction pieces with
  | nil => rfl
  | cons piece rest ih =>
      have hpiece : piece.read ⟨registry₁, syntaxMode⟩ text =
          piece.read ⟨registry₂, syntaxMode⟩ text := by
        cases piece with
        | text content => rfl
        | directive d => exact Directive.read_congr (h d List.mem_cons_self) syntaxMode text
      have hrest := ih fun d hd => h d (List.mem_cons_of_mem piece hd)
      rw [readAll, readAll, hpiece, hrest]

/-- Scanning depends on the filters only through those that the template asks for. -/
theorem Signs.scan_congr {signs : Signs} {source : List Char}
    (h : ∀ name, signs.AsksFor source name → registry₁.get? name = registry₂.get? name)
    (syntaxMode : Bool) :
    signs.scan ⟨registry₁, syntaxMode⟩ (signs.preprocess source) =
      signs.scan ⟨registry₂, syntaxMode⟩ (signs.preprocess source) :=
  Piece.readAll_congr (fun d hd name hname => h name ⟨d, hd, hname⟩) syntaxMode _

end Registries

namespace Engine

variable {e : Engine} {source : List Char} {name : String}

theorem scan_register (h : ¬ e.signs.AsksFor source name) (filter : Filter) :
    ((e.register name filter).scan source).result = (e.scan source).result := by
  apply Signs.scan_congr
  intro other hother
  apply Registry.get?_insert_of_ne
  rintro rfl
  exact h hother

theorem freshly_register (h : ¬ e.signs.AsksFor source name) (filter : Filter) :
    (e.register name filter).freshly source = e.freshly source := by
  have hscan := scan_register h filter
  simp only [scan] at hscan
  unfold freshly Compiled.ofSource
  exact congrArg (· >>= _) hscan

/-- The template that is prepared behind a registration has been compiled afresh. -/
theorem prepare_register (h : ¬ e.signs.AsksFor source name) (filter : Filter) :
    ((e.register name filter).prepare source).result.map Template.compiled =
      e.freshly source := by
  have hfaithful : (e.register name filter).Faithful source := .of_emptied (e := e) rfl
  exact (prepare_result_of_cached? hfaithful).trans (freshly_register h filter)

end Engine

namespace Session

/-- Registering a filter affects only the templates that ask for it. For any other source the scan
gives the same, and so does the preparation exactly if the cache has not had another template in
its place; if so, the source is rendered alike. The cache has its own template for each source that
was left undisturbed, and templates that are held stay as they are. -/
theorem register_frame (config : Config) (calls : List Call) (name : String) (filter : Filter)
    (source : List Char) :
    let before := (ofConfig config).after calls
    let behind := before.after [.register name filter]
    (¬ config.signs.AsksFor source name →
      (behind.engine.scan source).result = (before.engine.scan source).result ∧
      ((behind.engine.prepare source).result.map Template.compiled =
        (before.engine.prepare source).result.map Template.compiled ↔
          before.engine.Faithful source) ∧
      (before.engine.Faithful source → ∀ data,
        (behind.engine.render source data).result =
          (before.engine.render source data).result)) ∧
    ((config.cache = true → Undisturbed source calls) → before.engine.Faithful source) ∧
    ∀ later data held, held < before.held.length →
      ((behind.after later).call (.renderHeld held data)).1 =
        (before.call (.renderHeld held data)).1 := by
  intro before behind
  refine ⟨?_, faithful_after, ?_⟩
  · intro hasks
    have hsigns : before.engine.signs = config.signs := signs_after (ofConfig config) calls
    rw [← hsigns] at hasks
    have hbehind : (behind.engine.prepare source).result.map Template.compiled =
        before.engine.freshly source := Engine.prepare_register hasks filter
    refine ⟨Engine.scan_register hasks filter, ?_, ?_⟩
    · rw [hbehind, eq_comm]
      exact Engine.prepare_eq_freshly_iff
    · intro hfaithful data
      rw [Engine.render_result, Engine.render_result, hbehind,
        Engine.prepare_eq_freshly_iff.mpr hfaithful]
  · intro later data held hheld
    have hafter : behind.after later = before.after (.register name filter :: later) := rfl
    rw [hafter]
    exact answer_renderHeld_after hheld _ data

/-- A built-in filter is replaced, while the cache has a template that asks for another one. -/
theorem register_frame_upper :
    let config := { Config.standard with cache := true }
    let source := "\x7b\x7b x | upper \x7d\x7d".toList
    let calls : List Call := [.prepare source, .cacheInsert "b".toList 0]
    let before := (ofConfig config).after calls
    let behind := before.after [.register "lower" id]
    ¬ Signs.standard.AsksFor source "lower" ∧
      before.engine.Faithful source ∧
      (behind.engine.scan source).result = (before.engine.scan source).result ∧
      ((behind.engine.prepare source).result.map Template.compiled =
        (before.engine.prepare source).result.map Template.compiled) ∧
      (∀ data, (behind.engine.render source data).result =
        (before.engine.render source data).result) ∧
      0 < before.held.length ∧
      ∀ data, ((behind.after [.cacheClear]).call (.renderHeld 0 data)).1 =
        (before.call (.renderHeld 0 data)).1 := by
  intro config source calls before behind
  have hexpr : Expr.parse ['x'] = .ok (.name "x") :=
    Expr.parse_name (Lexer.tokens_of_lexeme (by decide) (by rfl))
  have hembeddable : Pipeline.Embeddable ['x'] :=
    ⟨by decide +kernel, by decide +kernel, by decide, by decide⟩
  have hnames : ∀ name ∈ ["upper"], Lexer.tokens name.toList = .ok [⟨.name name, 0⟩] :=
    List.forall_mem_singleton.mpr (Lexer.tokens_of_lexeme (by decide) (by rfl))
  have hsource : Pipeline.template ['x'] ["upper"] = source := by decide +kernel
  have hasks : ¬ Signs.standard.AsksFor source "lower" := by
    rw [← hsource, Pipeline.asksFor_template_iff hexpr hembeddable hnames]
    decide
  have hundisturbed : Undisturbed source calls := by
    apply Undisturbed.of_forall_not
    intro call hcall hdisplaces
    rcases List.mem_pair.mp hcall with rfl | rfl
    · rcases hdisplaces with _ | ⟨hop, hother, -, hne⟩
      cases hop
      cases hother
      exact hne rfl
    · rcases hdisplaces with h | ⟨hop, -, -, -⟩
      · exact absurd h (by decide +kernel)
      · cases hop
  have hheld : 0 < before.held.length := by
    let filters : List FilterCall := [⟨"upper", Text.upper⟩]
    have hfilters : ∀ filter ∈ filters,
        (Engine.ofConfig config).dialect.registry.get? filter.name = some filter.apply :=
      List.forall_mem_singleton.mpr (by rfl)
    have hfresh := Compiled.ofSource_template hexpr hembeddable (by simpa [filters] using hnames)
      hfilters
    have hmap : filters.map FilterCall.name = ["upper"] := rfl
    rw [hmap, hsource] at hfresh
    let first := (ofConfig config).after [.prepare source]
    have hfirst : first.held = [⟨0, _⟩] := held_prepare_ofConfig hfresh
    have hlength : first.held.length ≤ before.held.length :=
      (held_after first [.cacheInsert "b".toList 0]).length_le
    rw [hfirst] at hlength
    exact hlength
  obtain ⟨hframe, hfaithful, hlater⟩ := register_frame config calls "lower" id source
  have hfaithful := hfaithful fun _ => hundisturbed
  obtain ⟨hscan, hprepare, hrender⟩ := hframe hasks
  exact ⟨hasks, hfaithful, hscan, hprepare.mpr hfaithful, hrender hfaithful, hheld,
    fun data => hlater [.cacheClear] data 0 hheld⟩

/-- A template that was put into the cache in the place of another is gone with the registration
of a filter, although none asks for it. -/
theorem render_register_foreign :
    let config := { Config.standard with cache := true }
    let calls : List Call := [.prepare ['a'], .cacheInsert ['b'] 0]
    let before := (ofConfig config).after calls
    let behind := before.after [.register "twice" fun cs => cs ++ cs]
    ¬ Signs.standard.AsksFor ['b'] "twice" ∧
      (before.engine.render ['b'] .null).result = .ok ['a'] ∧
      (behind.engine.render ['b'] .null).result = .ok ['b'] := by
  intro config calls before behind
  have hpreprocess : ∀ c ∈ ['a', 'b'], Signs.standard.preprocess [c] = [c] := by
    intro c hc
    rcases List.mem_pair.mp hc with rfl | rfl
    · exact Signs.preprocess_eq_self (by decide) (by decide) (by decide +kernel)
    · exact Signs.preprocess_eq_self (by decide) (by decide) (by decide +kernel)
  have hpieces : ∀ c ∈ ['a', 'b'], Signs.standard.pieces [c] = [.text [c]] := by
    intro c hc
    rcases List.mem_pair.mp hc with rfl | rfl
    · rfl
    · rfl
  have hcompiled : ∀ c ∈ ['a', 'b'], ∀ dialect,
      Compiled.ofSource .standard dialect [c] = .ok ⟨[.text [c]], [.text [c]]⟩ :=
    fun c hc => Compiled.ofSource_text (hpreprocess c hc) (hpieces c hc)
  have hfirst : (Engine.ofConfig config).freshly ['a'] = .ok ⟨[.text ['a']], [.text ['a']]⟩ :=
    hcompiled 'a' (by decide) _
  have hbefore := cached?_cacheInsert_first rfl hfirst ['b']
  have hbehind : behind.engine.cached? ['b'] = none := by
    have hemptied : behind.engine.cache = before.engine.cache.map fun _ => .empty := rfl
    exact Engine.kept?_of_emptied hemptied _
  refine ⟨?_, ?_, ?_⟩
  · rintro ⟨d, hd, -⟩
    rw [hpreprocess 'b' (by decide), hpieces 'b' (by decide)] at hd
    simp at hd
  · simp only [before, calls, Engine.render, Engine.prepare, hbefore]
    rfl
  · have hsigns : behind.engine.signs = .standard :=
      (signs_after before _).trans (signs_after (ofConfig config) calls)
    simp only [Engine.render, Engine.prepare, hbehind, Engine.compileFresh, hsigns,
      hcompiled 'b' (by decide)]
    rfl

end Session

end Stencil
