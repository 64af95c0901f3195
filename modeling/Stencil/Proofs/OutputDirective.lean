import Stencil.Proofs.Column
import Stencil.Proofs.Pipelines
import Stencil.Proofs.SessionRun

/-! # The meaning of an output directive

A template that is one output directive writes the value of its expression after that went through
the filters whose names stand behind the expression, the first of them first. This is so in any
state of an engine, unless its cache has had something else in the place of the template.
-/

namespace Stencil

/-! ## A template that is one directive -/

namespace Signs

theorem preprocess_eq_self {signs : Signs} {cs : List Char} (hnewline : '\n' ∉ cs)
    (hreturn : '\r' ∉ cs) (hsilent : ¬ signs.silent.opening <:+: cs) :
    signs.preprocess cs = cs := by
  have hstrip : stripLineBreaks cs = cs := by
    apply List.filter_eq_self.mpr
    intro c hc
    have hcnewline : c ≠ '\n' := ne_of_mem_of_not_mem hc hnewline
    have hcreturn : c ≠ '\r' := ne_of_mem_of_not_mem hc hreturn
    simp [hcnewline, hcreturn]
  rw [preprocess, hstrip]
  exact Markers.erase_of_find?_none (Markers.find?_eq_none_of_not_infix hsilent)

/-- A body between the standard markers of a kind is one directive of that kind. -/
theorem pieces_of_encloses {kind : Kind} {body : List Char}
    (h : (standard.get kind).Encloses body) :
    standard.pieces ((standard.get kind).opening ++ (body ++ (standard.get kind).closing)) =
      [.directive (standard.directive kind 0 ⟨[], body, []⟩)] := by
  have hfind := h.find? []
  rw [List.append_nil] at hfind
  have hnext : standard.Next _ kind ⟨[], body, []⟩ := ⟨hfind, fun _ _ _ => Nat.zero_le _⟩
  apply (standard.pieces_divides _).unique
  exact .directive kind _ hnext (.rest fun _ => Markers.find?_nil)

end Signs

/-! ## An expression and the names of filters between the markers -/

namespace Pipeline

variable {source : List Char} {names : List String}

/-- The body of an output directive with an expression and the names of filters. -/
def spaced (source : List Char) (names : List String) : List Char :=
  ' ' :: (source ++ piped names ++ [' '])

/-- The template with an expression and the names of filters between the standard markers. -/
def template (source : List Char) (names : List String) : List Char :=
  "\x7b\x7b ".toList ++ (source ++ piped names ++ " \x7d\x7d".toList)

theorem template_eq (source : List Char) (names : List String) :
    template source names = Signs.standard.output.opening ++
      (spaced source names ++ Signs.standard.output.closing) := by
  rw [spaced, List.cons_append, List.append_assoc (source ++ piped names)]
  rfl

/-- A text that reaches the reading of an output directive as it is: it ends no directive, it
starts no silent comment, and it has no line breaks. -/
structure Embeddable (source : List Char) : Prop where
  closing : ¬ "\x7d\x7d".toList <:+: source
  silent : ¬ "\x7b#".toList <:+: source
  newline : '\n' ∉ source
  carriage : '\r' ∉ source

section Names

variable (hnames : ∀ name ∈ names, Lexer.tokens name.toList = .ok [⟨.name name, 0⟩])

include hnames

/-- Between the names of filters stand only blanks and pipe signs. -/
theorem not_mem_piped {c : Char} (hpart : Lexer.isNamePart c = false)
    (hsep : c ∉ " | ".toList) : c ∉ piped names := by
  intro hc
  obtain ⟨name, hname, hc⟩ := List.mem_flatMap.mp hc
  rcases List.mem_append.mp hc with hc | hc
  · exact hsep hc
  · have hmem := Lexer.isNamePart_of_mem_name (hnames name hname) (List.mem_singleton_self _) hc
    exact Bool.false_ne_true (hpart.symm.trans hmem)

theorem not_mem_template {c : Char} (hc : c ∉ source) (hpart : Lexer.isNamePart c = false)
    (hsep : c ∉ " | ".toList) (hmarkers : c ∉ "\x7b\x7b\x7d\x7d".toList) :
    c ∉ template source names := by
  have hsplit : c ∉ "\x7b\x7b ".toList ∧ c ∉ " \x7d\x7d".toList := by simp_all
  refine List.not_mem_append hsplit.1 (List.not_mem_append ?_ hsplit.2)
  exact List.not_mem_append hc (not_mem_piped hnames hpart hsep)

theorem encloses_spaced (hsource : Embeddable source) :
    Signs.standard.output.Encloses (spaced source names) := by
  refine ⟨' ', _, rfl, Text.first_concat (by decide) ?_⟩
  intro hinfix
  apply hsource.closing
  apply Text.isInfix_of_append hinfix (by decide)
  intro c hc
  obtain rfl : c = '\x7d' := by simpa [Signs.standard, Markers.ofChars] using hc
  exact not_mem_piped hnames (by decide) (by decide)

/-- What is erased before the scan does not occur in the template if it does not in the
expression. -/
theorem preprocess_template (hsource : Embeddable source) :
    Signs.standard.preprocess (template source names) = template source names := by
  apply Signs.preprocess_eq_self
  · exact not_mem_template hnames hsource.newline (by decide) (by decide) (by decide)
  · exact not_mem_template hnames hsource.carriage (by decide) (by decide) (by decide)
  · intro hinfix
    rw [template, List.append_assoc] at hinfix
    -- the blank before the expression and what stands behind it have no part in an occurrence
    have hinside : "\x7b#".toList <:+: source ++ (piped names ++ " \x7d\x7d".toList) :=
      (Text.isInfix_of_append_cons (x := "\x7b\x7b".toList) hinfix (by decide)).resolve_left
        (by decide)
    apply hsource.silent
    apply Text.isInfix_of_append hinside (by decide)
    intro c hc
    have hc : c = '\x7b' ∨ c = '#' := by simpa using hc
    apply List.not_mem_append
    · rcases hc with rfl | rfl
      · exact not_mem_piped hnames (by decide) (by decide)
      · exact not_mem_piped hnames (by decide) (by decide)
    · rcases hc with rfl | rfl
      · decide
      · decide

theorem pieces_template (hsource : Embeddable source) :
    Signs.standard.pieces (template source names) =
      [.directive (Signs.standard.directive .output 0 ⟨[], spaced source names, []⟩)] := by
  rw [template_eq]
  have hencloses : (Signs.standard.get .output).Encloses (spaced source names) :=
    encloses_spaced hnames hsource
  exact Signs.pieces_of_encloses hencloses

end Names

end Pipeline

variable {source : List Char} {expr : Expr} {calls : List FilterCall}

/-- The template compiles to the one output of its expression through its filters. -/
theorem Compiled.ofSource_template {dialect : Dialect} (hexpr : Expr.parse source = .ok expr)
    (hsource : Pipeline.Embeddable source)
    (hnames : ∀ call ∈ calls, Lexer.tokens call.name.toList = .ok [⟨.name call.name, 0⟩])
    (hcalls : ∀ call ∈ calls, dialect.registry.get? call.name = some call.apply) :
    ofSource .standard dialect (Pipeline.template source (calls.map FilterCall.name)) =
      .ok ⟨[.output ⟨expr, calls⟩], [.output ⟨expr, calls⟩]⟩ := by
  have hnames' : ∀ name ∈ calls.map FilterCall.name,
      Lexer.tokens name.toList = .ok [⟨.name name, 0⟩] := List.forall_mem_map.mpr hnames
  obtain ⟨filters, hpipeline, hfilters⟩ := Pipeline.parse_piped hexpr hnames'
  have hresolve : ∀ text start,
      Directive.resolve dialect.registry text start filters = .ok calls :=
    fun text start => Directive.resolve_eq_ok_iff.mpr ⟨hfilters.symm, hcalls⟩
  simp only [ofSource, Pipeline.preprocess_template hnames' hsource, Signs.scan,
    Pipeline.pieces_template hnames' hsource, Piece.readAll, Piece.read, Directive.read,
    Signs.directive, Directive.output, Pipeline.spaced, hpipeline, hresolve]
  rfl

/-- A text without line breaks in which no directive is found compiles to itself. -/
theorem Compiled.ofSource_text {signs : Signs} {source : List Char}
    (hpreprocess : signs.preprocess source = source)
    (hpieces : signs.pieces source = [.text source]) (dialect : Dialect) :
    ofSource signs dialect source = .ok ⟨[.text source], [.text source]⟩ := by
  simp only [ofSource, Signs.scan, hpreprocess, hpieces]
  rfl

namespace Session

/-- An output directive is rendered as the text of the value of its expression after this went
through the filters of its names, or fails as its expression does, if the cache has nothing else in
the place of the template. Behind a row of calls that left this place undisturbed it has not. -/
theorem render_template {engine : Engine} (hsigns : engine.signs = .standard)
    (hexpr : Expr.parse source = .ok expr) (hsource : Pipeline.Embeddable source)
    (hnames : ∀ call ∈ calls, Lexer.tokens call.name.toList = .ok [⟨.name call.name, 0⟩])
    (hcalls : ∀ call ∈ calls, engine.registry.get? call.name = some call.apply) :
    let template := Pipeline.template source (calls.map FilterCall.name)
    (engine.Faithful template → ∀ data,
      (engine.render template data).result =
        ((expr.eval data.fields).map fun v =>
          FilterCall.applyAll calls v.text.toList).mapError .ofFault) ∧
    ∀ config row, engine = ((ofConfig config).after row).engine →
      (config.cache = true → Undisturbed template row) → engine.Faithful template := by
  intro template
  refine ⟨?_, ?_⟩
  · intro hfaithful data
    have hfresh : engine.freshly template =
        .ok ⟨[.output ⟨expr, calls⟩], [.output ⟨expr, calls⟩]⟩ := by
      rw [Engine.freshly, hsigns]
      exact Compiled.ofSource_template hexpr hsource hnames hcalls
    rw [Engine.render_result, Engine.prepare_eq_freshly_iff.mpr hfaithful, hfresh]
    simp only [Except.bind, Compiled.render, renderNodes, Node.renderAll, Node.render,
      Output.render]
    cases expr.eval data.fields with
    | error fault => rfl
    | ok v => exact congrArg Except.ok (List.append_nil _)
  · rintro config row rfl hundisturbed
    exact faithful_after hundisturbed

/-- An expression with the signs of filters in an operator and in a string, and two filters, one of
which was registered after another template had been compiled. The cache has the template. -/
theorem render_template_signs :
    let config := { Config.standard with cache := true }
    let quote : Filter := fun cs => '>' :: cs
    let source := "a||\"x|y\"".toList
    let expr : Expr := .logical .or (.name "a") (.literal (.string "x|y"))
    let template := "\x7b\x7b a||\"x|y\" | quote | reverse \x7d\x7d".toList
    let row : List Call :=
      [.render "b".toList .null, .register "quote" quote, .render template .null]
    let engine := ((ofConfig config).after row).engine
    Expr.parse source = .ok expr ∧ Undisturbed template row ∧ engine.Faithful template ∧
      (engine.render template (.object [("a", .null)])).result = .ok "y|x>".toList ∧
      (engine.render template (.object [])).result = .error (.ofFault (.undefined "a")) := by
  intro config quote source expr template row engine
  have htokens : Lexer.tokens source =
      .ok [⟨.name "a", 0⟩, ⟨.sign .or, 1⟩, ⟨.string "x|y", 3⟩] := by
    have hstring : Lexer.tokensFrom 3 "\"x|y\"".toList = .ok [⟨.string "x|y", 3⟩] :=
      Lexer.tokensFrom_cons (n := 5) (by decide) (by rfl) (Lexer.tokensFrom_nil 8)
    have hor : Lexer.tokensFrom 1 "||\"x|y\"".toList =
        .ok [⟨.sign .or, 1⟩, ⟨.string "x|y", 3⟩] :=
      Lexer.tokensFrom_cons (n := 2) (by decide) (by rfl) hstring
    exact Lexer.tokensFrom_cons (n := 1) (by decide) (by rfl) hor
  have hexpr : Expr.parse source = .ok expr := by
    rw [Expr.parse, Grammar.start_eq_ok_iff.mpr ⟨_, htokens, rfl⟩]
    rfl
  have hsource : Pipeline.Embeddable source :=
    ⟨by decide +kernel, by decide +kernel, by decide, by decide⟩
  let calls : List FilterCall := [⟨"quote", quote⟩, ⟨"reverse", List.reverse⟩]
  have htemplate : Pipeline.template source (calls.map FilterCall.name) = template := by
    decide +kernel
  have hnames : ∀ call ∈ calls, Lexer.tokens call.name.toList = .ok [⟨.name call.name, 0⟩] := by
    have hquote : Lexer.tokens "quote".toList = .ok [⟨.name "quote", 0⟩] :=
      Lexer.tokens_of_lexeme (by decide) (by rfl)
    have hreverse : Lexer.tokens "reverse".toList = .ok [⟨.name "reverse", 0⟩] :=
      Lexer.tokens_of_lexeme (by decide) (by rfl)
    exact List.forall_mem_cons.mpr ⟨hquote, List.forall_mem_singleton.mpr hreverse⟩
  have hcalls : ∀ call ∈ calls, engine.registry.get? call.name = some call.apply := by
    have hregistry : engine.registry = Registry.builtin.insert "quote" quote := by
      let first := (Engine.ofConfig config).prepare "b".toList
      have hfirst : first.engine.registry = .builtin :=
        congrArg Dialect.registry (Engine.Alike.prepare _ _).dialect
      have hlast : engine.registry = (first.engine.register "quote" quote).registry :=
        congrArg Dialect.registry (Engine.Alike.prepare _ template).dialect
      rw [hlast, Engine.register, hfirst]
    rw [hregistry]
    refine List.forall_mem_cons.mpr ⟨?_, List.forall_mem_singleton.mpr ?_⟩
    · rfl
    · rfl
  have hundisturbed : Undisturbed template row := by
    apply Undisturbed.of_forall_not
    intro call hcall hdisplaces
    simp only [row, List.mem_cons, List.not_mem_nil, or_false] at hcall
    rcases hcall with rfl | rfl | rfl
    · rcases hdisplaces with _ | ⟨hop, hother, hdigest, -⟩
      cases hop
      cases hother
      exact absurd hdigest (by decide +kernel)
    · rcases hdisplaces with _ | ⟨hop, hother, -, -⟩
      cases hop
      cases hother
    · rcases hdisplaces with _ | ⟨hop, hother, -, hne⟩
      cases hop
      cases hother
      exact hne rfl
  have hsigns : engine.signs = .standard := signs_after (ofConfig config) row
  obtain ⟨hrender, hfaithful⟩ := render_template hsigns hexpr hsource hnames hcalls
  rw [htemplate] at hrender hfaithful
  have hfaithful := hfaithful config row rfl fun _ => hundisturbed
  refine ⟨hexpr, hundisturbed, hfaithful, (hrender hfaithful (.object [("a", .null)])).trans ?_,
    (hrender hfaithful (.object [])).trans ?_⟩
  · rfl
  · rfl

/-- A template that was put into the cache in the place of an output directive is rendered in its
stead, although the expression has a value. -/
theorem render_template_foreign :
    let config := { Config.standard with cache := true }
    let template := "\x7b\x7b x \x7d\x7d".toList
    let engine := ((ofConfig config).after [.prepare ['a'], .cacheInsert template 0]).engine
    let data := Value.object [("x", .int 1)]
    Pipeline.template ['x'] [] = template ∧ engine.signs = .standard ∧
      Expr.parse ['x'] = .ok (.name "x") ∧ Pipeline.Embeddable ['x'] ∧
      ((Expr.name "x").eval data.fields).map (fun v => v.text.toList) = .ok ['1'] ∧
      (engine.render template data).result = .ok ['a'] := by
  intro config template engine data
  have hexpr : Expr.parse ['x'] = .ok (.name "x") :=
    Expr.parse_name (Lexer.tokens_of_lexeme (by decide) (by rfl))
  have hsource : Pipeline.Embeddable ['x'] :=
    ⟨by decide +kernel, by decide +kernel, by decide, by decide⟩
  have hletter : (Engine.ofConfig config).freshly ['a'] = .ok ⟨[.text ['a']], [.text ['a']]⟩ := by
    apply Compiled.ofSource_text
    · exact Signs.preprocess_eq_self (by decide) (by decide) (by decide +kernel)
    · rfl
  have hcached := cached?_cacheInsert_first rfl hletter template
  refine ⟨by decide +kernel, signs_after (ofConfig config) _, hexpr, hsource, by rfl, ?_⟩
  simp only [engine, Engine.render, Engine.prepare, hcached]
  rfl

end Session

end Stencil
