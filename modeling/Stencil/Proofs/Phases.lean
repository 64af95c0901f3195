import Stencil.Proofs.Column

/-! # Compiling and rendering as phases

What does not compile fails in the same way with all data, and what compiles can fail only by a
fault of evaluation. The diagnostic of a failed rendering therefore tells its phase.
-/

namespace Stencil

variable {d : Diagnostic}

namespace Directive

variable {dialect : Dialect} {source : List Char} {x : Directive}

theorem isCompile_of_output_error {registry : Registry}
    (h : x.output registry source = .error d) : d.isCompile = true := by
  unfold output at h
  split at h
  next =>
    cases h
    rfl
  next p hp =>
    rcases bind_eq_error_iff.mp h with hresolve | ⟨calls, -, h⟩
    · obtain ⟨name, offset, -, rfl⟩ := exists_filter_of_resolve_error hresolve
      rfl
    · cases h

theorem isCompile_of_statement_error {syntaxMode : Bool}
    (h : x.statement syntaxMode source = .error d) : d.isCompile = true := by
  simp only [statement] at h
  split at h
  next => cases h
  split at h
  next =>
    cases h
    rfl
  split at h
  next =>
    cases h
    rfl
  next => cases h

/-- A directive that cannot be read is a matter of the template. -/
theorem isCompile_of_read_error (h : x.read dialect source = .error d) : d.isCompile = true := by
  unfold read at h
  split at h
  next => cases h
  next => cases h
  next => exact isCompile_of_output_error (map_eq_error_iff.mp h)
  next => exact isCompile_of_statement_error h
  next =>
    split at h
    next => cases h
    next =>
      cases h
      rfl

end Directive

theorem BlockProblem.isCompile_diagnostic (problem : BlockProblem) (source : List Char)
    (offset : Nat) : (problem.diagnostic source offset).isCompile = true := by
  cases problem <;> rfl

namespace Compiled

/-- No fault of evaluation occurs while a source is compiled. -/
theorem isCompile_of_ofSource_error {signs : Signs} {dialect : Dialect} {source : List Char}
    (h : ofSource signs dialect source = .error d) : d.isCompile = true := by
  rcases bind_eq_error_iff.mp h with hscan | ⟨segments, -, htree⟩
  · obtain ⟨x, -, hread⟩ := Piece.exists_directive_of_readAll_error hscan
    exact Directive.isCompile_of_read_error hread
  · split at htree
    next e _ =>
      cases htree
      exact e.problem.isCompile_diagnostic _ _
    next => cases htree

/-- A compiled template fails only by faults of evaluation. -/
theorem exists_fault_of_render_error {c : Compiled} {data : Value}
    (h : c.render data = .error d) : ∃ fault, d = .ofFault fault := by
  unfold render at h
  cases hnodes : renderNodes c.nodes data with
  | ok cs =>
      rw [hnodes] at h
      cases h
  | error fault =>
      rw [hnodes] at h
      cases h
      exact ⟨fault, rfl⟩

end Compiled

namespace Engine

theorem isCompile_of_prepare_error {e : Engine} {source : List Char}
    (h : (e.prepare source).result = .error d) : d.isCompile = true := by
  rcases e.prepare_cases source with
    ⟨_, _, hok, _⟩ | ⟨_, _, hfresh, herror, _⟩ | ⟨_, _, _, hok, _⟩
  · cases h.symm.trans hok
  · cases h.symm.trans herror
    exact Compiled.isCompile_of_ofSource_error hfresh
  · cases h.symm.trans hok

theorem render_of_prepare_error {e : Engine} {source : List Char}
    (h : (e.prepare source).result = .error d) (data : Value) :
    (e.render source data).result = .error d := by
  rw [render_result, h]
  rfl

/-- Compiling and rendering are separate phases. Preparing a source gives no fault of evaluation
and a compiled template gives nothing else. So a rendering fails with a diagnostic of compilation
exactly if the source cannot be prepared, and then it fails in that way with all data. -/
theorem phases_separate (e : Engine) (source : List Char) :
    (∀ d, (e.prepare source).result = .error d →
      d.isCompile = true ∧ ∀ data, (e.render source data).result = .error d) ∧
    (∀ (c : Compiled) data d, c.render data = .error d → d.isCompile = false) ∧
    ∀ data d, (e.render source data).result = .error d →
      (d.isCompile = true ↔ ∃ d', (e.prepare source).result = .error d') := by
  have hrun : ∀ (c : Compiled) data d, c.render data = .error d → d.isCompile = false := by
    intro c data d h
    obtain ⟨fault, rfl⟩ := Compiled.exists_fault_of_render_error h
    rfl
  refine ⟨fun d h => ⟨isCompile_of_prepare_error h, render_of_prepare_error h⟩, hrun, ?_⟩
  intro data d h
  constructor
  · intro hcompile
    rcases bind_eq_error_iff.mp h with hprepare | ⟨template, -, hrender⟩
    · exact ⟨d, hprepare⟩
    · exact absurd hcompile (Bool.eq_false_iff.mp (hrun _ _ _ hrender))
  · rintro ⟨d', h'⟩
    cases h.symm.trans (render_of_prepare_error h' data)
    exact isCompile_of_prepare_error h'

theorem prepare_stray_end :
    let source := "\x7b/@ @\x7d".toList
    ((ofConfig .standard).prepare source).result =
      .error (.blockEndOutside (Place.ofByte source 0)) := by
  intro source
  have hfind : Signs.standard.silent.find? (stripLineBreaks source) = none := by rfl
  have hfresh : Compiled.ofSource Signs.standard (ofConfig .standard).dialect source =
      .error (.blockEndOutside (Place.ofByte source 0)) := by
    rw [Compiled.ofSource, Signs.preprocess, Markers.erase_of_find?_none hfind]
    rfl
  change ((ofConfig .standard).compileFresh source).result = _
  simp only [compileFresh, show (ofConfig .standard).signs = Signs.standard from rfl, hfresh]

/-- The end of a block without the syntax mode, and a name that is not defined. -/
theorem phases_separate_undefined :
    let e := ofConfig .standard
    let source := "\x7b/@ @\x7d".toList
    let undefined : Compiled := ⟨[], [.output ⟨.name "x", []⟩]⟩
    ∃ d d', (e.prepare source).result = .error d ∧ d.isCompile = true ∧
      (∀ data, (e.render source data).result = .error d) ∧
      undefined.render .null = .error d' ∧ d'.isCompile = false := by
  intro e source undefined
  obtain ⟨hprepared, hrendered, hboth⟩ := phases_separate e source
  obtain ⟨hcompile, hall⟩ := hprepared _ prepare_stray_end
  refine ⟨_, _, prepare_stray_end, (hboth .null _ (hall .null)).mpr ⟨_, prepare_stray_end⟩, hall,
    rfl, ?_⟩
  exact hrendered undefined .null _ rfl

end Engine

end Stencil
