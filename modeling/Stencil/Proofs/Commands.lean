import Stencil.Command.Run
import Stencil.Proofs.Phases

/-! # Commands

The two commands make their engines from the same configuration and prepare the same source, so
one tells when the other can succeed. All that can go wrong comes before a command prints or writes
anything, so a command that fails has only logged messages.
-/

namespace Stencil

theorem Engine.isCompile_eq_false_of_render_error {e : Engine} {source : List Char} {data : Value}
    {d : Diagnostic} {template : Template} (hprepare : (e.prepare source).result = .ok template)
    (h : (e.render source data).result = .error d) : d.isCompile = false := by
  rw [render_result, hprepare] at h
  obtain ⟨fault, rfl⟩ := Compiled.exists_fault_of_render_error h
  rfl

namespace Command

variable {disk : Disk} {engine : Engine} {template content : String}
  {data output : Option String} {outcome : Outcome}

/-! ## What is seen of a row of steps -/

namespace Outcome

theorem exitCode_eq_zero_iff : outcome.exitCode = 0 ↔ outcome.failure? = none := by
  unfold exitCode
  cases outcome.failure? with
  | none => exact iff_of_true rfl rfl
  | some failure => exact iff_of_false (show (1 : UInt32) ≠ 0 by decide) (by simp)

theorem exitCode_eq_one_iff : outcome.exitCode = 1 ↔ outcome.failure? ≠ none := by
  unfold exitCode
  cases outcome.failure? with
  | none => exact iff_of_false (show (0 : UInt32) ≠ 1 by decide) (by simp)
  | some failure => exact iff_of_true rfl (by simp)

theorem exitCode_eq_zero_or_one (outcome : Outcome) :
    outcome.exitCode = 0 ∨ outcome.exitCode = 1 := by
  rw [exitCode_eq_zero_iff, exitCode_eq_one_iff]
  exact eq_or_ne _ _

/-- Nothing is printed and nothing is written. -/
structure Quiet (outcome : Outcome) : Prop where
  printed : outcome.printed = ""
  written : outcome.written = []

section Seen

variable {α : Type} {see : Step → Option α} (hlog : ∀ note, see (.log note) = none)

include hlog

theorem filterMap_logs_append (notes : List Note) (steps : List Step) :
    (notes.map Step.log ++ steps).filterMap see = steps.filterMap see := by
  have hlogs : (notes.map Step.log).filterMap see = [] := by
    simp [List.filterMap_map, hlog]
  rw [List.filterMap_append, hlogs, List.nil_append]

/-- A log filter changes nothing but what is seen of the messages. -/
theorem filterMap_shown (filter : LogFilter) (outcome : Outcome) :
    (outcome.shown filter).steps.filterMap see = outcome.steps.filterMap see := by
  have hstep : ∀ step, (Step.shown? filter step).bind see = see step := by
    intro step
    cases step with
    | log note =>
        simp only [Step.shown?]
        split
        next => exact (hlog _).trans (hlog note).symm
        next => exact (hlog note).symm
    | print content => rfl
    | write path content => rfl
  rw [shown, List.filterMap_filterMap, funext hstep]

end Seen

theorem printed_logs_append (notes : List Note) (steps : List Step) (failure? : Option Failure) :
    printed ⟨notes.map .log ++ steps, failure?⟩ = printed ⟨steps, failure?⟩ :=
  congrArg String.join (filterMap_logs_append (fun _ => rfl) notes steps)

theorem written_logs_append (notes : List Note) (steps : List Step) (failure? : Option Failure) :
    written ⟨notes.map .log ++ steps, failure?⟩ = written ⟨steps, failure?⟩ :=
  filterMap_logs_append (fun _ => rfl) notes steps

theorem quiet_logs (notes : List Note) (failure? : Option Failure) :
    Quiet ⟨notes.map .log, failure?⟩ := by
  have hprinted := printed_logs_append notes [] failure?
  have hwritten := written_logs_append notes [] failure?
  rw [List.append_nil] at hprinted hwritten
  exact ⟨hprinted, hwritten⟩

theorem quiet_failed (failure : Failure) : (failed failure).Quiet := quiet_logs [] (some failure)

theorem printed_shown (filter : LogFilter) (outcome : Outcome) :
    (outcome.shown filter).printed = outcome.printed :=
  congrArg String.join (filterMap_shown (fun _ => rfl) filter outcome)

theorem written_shown (filter : LogFilter) (outcome : Outcome) :
    (outcome.shown filter).written = outcome.written :=
  filterMap_shown (fun _ => rfl) filter outcome

/-- Of the messages those are left that the filter shows, in their order. -/
theorem notes_shown (filter : LogFilter) (outcome : Outcome) :
    (outcome.shown filter).notes =
      (outcome.notes.filter fun note => filter.shows note.target note.severity).map Note.tamed := by
  unfold notes shown
  induction outcome.steps with
  | nil => rfl
  | cons step steps ih =>
      cases step with
      | log note =>
          by_cases hshown : filter.shows note.target note.severity
          · simp [Step.shown?, Step.note?, hshown, ih]
          · simp [Step.shown?, Step.note?, hshown, ih]
      | print content => exact ih
      | write path content => exact ih

theorem Quiet.shown (h : outcome.Quiet) (filter : LogFilter) : (outcome.shown filter).Quiet :=
  ⟨(printed_shown filter outcome).trans h.printed, (written_shown filter outcome).trans h.written⟩

end Outcome

/-! ## How a command ends -/

theorem exists_path_of_readData_error {failure : Failure}
    (h : readData disk data = .error failure) :
    ∃ path, data = some path ∧
      ∀ raw, disk.read? path = some raw → Json.parse Json.dataDepth raw.toList = none := by
  cases data with
  | none => cases h
  | some path =>
      refine ⟨path, rfl, ?_⟩
      intro raw hread
      simp only [readData, hread] at h
      split at h
      next => cases h
      next hparse => exact hparse

/-- How a rendering can end. -/
inductive RenderEnds (disk : Disk) (engine : Engine) (template : String)
    (data output : Option String) : Outcome → Prop where
  | noTemplate (hread : disk.read? template = none) :
      RenderEnds disk engine template data output (.failed (.templateUnreadable template))
  | noData {content : String} {failure : Failure} (hread : disk.read? template = some content)
      (hdata : readData disk data = .error failure) :
      RenderEnds disk engine template data output (.failed failure)
  | notRendered {content : String} {value : Value} {d : Diagnostic} (notes : List Note)
      (hread : disk.read? template = some content) (hdata : readData disk data = .ok value)
      (herror : (engine.render content.toList value).result = .error d) :
      RenderEnds disk engine template data output
        ⟨notes.map .log, some (.notRendered template)⟩
  | printed {content : String} {value : Value} {text : List Char} (notes : List Note)
      (hread : disk.read? template = some content) (hdata : readData disk data = .ok value)
      (htext : (engine.render content.toList value).result = .ok text) (hout : output = none) :
      RenderEnds disk engine template data output
        ⟨notes.map .log ++ [.print (String.ofList text)], none⟩
  | written {content : String} {value : Value} {text : List Char} {path : String}
      (notes : List Note) (last : Note)
      (hread : disk.read? template = some content) (hdata : readData disk data = .ok value)
      (htext : (engine.render content.toList value).result = .ok text)
      (hout : output = some path) :
      RenderEnds disk engine template data output
        ⟨notes.map .log ++ [.write path (String.ofList text), .log last], none⟩
  | notWritten {path : String} (notes : List Note) (hout : output = some path)
      (hwrite : disk.canWrite path = false) :
      RenderEnds disk engine template data output ⟨notes.map .log, some (.notWritten path)⟩

theorem renderEnds (disk : Disk) (engine : Engine) (template : String)
    (data output : Option String) :
    RenderEnds disk engine template data output (render disk engine template data output) := by
  cases hread : disk.read? template with
  | none =>
      simp only [render, readTemplate, hread, bind, Except.bind]
      exact .noTemplate hread
  | some content =>
      cases hdata : readData disk data with
      | error failure =>
          simp only [render, readTemplate, hread, hdata, bind, Except.bind]
          exact .noData hread hdata
      | ok value =>
          simp only [render, readTemplate, hread, hdata, bind, Except.bind, Engine.compile_result]
          cases htext : (engine.render content.toList value).result with
          | error d => exact .notRendered _ hread hdata htext
          | ok text =>
              cases output with
              | none => exact .printed _ hread hdata htext rfl
              | some path =>
                  simp only [Except.toOption]
                  split
                  next => exact .written _ _ hread hdata htext rfl
                  next hwrite => exact .notWritten _ rfl (Bool.eq_false_iff.mpr hwrite)

namespace RenderEnds

/-- A rendering that fails has only logged messages. -/
theorem quiet (h : RenderEnds disk engine template data output outcome)
    (hfailed : outcome.exitCode = 1) : outcome.Quiet := by
  cases h with
  | noTemplate | noData => exact Outcome.quiet_failed _
  | notRendered notes | notWritten notes => exact Outcome.quiet_logs notes _
  | printed | written => exact absurd rfl (Outcome.exitCode_eq_one_iff.mp hfailed)

theorem exitCode_of_unprepared (h : RenderEnds disk engine template data output outcome)
    (hread : disk.read? template = some content)
    (hnone : ¬ ∃ made, (engine.prepare content.toList).result = .ok made) :
    outcome.exitCode = 1 := by
  have hno : ∀ {other value text}, disk.read? template = some other →
      (engine.render other.toList value).result ≠ .ok text := by
    intro other value text hother htext
    cases hread.symm.trans hother
    obtain ⟨made, hmade, -⟩ := Engine.render_eq_ok_iff.mp htext
    exact hnone ⟨made, hmade⟩
  cases h with
  | printed _ hother _ htext => exact absurd htext (hno hother)
  | written _ _ hother _ htext => exact absurd htext (hno hother)
  | _ => rfl

/-- What a rendering of a template that can be prepared may lack. -/
theorem excuse (h : RenderEnds disk engine template data output outcome)
    (hread : disk.read? template = some content) {made : Template}
    (hmade : (engine.prepare content.toList).result = .ok made) (hfailed : outcome.exitCode = 1) :
    (∃ path, data = some path ∧ ∀ raw, disk.read? path = some raw →
      Json.parse Json.dataDepth raw.toList = none) ∨
    (∃ value d, readData disk data = .ok value ∧
      (engine.render content.toList value).result = .error d ∧ d.isCompile = false) ∨
    ∃ path, output = some path ∧ disk.canWrite path = false := by
  cases h with
  | noTemplate hother => cases hread.symm.trans hother
  | noData _ hdata => exact .inl (exists_path_of_readData_error hdata)
  | notRendered _ hother hdata herror =>
      cases hread.symm.trans hother
      have hrun := Engine.isCompile_eq_false_of_render_error hmade herror
      exact .inr (.inl ⟨_, _, hdata, herror, hrun⟩)
  | notWritten _ hout hwrite => exact .inr (.inr ⟨_, hout, hwrite⟩)
  | printed | written => exact absurd rfl (Outcome.exitCode_eq_one_iff.mp hfailed)

theorem result_of_exitCode (h : RenderEnds disk engine template data output outcome)
    (hread : disk.read? template = some content) (hpassed : outcome.exitCode = 0) :
    ∃ value text, readData disk data = .ok value ∧
      (engine.render content.toList value).result = .ok text ∧
      (output = none → outcome.printed = String.ofList text ∧ outcome.written = []) ∧
      ∀ path, output = some path →
        outcome.printed = "" ∧ outcome.written = [(path, String.ofList text)] := by
  cases h with
  | printed notes hother hdata htext hout =>
      cases hread.symm.trans hother
      refine ⟨_, _, hdata, htext, ?_, ?_⟩
      · intro _
        rw [Outcome.printed_logs_append, Outcome.written_logs_append]
        exact ⟨String.empty_append, rfl⟩
      · intro path hpath
        cases hout.symm.trans hpath
  | written notes last hother hdata htext hout =>
      cases hread.symm.trans hother
      refine ⟨_, _, hdata, htext, ?_, ?_⟩
      · intro hnone
        cases hout.symm.trans hnone
      · intro path hpath
        cases hout.symm.trans hpath
        rw [Outcome.printed_logs_append, Outcome.written_logs_append]
        exact ⟨rfl, rfl⟩
  | _ => exact nomatch Outcome.exitCode_eq_zero_iff.mp hpassed

end RenderEnds

theorem check_quiet (disk : Disk) (engine : Engine) (template : String) :
    (check disk engine template).Quiet := by
  unfold check
  split
  next => exact Outcome.quiet_failed _
  next =>
    dsimp only
    split
    next => exact Outcome.quiet_logs _ _
    next => exact Outcome.quiet_logs _ _

theorem check_exitCode_eq_zero_iff (engine : Engine) (hread : disk.read? template = some content) :
    (check disk engine template).exitCode = 0 ↔
      ∃ made, (engine.prepare content.toList).result = .ok made := by
  rw [Outcome.exitCode_eq_zero_iff]
  simp only [check, readTemplate, hread]
  cases (engine.prepare content.toList).result with
  | error d => simp
  | ok made => simp

section Run

variable {around : Surroundings} {named : Option String} {flag : Bool} {config : Config}

theorem run_check (h : loadConfig around.disk named = .ok config) :
    run around ⟨template, named, flag, .check⟩ =
      (check around.disk (engineFor config flag) template).shown
        (logFilter around.logSetting config) := by
  simp only [run, h]

theorem run_render (h : loadConfig around.disk named = .ok config) :
    run around ⟨template, named, flag, .render data output⟩ =
      (render around.disk (engineFor config flag) template data output).shown
        (logFilter around.logSetting config) := by
  simp only [run, h]

/-- A command that fails has printed and written nothing, whatever it failed at. -/
theorem run_quiet {arguments : Arguments} (hfailed : (run around arguments).exitCode = 1) :
    (run around arguments).Quiet := by
  obtain ⟨template, named, flag, action⟩ := arguments
  cases hconfig : loadConfig around.disk named with
  | error failure =>
      simp only [run, hconfig]
      exact Outcome.quiet_failed failure
  | ok config =>
      cases action with
      | check =>
          rw [run_check hconfig]
          exact (check_quiet _ _ _).shown _
      | render data output =>
          rw [run_render hconfig] at hfailed ⊢
          exact ((renderEnds _ _ _ _ _).quiet hfailed).shown _

end Run

/-! ## Checking and rendering -/

/-- What a check says about a rendering with the same configuration, template and option, and what
a rendering leaves behind. A template that passes the check is rendered unless its data cannot be
read, its evaluation has a fault, or its output cannot be written. -/
theorem check_render_agree (around : Surroundings) (named : Option String) (flag : Bool)
    (template content : String) (config : Config)
    (hconfig : loadConfig around.disk named = .ok config)
    (hread : around.disk.read? template = some content) :
    let engine := Engine.ofConfig { config with syntaxMode := config.syntaxMode || flag }
    let source := content.toList
    let checked := run around ⟨template, named, flag, .check⟩
    let rendered := fun data output => run around ⟨template, named, flag, .render data output⟩
    (checked.exitCode = 0 ↔ ∃ made, (engine.prepare source).result = .ok made) ∧
    (checked.exitCode = 1 → ∀ data output, (rendered data output).exitCode = 1) ∧
    (checked.exitCode = 0 → ∀ data output, (rendered data output).exitCode = 1 →
      (∃ path, data = some path ∧ ∀ raw, around.disk.read? path = some raw →
        Json.parse Json.dataDepth raw.toList = none) ∨
      (∃ value d, readData around.disk data = .ok value ∧
        (engine.render source value).result = .error d ∧ d.isCompile = false) ∨
      ∃ path, output = some path ∧ around.disk.canWrite path = false) ∧
    (∀ data output, (rendered data output).exitCode = 1 →
      (rendered data output).printed = "" ∧ (rendered data output).written = []) ∧
    ∀ data output, (rendered data output).exitCode = 0 →
      ∃ value text, readData around.disk data = .ok value ∧
        (engine.render source value).result = .ok text ∧
        (output = none → (rendered data output).printed = String.ofList text ∧
          (rendered data output).written = []) ∧
        ∀ path, output = some path → (rendered data output).printed = "" ∧
          (rendered data output).written = [(path, String.ofList text)] := by
  intro engine source checked rendered
  have hchecked : checked.exitCode = 0 ↔ ∃ made, (engine.prepare source).result = .ok made := by
    rw [show checked = _ from run_check hconfig]
    exact check_exitCode_eq_zero_iff engine hread
  have hrendered : ∀ data output, rendered data output =
      (render around.disk engine template data output).shown (logFilter around.logSetting config) :=
    fun _ _ => run_render hconfig
  have hends := renderEnds around.disk engine template
  refine ⟨hchecked, ?_, ?_, ?_, ?_⟩
  · intro hfailed data output
    rw [hrendered]
    apply (hends data output).exitCode_of_unprepared hread
    intro hmade
    exact nomatch (hchecked.mpr hmade).symm.trans hfailed
  · intro hpassed data output hfailed
    obtain ⟨made, hmade⟩ := hchecked.mp hpassed
    rw [hrendered] at hfailed
    exact (hends data output).excuse hread hmade hfailed
  · intro data output hfailed
    have hquiet := run_quiet hfailed
    exact ⟨hquiet.printed, hquiet.written⟩
  · intro data output hpassed
    rw [hrendered] at hpassed ⊢
    rw [Outcome.printed_shown, Outcome.written_shown]
    exact (hends data output).result_of_exitCode hread hpassed

/-- A text, and the end of a block without the syntax mode. -/
theorem check_render_agree_text :
    let disk : Disk :=
      { present := fun _ => false
        read? := fun path => List.lookup path [("good", "a"), ("bad", "\x7b/@ @\x7d")]
        canWrite := fun _ => true }
    let checked := fun template => run ⟨disk, none⟩ ⟨template, none, false, .check⟩
    let rendered := fun template data output =>
      run ⟨disk, none⟩ ⟨template, none, false, .render data output⟩
    (checked "good").exitCode = 0 ∧
      (rendered "good" none (some "out")).written = [("out", "a")] ∧
      (rendered "good" (some "data") (some "out")).written = [] ∧
      (checked "bad").exitCode = 1 ∧
      ∀ data output, (rendered "bad" data output).exitCode = 1 := by
  intro disk checked rendered
  let engine := Engine.ofConfig .standard
  have hfind : Signs.standard.silent.find? (stripLineBreaks "a".toList) = none := by rfl
  have hfresh : Compiled.ofSource Signs.standard engine.dialect "a".toList =
      .ok ⟨[.text ['a']], [.text ['a']]⟩ := by
    rw [Compiled.ofSource, Signs.preprocess, Markers.erase_of_find?_none hfind]
    rfl
  have hprepare : (engine.prepare "a".toList).result = .ok ⟨0, [.text ['a']], [.text ['a']]⟩ := by
    change (engine.compileFresh "a".toList).result = _
    simp only [Engine.compileFresh, show engine.signs = Signs.standard from rfl, hfresh]
    rfl
  obtain ⟨hcheck, -, hexcuse, htrace, hresult⟩ :=
    check_render_agree ⟨disk, none⟩ none false "good" "a" .standard rfl rfl
  obtain ⟨hcheck', hfail, -⟩ :=
    check_render_agree ⟨disk, none⟩ none false "bad" "\x7b/@ @\x7d" .standard rfl rfl
  have hpassed : (checked "good").exitCode = 0 := hcheck.mpr ⟨_, hprepare⟩
  have hfailed : (checked "bad").exitCode = 1 := by
    apply (checked "bad").exitCode_eq_zero_or_one.resolve_left
    intro hzero
    obtain ⟨made, hmade⟩ := hcheck'.mp hzero
    cases hmade.symm.trans Engine.prepare_stray_end
  have htext : ∀ value, (engine.render "a".toList value).result = .ok "a".toList := by
    intro value
    rw [Engine.render_result, hprepare]
    rfl
  refine ⟨hpassed, ?_, ?_, hfailed, hfail hfailed⟩
  · have hzero : (rendered "good" none (some "out")).exitCode = 0 := by
      apply (rendered "good" none (some "out")).exitCode_eq_zero_or_one.resolve_right
      intro hone
      rcases hexcuse hpassed none (some "out") hone with
        ⟨_, hdata, _⟩ | ⟨value, _, _, herror, _⟩ | ⟨_, _, hwrite⟩
      · cases hdata
      · cases herror.symm.trans (htext value)
      · cases hwrite
    obtain ⟨value, text, _, hrendered, _, hwritten⟩ := hresult none (some "out") hzero
    cases hrendered.symm.trans (htext value)
    exact (hwritten "out" rfl).2
  · apply And.right
    apply htrace
    apply (rendered "good" (some "data") (some "out")).exitCode_eq_zero_or_one.resolve_left
    intro hzero
    obtain ⟨_, _, hdata, _⟩ := hresult (some "data") (some "out") hzero
    cases hdata

end Command

end Stencil
