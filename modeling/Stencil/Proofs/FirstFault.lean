import Stencil.Proofs.Column
import Stencil.Proofs.ErrorPlace

/-! # The first directive that cannot be read

A scan fails exactly if a directive of the text has a fault, and it reports the fault of the first
such directive at a place between the markers of that directive.
-/

namespace Stencil

namespace Place

theorem charsBefore_mono {n m : Nat} (h : n ≤ m) (cs : List Char) :
    charsBefore n cs ≤ charsBefore m cs := by
  induction cs generalizing n m with
  | nil => exact Nat.le_refl _
  | cons c cs ih =>
      cases n with
      | zero => exact Nat.zero_le _
      | succ n =>
          obtain ⟨m, rfl⟩ := Nat.exists_eq_succ_of_ne_zero (by omega : m ≠ 0)
          exact Nat.succ_le_succ (ih (by omega))

/-- The column of a byte between two places of a text lies between their columns. -/
theorem column_between {before word : List Char} {offset : Nat}
    (hstart : Text.size before ≤ offset) (hstop : offset ≤ Text.size (before ++ word))
    (behind : List Char) :
    before.length + 1 ≤ (ofByte (before ++ (word ++ behind)) offset).column ∧
      (ofByte (before ++ (word ++ behind)) offset).column ≤ (before ++ word).length + 1 := by
  have hlow := charsBefore_mono hstart (before ++ (word ++ behind))
  have hhigh := charsBefore_mono hstop (before ++ word ++ behind)
  rw [charsBefore_size_append] at hlow hhigh
  rw [List.append_assoc] at hhigh
  exact ⟨Nat.succ_le_succ hlow, Nat.succ_le_succ hhigh⟩

end Place

namespace Directive

/-- The first filter of a pipeline that is not in the registry, and the byte at which its name
starts. -/
def FirstUnknown (registry : Registry) (filters : List (String × Nat)) (name : String)
    (offset : Nat) : Prop :=
  ∃ front behind, filters = front ++ (name, offset) :: behind ∧
    (∀ filter ∈ front, registry.contains filter.1) ∧ ¬ registry.contains name

/-- What is wrong with a directive: the byte that is at fault, and the diagnostic about it, given
its place. -/
inductive Fault (dialect : Dialect) (x : Directive) : Nat → (Place → Diagnostic) → Prop
  | output {e} (hkind : x.kind = .output) (h : Pipeline.parse x.body = .error e) :
      Fault dialect x (x.bodyStart + e.pos) (.malformed e.problem.message none)
  | filter {p name offset} (hkind : x.kind = .output) (h : Pipeline.parse x.body = .ok p)
      (hname : FirstUnknown dialect.registry p.filters name offset) :
      Fault dialect x (x.bodyStart + offset) (.unknownFilter name)
  | keyword {k} (hkind : x.kind = .statement) (hmode : dialect.syntaxMode = false)
      (hbody : Text.trim (unescaped x.body) ≠ [])
      (h : Keyword.leading? (unescaped x.body) = some k) :
      Fault dialect x x.bodyStart
        (.malformed ("无法解析语句：" ++ String.ofList (Text.trim (unescaped x.body)))
          (some "if / elif / else / each 仅在语法模式下可用"))
  | raw {e} (hkind : x.kind = .statement) (hmode : dialect.syntaxMode = false)
      (hbody : Text.trim (unescaped x.body) ≠ [])
      (hkeyword : Keyword.leading? (unescaped x.body) = none)
      (h : Statement.parseRaw (unescaped x.body) = .error e) :
      Fault dialect x x.bodyStart (.malformed e.problem.message none)
  | statement {e} (hkind : x.kind = .statement) (hmode : dialect.syntaxMode = true)
      (hbody : Text.trim (unescaped x.body) ≠ [])
      (h : Statement.parse (unescaped x.body) = .error e) :
      Fault dialect x x.bodyStart (.malformed e.problem.message none)
  | blockEnd (hkind : x.kind = .blockEnd) (hmode : dialect.syntaxMode = false) :
      Fault dialect x x.start .blockEndOutside

variable {dialect : Dialect} {text : List Char} {x : Directive} {d : Diagnostic}

theorem firstUnknown_cons_iff {registry : Registry} {first name : String} {start offset : Nat}
    {filters : List (String × Nat)} :
    FirstUnknown registry ((first, start) :: filters) name offset ↔
      (¬ registry.contains first ∧ name = first ∧ offset = start) ∨
        (registry.contains first ∧ FirstUnknown registry filters name offset) := by
  constructor
  · rintro ⟨front, behind, heq, hfront, hname⟩
    cases front with
    | nil =>
        cases heq
        exact .inl ⟨hname, rfl, rfl⟩
    | cons filter front =>
        cases heq
        obtain ⟨hfirst, hfront⟩ := List.forall_mem_cons.mp hfront
        exact .inr ⟨hfirst, front, behind, rfl, hfront, hname⟩
  · rintro (⟨hfirst, rfl, rfl⟩ | ⟨hfirst, front, behind, rfl, hfront, hname⟩)
    · exact ⟨[], filters, rfl, List.forall_mem_nil _, hfirst⟩
    · exact ⟨_ :: front, behind, rfl, List.forall_mem_cons.mpr ⟨hfirst, hfront⟩, hname⟩

/-- The filters of a pipeline cannot be looked up exactly if one of them is unknown, and the first
one is reported. -/
theorem resolve_eq_error_iff {registry : Registry} {start : Nat} {filters : List (String × Nat)} :
    resolve registry text start filters = .error d ↔
      ∃ name offset, FirstUnknown registry filters name offset ∧
        d = .unknownFilter name (Place.ofByte text (start + offset)) := by
  induction filters with
  | nil =>
      constructor
      · intro h
        cases h
      · rintro ⟨name, offset, ⟨front, behind, heq, -⟩, -⟩
        simp at heq
  | cons entry filters ih =>
      obtain ⟨first, at_⟩ := entry
      simp only [firstUnknown_cons_iff, Registry.contains]
      unfold resolve
      cases hfirst : registry.get? first with
      | none =>
          constructor
          · intro h
            cases h
            exact ⟨first, at_, .inl ⟨by simp, rfl, rfl⟩, rfl⟩
          · rintro ⟨name, offset, ⟨-, rfl, rfl⟩ | ⟨hknown, -⟩, rfl⟩
            · rfl
            · simp at hknown
      | some filter =>
          simp only [bind_eq_error_iff, ih]
          constructor
          · rintro (⟨name, offset, hname, hd⟩ | ⟨calls, -, h⟩)
            · exact ⟨name, offset, .inr ⟨rfl, hname⟩, hd⟩
            · cases h
          · rintro ⟨name, offset, ⟨hunknown, -⟩ | ⟨-, hname⟩, hd⟩
            · exact absurd rfl hunknown
            · exact .inl ⟨name, offset, hname, hd⟩

theorem exists_fault_of_output_error (hkind : x.kind = .output)
    (h : x.output dialect.registry text = .error d) :
    ∃ offset report, x.Fault dialect offset report ∧ d = report (Place.ofByte text offset) := by
  unfold output at h
  split at h
  next e hparse =>
    cases h
    exact ⟨_, _, .output hkind hparse, rfl⟩
  next p hparse =>
    rcases bind_eq_error_iff.mp h with hresolve | ⟨calls, -, h⟩
    · obtain ⟨name, offset, hname, rfl⟩ := resolve_eq_error_iff.mp hresolve
      exact ⟨_, _, .filter hkind hparse hname, rfl⟩
    · exact nomatch h

theorem exists_fault_of_statement_error (hkind : x.kind = .statement)
    (h : x.statement dialect.syntaxMode text = .error d) :
    ∃ offset report, x.Fault dialect offset report ∧ d = report (Place.ofByte text offset) := by
  simp only [statement] at h
  split at h
  next => cases h
  next hblank =>
    have hbody : Text.trim (unescaped x.body) ≠ [] := by simpa using hblank
    cases hmode : dialect.syntaxMode with
    | true =>
        simp only [hmode, Bool.not_true, Bool.false_and, Bool.false_eq_true, if_false, if_true] at h
        split at h
        next e hparse =>
          cases h
          exact ⟨_, _, .statement hkind hmode hbody hparse, rfl⟩
        next => cases h
    | false =>
        cases hkeyword : Keyword.leading? (unescaped x.body) with
        | some k =>
            simp only [hmode, hkeyword, Option.isSome_some, Bool.not_false, Bool.and_self,
              if_true] at h
            cases h
            exact ⟨_, _, .keyword hkind hmode hbody hkeyword, rfl⟩
        | none =>
            simp only [hmode, hkeyword, Option.isSome_none, Bool.and_false, Bool.false_eq_true,
              if_false] at h
            split at h
            next e hparse =>
              cases h
              exact ⟨_, _, .raw hkind hmode hbody hkeyword hparse, rfl⟩
            next => cases h

/-- A directive that cannot be read has a fault, which is what is reported. -/
theorem exists_fault_of_read_error (h : x.read dialect text = .error d) :
    ∃ offset report, x.Fault dialect offset report ∧ d = report (Place.ofByte text offset) := by
  unfold read at h
  split at h
  next => exact nomatch h
  next => exact nomatch h
  next hkind => exact exists_fault_of_output_error hkind (map_eq_error_iff.mp h)
  next hkind => exact exists_fault_of_statement_error hkind h
  next hkind =>
    split at h
    next => exact nomatch h
    next hmode =>
      cases h
      exact ⟨_, _, .blockEnd hkind (Bool.eq_false_iff.mpr hmode), rfl⟩

variable {offset : Nat} {report : Place → Diagnostic}

/-- A directive with a fault cannot be read, in any text. -/
theorem Fault.read_eq (h : x.Fault dialect offset report) (text : List Char) :
    x.read dialect text = .error (report (Place.ofByte text offset)) := by
  cases h with
  | output hkind h =>
      simp only [read, hkind, Directive.output, h]
      rfl
  | filter hkind h hname =>
      simp only [read, hkind, Directive.output, h, resolve_eq_error_iff.mpr ⟨_, _, hname, rfl⟩]
      rfl
  | keyword hkind hmode hbody h => simp [read, hkind, Directive.statement, hmode, hbody, h]
  | raw hkind hmode hbody hkeyword h =>
      simp [read, hkind, Directive.statement, hmode, hbody, hkeyword, h, malformed]
  | statement hkind hmode hbody h =>
      simp [read, hkind, Directive.statement, hmode, hbody, h, malformed]
  | blockEnd hkind hmode => simp [read, hkind, hmode]

/-! ## Where faults lie -/

variable {signs : Signs}

/-- A fault lies at the opening marker of its directive, in the body or at the closing marker. -/
theorem Fault.bounds (hx : x.StandsIn signs 0 text) (h : x.Fault dialect offset report) :
    x.start ≤ offset ∧ offset ≤ x.bodyStart + Text.size x.body := by
  have hstart : x.start ≤ x.bodyStart := hx.bodyStart ▸ Nat.le_add_right _ _
  cases h with
  | output _ h =>
      have hpos := Pipeline.pos_of_parse_error h
      omega
  | filter _ h hname =>
      obtain ⟨front, behind, hfilters, -, -⟩ := hname
      have hmem := hfilters ▸ List.mem_append_right front List.mem_cons_self
      obtain ⟨before, rest, hbody, rfl⟩ := Pipeline.exists_append_of_filter h hmem
      have hsize : Text.size before ≤ Text.size x.body := by
        rw [hbody, Text.size_append]
        exact Nat.le_add_right _ _
      omega
  | keyword | raw | statement => omega
  | blockEnd => omega

/-- A fault is reported in a column from that of the opening marker to that of the closing marker.
-/
theorem Fault.column_bounds (hx : x.StandsIn signs 0 text) (h : x.Fault dialect offset report) :
    ∃ before rest, text = before ++ ((signs.get x.kind).wrap x.body ++ rest) ∧
      x.start = Text.size before ∧ before.length + 1 ≤ (Place.ofByte text offset).column ∧
        (Place.ofByte text offset).column ≤
          (before ++ ((signs.get x.kind).opening ++ x.body)).length + 1 := by
  obtain ⟨before, rest, htext, hstart⟩ := hx.place
  obtain ⟨hlow, hhigh⟩ := h.bounds hx
  rw [Nat.zero_add] at hstart
  rw [hstart] at hlow
  rw [hx.bodyStart, hstart, Nat.add_assoc, ← Text.size_append, ← Text.size_append] at hhigh
  have hcolumn := Place.column_between hlow hhigh ((signs.get x.kind).closing ++ rest)
  rw [List.append_assoc (signs.get x.kind).opening, ← htext] at hcolumn
  refine ⟨before, rest, ?_, hstart, hcolumn⟩
  rw [htext, Markers.wrap, List.append_assoc, List.append_assoc]

/-- The name of an unknown filter stands at the place that is reported. -/
theorem Fault.pointsAt_name {name : String} (hx : x.StandsIn signs 0 text)
    (h : x.Fault dialect offset report)
    (hreport : report (Place.ofByte text offset) = .unknownFilter name (Place.ofByte text offset)) :
    (Place.ofByte text offset).PointsAt name.toList text ∧
      ∃ p, Pipeline.parse x.body = .ok p ∧
        FirstUnknown dialect.registry p.filters name (offset - x.bodyStart) := by
  have hread := h.read_eq text
  rw [hreport] at hread
  obtain ⟨word, hword, hpoints⟩ :=
    pointsInto_of_read_error hx hread _ rfl (List.cons_ne_nil _ _)
  cases List.mem_singleton.mp hword
  refine ⟨hpoints, ?_⟩
  cases h with
  | filter hkind h hname =>
      cases hreport
      rw [Nat.add_sub_cancel_left]
      exact ⟨_, h, hname⟩
  | output | keyword | raw | statement | blockEnd => exact nomatch hreport

end Directive

namespace Piece

/-- Reading a row of pieces fails exactly if one of its directives cannot be read, and then the
first one is reported. -/
theorem readAll_eq_error_iff {dialect : Dialect} {text : List Char} {pieces : List Piece}
    {d : Diagnostic} :
    readAll dialect text pieces = .error d ↔
      ∃ front x behind, pieces = front ++ .directive x :: behind ∧
        (∀ y, .directive y ∈ front → ∀ e, y.read dialect text ≠ .error e) ∧
          x.read dialect text = .error d := by
  induction pieces with
  | nil => simp [readAll]
  | cons piece pieces ih =>
      rw [readAll, bind_eq_error_iff]
      constructor
      · rintro (hread | ⟨segment, hread, h⟩)
        · cases piece with
          | text content => cases hread
          | directive x =>
              exact ⟨[], x, pieces, rfl, fun _ hmem => absurd hmem List.not_mem_nil, hread⟩
        · rcases bind_eq_error_iff.mp h with hrest | ⟨segments, -, h⟩
          · obtain ⟨front, x, behind, rfl, hfront, hx⟩ := ih.mp hrest
            refine ⟨piece :: front, x, behind, rfl, fun y hmem e hy => ?_, hx⟩
            rcases List.mem_cons.mp hmem with rfl | hmem
            · cases hread.symm.trans hy
            · exact hfront y hmem e hy
          · cases h
      · rintro ⟨front, x, behind, heq, hfront, hx⟩
        cases front with
        | nil =>
            cases heq
            exact .inl hx
        | cons first front =>
            obtain ⟨rfl, rfl⟩ := List.cons.inj heq
            cases hfirst : piece.read dialect text with
            | error e =>
                cases piece with
                | text content => cases hfirst
                | directive y => exact absurd hfirst (hfront y List.mem_cons_self e)
            | ok segment =>
                have hrest : ∀ y, .directive y ∈ front → ∀ e, y.read dialect text ≠ .error e :=
                  fun y hmem => hfront y (List.mem_cons_of_mem _ hmem)
                have herror := ih.mpr ⟨front, x, behind, rfl, hrest, hx⟩
                exact .inr ⟨segment, rfl, bind_eq_error_iff.mpr (.inl herror)⟩

theorem exists_read_of_readAll {dialect : Dialect} {text : List Char} {pieces : List Piece}
    {segments : List Segment} (h : readAll dialect text pieces = .ok segments) {x : Directive}
    (hx : .directive x ∈ pieces) : ∃ segment, x.read dialect text = .ok segment := by
  induction pieces generalizing segments with
  | nil => exact nomatch hx
  | cons piece pieces ih =>
      obtain ⟨segment, hread, h⟩ := bind_eq_ok_iff.mp h
      obtain ⟨rest, hrest, -⟩ := bind_eq_ok_iff.mp h
      rcases List.mem_cons.mp hx with rfl | hx
      · exact ⟨segment, hread⟩
      · exact ih hrest hx

end Piece

namespace Signs

theorem pieces_eq_exhaustivePieces (signs : Signs) (text : List Char) :
    signs.pieces text = signs.exhaustivePieces text 0 := by
  rw [pieces_eq_freshPieces]
  exact freshPiecesFrom_eq_exhaustivePieces [] (Nat.le_refl _)

/-- A scan reports the first directive that has a fault. It fails exactly if there is one, and
whatever follows this directive, the report is about its fault. The column that is reported is the
one of the opening marker, of the closing marker, or one between them, and where a filter is
unknown its name stands in this column, and no filter before it in the pipeline is unknown. -/
theorem scan_reports_first (signs : Signs) (dialect : Dialect) (text : List Char) :
    ((∃ d, signs.scan dialect text = .error d) ↔
        ∃ x, .directive x ∈ signs.exhaustivePieces text 0 ∧
          ∃ offset report, x.Fault dialect offset report) ∧
      ∀ front x behind offset report,
        signs.exhaustivePieces text 0 = front ++ .directive x :: behind →
        (∀ y, .directive y ∈ front → ∀ offset report, ¬ y.Fault dialect offset report) →
        x.Fault dialect offset report →
          let place := Place.ofByte text offset
          let m := signs.get x.kind
          signs.scan dialect text = .error (report place) ∧
          (∃ before rest, text = before ++ (m.wrap x.body ++ rest) ∧
            x.start = Text.size before ∧ before.length + 1 ≤ place.column ∧
              place.column ≤ (before ++ (m.opening ++ x.body)).length + 1) ∧
          ∀ name, report place = .unknownFilter name place →
            place.PointsAt name.toList text ∧
              ∃ p, Pipeline.parse x.body = .ok p ∧
                Directive.FirstUnknown dialect.registry p.filters name
                  (offset - x.bodyStart) := by
  rw [← pieces_eq_exhaustivePieces]
  constructor
  · constructor
    · rintro ⟨d, hscan⟩
      obtain ⟨front, x, behind, hpieces, -, hread⟩ := Piece.readAll_eq_error_iff.mp hscan
      obtain ⟨offset, report, hfault, -⟩ := Directive.exists_fault_of_read_error hread
      exact ⟨x, hpieces ▸ List.mem_append_right front List.mem_cons_self, offset, report, hfault⟩
    · rintro ⟨x, hmem, offset, report, hfault⟩
      cases hscan : signs.scan dialect text with
      | error d => exact ⟨d, rfl⟩
      | ok segments =>
          obtain ⟨segment, hread⟩ := Piece.exists_read_of_readAll hscan hmem
          exact nomatch hread.symm.trans (hfault.read_eq text)
  · intro front x behind offset report hpieces hfront hfault place m
    have hmem : .directive x ∈ signs.pieces text :=
      hpieces ▸ List.mem_append_right front List.mem_cons_self
    have hx := (signs.pieces_divides text).standsIn hmem
    have hread : ∀ y, .directive y ∈ front → ∀ e, y.read dialect text ≠ .error e := by
      intro y hy e herror
      obtain ⟨offset', report', hfault', -⟩ := Directive.exists_fault_of_read_error herror
      exact hfront y hy offset' report' hfault'
    have hscan : signs.scan dialect text = .error (report place) :=
      Piece.readAll_eq_error_iff.mpr ⟨front, x, behind, hpieces, hread, hfault.read_eq text⟩
    exact ⟨hscan, hfault.column_bounds hx, fun name => hfault.pointsAt_name hx⟩

/-- A directive without an expression behind a comment; the place is that of its closing marker. -/
theorem scan_reports_first_missing :
    let text := "é<!-- c -->\x7b\x7b \x7d\x7d\x7b/@ x @\x7d".toList
    let dialect : Dialect := ⟨.builtin, false⟩
    let front : List Piece := [.text ['é'], .directive ⟨.comment, 2, 6, " c ".toList, 12⟩]
    let x : Directive := ⟨.output, 12, 14, [' '], 17⟩
    let report : Place → Diagnostic := .malformed Problem.missingExpression.message none
    standard.exhaustivePieces text 0 =
        front ++ .directive x :: [.directive ⟨.blockEnd, 17, 20, " x ".toList, 25⟩] ∧
      (∀ y, .directive y ∈ front → ∀ offset report, ¬ y.Fault dialect offset report) ∧
      x.Fault dialect 15 report ∧
      standard.scan dialect text = .error (report (Place.ofByte text 15)) ∧
      (Place.ofByte text 15).column = 15 := by
  intro text dialect front x report
  have hpieces : standard.exhaustivePieces text 0 =
      front ++ .directive x :: [.directive ⟨.blockEnd, 17, 20, " x ".toList, 25⟩] := by
    rw [← pieces_eq_exhaustivePieces]
    rfl
  have hfront : ∀ y, .directive y ∈ front → ∀ offset report, ¬ y.Fault dialect offset report := by
    intro y hy offset report hfault
    obtain rfl : y = ⟨.comment, 2, 6, " c ".toList, 12⟩ := by simpa [front] using hy
    cases hfault with
    | output hkind | filter hkind | keyword hkind | raw hkind | statement hkind | blockEnd hkind =>
        exact nomatch hkind
  have htokens : Lexer.tokens [' '] = .ok [] :=
    (Lexer.tokensFrom_blank (by decide) 0 []).trans (Lexer.tokensFrom_nil 1)
  have hparse : Pipeline.parse [' '] = .error ⟨.missingExpression, 1⟩ := by
    rw [Pipeline.parse, Grammar.start_eq_ok_iff.mpr ⟨_, htokens, rfl⟩]
    rfl
  have hfault : x.Fault dialect 15 report :=
    @Directive.Fault.output dialect x ⟨.missingExpression, 1⟩ rfl hparse
  have h := (scan_reports_first standard dialect text).2 front x _ 15 report hpieces hfront hfault
  exact ⟨hpieces, hfront, hfault, h.1, rfl⟩

end Signs

end Stencil
