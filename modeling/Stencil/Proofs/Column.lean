import Stencil.Proofs.BlockLayout
import Stencil.Proofs.Conservation
import Stencil.Proofs.Operation
import Stencil.Proofs.Placement
import Stencil.Proofs.Spelling

/-! # What diagnostics point at

The column of a diagnostic counts the characters of the text that is scanned, which is the source
without its line breaks and without its silent comments.
-/

namespace Stencil

namespace Place

/-- A word of a text stands at a place. -/
def PointsAt (place : Place) (word text : List Char) : Prop :=
  ∃ before behind, text = before ++ (word ++ behind) ∧ place.column = before.length + 1

theorem charsBefore_size_append (before rest : List Char) :
    charsBefore (Text.size before) (before ++ rest) = before.length := by
  induction before with
  | nil => cases rest <;> rfl
  | cons c before ih =>
      obtain ⟨n, hn⟩ := Nat.exists_eq_succ_of_ne_zero (Nat.ne_of_gt c.utf8Size_pos)
      have hsize : Text.size (c :: before) = n + Text.size before + 1 := by
        rw [Text.size_cons, hn]
        omega
      have hrest : n + Text.size before + 1 - c.utf8Size = Text.size before := by
        rw [hn]
        omega
      rw [List.cons_append, hsize, charsBefore, hrest, ih, List.length_cons]

theorem ofByte_pointsAt {before word behind text : List Char} {offset : Nat}
    (htext : text = before ++ (word ++ behind)) (hoffset : offset = Text.size before) :
    (ofByte text offset).PointsAt word text := by
  refine ⟨before, behind, htext, ?_⟩
  rw [ofByte, hoffset, htext, charsBefore_size_append]

end Place

namespace Diagnostic

/-- The words of which one stands at the place of a diagnostic. -/
def words (signs : Signs) : Diagnostic → List (List Char)
  | unknownFilter name _ => [name.toList]
  | unbalanced _ _ => [signs.statement.opening, signs.blockEnd.opening]
  | blockEndOutside _ => [signs.blockEnd.opening]
  | malformed _ _ _ => []
  | failed _ => []

/-- A diagnostic that has words points at one of them in a text. -/
def PointsInto (signs : Signs) (text : List Char) (d : Diagnostic) : Prop :=
  ∀ place, d.place? = some place → d.words signs ≠ [] →
    ∃ word ∈ d.words signs, place.PointsAt word text

variable {signs : Signs} {text : List Char}

theorem pointsInto_malformed (message : String) (hint : Option String) (place : Place) :
    (malformed message hint place).PointsInto signs text :=
  fun _ _ hwords => absurd rfl hwords

end Diagnostic

/-! ## Reading -/

namespace Piece

variable {dialect : Dialect} {source : List Char} {pieces : List Piece}

theorem exists_directive_of_readAll_error {d : Diagnostic}
    (h : readAll dialect source pieces = .error d) :
    ∃ directive, .directive directive ∈ pieces ∧ directive.read dialect source = .error d := by
  induction pieces with
  | nil => exact nomatch h
  | cons piece pieces ih =>
      rcases bind_eq_error_iff.mp h with hread | ⟨segment, -, h⟩
      · cases piece with
        | text content => exact nomatch hread
        | directive x => exact ⟨x, List.mem_cons_self, hread⟩
      · rcases bind_eq_error_iff.mp h with hrest | ⟨segments, -, h⟩
        · obtain ⟨x, hx, hread⟩ := ih hrest
          exact ⟨x, List.mem_cons_of_mem _ hx, hread⟩
        · exact nomatch h

/-- A segment is a text or what a directive is read as. -/
theorem exists_piece_of_mem_readAll {segments : List Segment} {segment : Segment}
    (h : readAll dialect source pieces = .ok segments) (hmem : segment ∈ segments) :
    ∃ piece ∈ pieces, piece.read dialect source = .ok (some segment) := by
  induction pieces generalizing segments with
  | nil =>
      cases h
      exact nomatch hmem
  | cons piece pieces ih =>
      obtain ⟨first, hfirst, h⟩ := bind_eq_ok_iff.mp h
      obtain ⟨rest, hrest, heq⟩ := bind_eq_ok_iff.mp h
      cases heq
      rcases List.mem_append.mp hmem with hmem | hmem
      · exact ⟨piece, List.mem_cons_self, by rw [hfirst, Option.mem_toList.mp hmem]⟩
      · obtain ⟨other, hother, hread⟩ := ih hrest hmem
        exact ⟨other, List.mem_cons_of_mem _ hother, hread⟩

end Piece

namespace Directive

variable {dialect : Dialect} {signs : Signs} {text : List Char} {x : Directive}

theorem exists_filter_of_resolve_error {registry : Registry} {start : Nat}
    {names : List (String × Nat)} {d : Diagnostic}
    (h : resolve registry text start names = .error d) :
    ∃ name offset, (name, offset) ∈ names ∧
      d = .unknownFilter name (Place.ofByte text (start + offset)) := by
  induction names with
  | nil => exact nomatch h
  | cons entry names ih =>
      obtain ⟨name, offset⟩ := entry
      unfold resolve at h
      split at h
      next =>
        cases h
        exact ⟨name, offset, List.mem_cons_self, rfl⟩
      next =>
        rcases bind_eq_error_iff.mp h with hrest | ⟨calls, -, h⟩
        · obtain ⟨other, at_, hmem, hd⟩ := ih hrest
          exact ⟨other, at_, List.mem_cons_of_mem _ hmem, hd⟩
        · exact nomatch h

theorem output_pointsInto {registry : Registry} {d : Diagnostic} (hx : x.StandsIn signs 0 text)
    (h : x.output registry text = .error d) :
    d.PointsInto signs text := by
  unfold output at h
  split at h
  next =>
    cases h
    exact Diagnostic.pointsInto_malformed _ _ _
  next p hp =>
    rcases bind_eq_error_iff.mp h with hresolve | ⟨calls, -, h⟩
    · obtain ⟨name, offset, hmem, rfl⟩ := exists_filter_of_resolve_error hresolve
      obtain ⟨front, back, hbody, rfl⟩ := Pipeline.exists_append_of_filter hp hmem
      obtain ⟨before, behind, htext, hstart⟩ := hx.place
      have htext' : text = (before ++ ((signs.get x.kind).opening ++ front)) ++
          (name.toList ++ (back ++ ((signs.get x.kind).closing ++ behind))) := by
        rw [htext, hbody]
        simp only [List.append_assoc]
      have hoffset : x.bodyStart + Text.size front =
          Text.size (before ++ ((signs.get x.kind).opening ++ front)) := by
        rw [hx.bodyStart, hstart]
        simp only [Text.size_append]
        omega
      intro place hplace _
      cases hplace
      exact ⟨name.toList, List.mem_singleton_self _, Place.ofByte_pointsAt htext' hoffset⟩
    · exact nomatch h

theorem pointsInto_of_read_error {d : Diagnostic} (hx : x.StandsIn signs 0 text)
    (h : x.read dialect text = .error d) : d.PointsInto signs text := by
  unfold read at h
  split at h
  next => cases h
  next => cases h
  next => exact output_pointsInto hx (map_eq_error_iff.mp h)
  next =>
    simp only [statement] at h
    split at h
    next => cases h
    split at h
    next =>
      cases h
      exact Diagnostic.pointsInto_malformed _ _ _
    split at h
    next =>
      cases h
      exact Diagnostic.pointsInto_malformed _ _ _
    next => cases h
  next hkind =>
    split at h
    next => cases h
    next =>
      cases h
      obtain ⟨before, behind, htext, hstart⟩ := hx.place
      rw [hkind] at htext
      intro place hplace _
      cases hplace
      exact ⟨signs.blockEnd.opening, List.mem_singleton_self _,
        Place.ofByte_pointsAt htext (hstart.trans (Nat.zero_add _))⟩

end Directive

/-! ## Blocks -/

namespace Builder

/-- The open blocks were opened at bytes with a property. -/
def OpenedAt (P : Nat → Prop) (b : Builder) : Prop := ∀ frame ∈ b.frames, P frame.offset

variable {P : Nat → Prop} {b b' : Builder} {e : BlockError}

theorem OpenedAt.add (hb : b.OpenedAt P) (node : Node) : (b.add node).OpenedAt P := by
  obtain ⟨root, frames⟩ := b
  cases frames with
  | nil => exact hb
  | cons frame rest => exact List.forall_mem_cons.mpr (List.forall_mem_cons.mp hb)

theorem OpenedAt.split (hb : b.OpenedAt P) {offset : Nat} {keyword : Keyword}
    {test : Option Expr} (h : b.split offset keyword test = .ok b') : b'.OpenedAt P := by
  obtain ⟨frame, rest, finished, current, hframes, -, rfl⟩ := split_eq_ok_iff.mp h
  rw [OpenedAt, hframes] at hb
  exact List.forall_mem_cons.mpr (List.forall_mem_cons.mp hb)

theorem offset_of_push_error {offset : Nat} {opened : Opened}
    (h : b.push offset opened = .error e) : e.offset = offset := by
  unfold push at h
  split at h
  next =>
    cases h
    rfl
  next => exact nomatch h

theorem OpenedAt.step (hb : b.OpenedAt P) {segment : Segment}
    (hs : ∀ s offset, segment = .statement s offset → P offset) (h : b.step segment = .ok b') :
    b'.OpenedAt P := by
  cases segment with
  | silent => cases h; exact hb
  | text content => cases h; exact hb.add _
  | comment content => cases h; exact hb.add _
  | output out => cases h; exact hb.add _
  | statement s offset =>
      have hoffset := hs s offset rfl
      cases s with
      | bind name value => cases h; exact hb.add _
      | eval value => cases h; exact hb.add _
      | cond test =>
          obtain ⟨-, rfl⟩ := push_eq_ok_iff.mp h
          exact List.forall_mem_cons.mpr ⟨hoffset, hb⟩
      | each collection =>
          obtain ⟨-, rfl⟩ := push_eq_ok_iff.mp h
          exact List.forall_mem_cons.mpr ⟨hoffset, hb⟩
      | elseCond test => exact hb.split h
      | otherwise => exact hb.split h
      | close =>
          obtain ⟨frame, rest, hframes, rfl⟩ := close_eq_ok_iff.mp h
          rw [OpenedAt, hframes] at hb
          exact OpenedAt.add (b := ⟨b.root, rest⟩) (List.forall_mem_cons.mp hb).2 _

theorem offset_of_split_error {offset : Nat} {keyword : Keyword} {test : Option Expr}
    (h : b.split offset keyword test = .error e) : e.offset = offset := by
  unfold split at h
  split at h
  next =>
    cases h
    rfl
  next =>
    split at h
    next =>
      cases h
      rfl
    next =>
      cases h
      rfl
    next => exact nomatch h

/-- A step fails at the statement that it takes in. -/
theorem exists_statement_of_step_error {segment : Segment} (h : b.step segment = .error e) :
    ∃ s, segment = .statement s e.offset := by
  cases segment with
  | silent => cases h
  | text content => cases h
  | comment content => cases h
  | output out => cases h
  | statement s offset =>
      have hoffset : e.offset = offset := by
        cases s with
        | bind name value => cases h
        | eval value => cases h
        | cond test => exact offset_of_push_error h
        | each collection => exact offset_of_push_error h
        | elseCond test => exact offset_of_split_error h
        | otherwise => exact offset_of_split_error h
        | close =>
            simp only [step, statement, close] at h
            split at h
            next =>
              cases h
              rfl
            next => cases h
      exact ⟨s, by rw [hoffset]⟩

/-- Taking in a row of segments fails at one of its statements, or leaves only blocks open that
were opened at bytes of the given kind. -/
theorem OpenedAt.steps (hb : b.OpenedAt P) {segments : List Segment}
    (hs : ∀ s offset, .statement s offset ∈ segments → P offset) :
    (∀ e, b.steps segments = .error e → P e.offset) ∧
      (∀ b', b.steps segments = .ok b' → b'.OpenedAt P) := by
  induction segments generalizing b with
  | nil =>
      refine ⟨fun e h => (nomatch h), fun b' h => ?_⟩
      cases h
      exact hb
  | cons segment segments ih =>
      have hsegment : ∀ s offset, segment = .statement s offset → P offset :=
        fun s offset heq => hs s offset (heq ▸ List.mem_cons_self)
      have hrest : ∀ s offset, .statement s offset ∈ segments → P offset :=
        fun s offset hmem => hs s offset (List.mem_cons_of_mem _ hmem)
      constructor
      · intro e h
        rcases bind_eq_error_iff.mp h with hstep | ⟨next, hstep, h⟩
        · obtain ⟨s, heq⟩ := exists_statement_of_step_error hstep
          exact hsegment s e.offset heq
        · exact (ih (hb.step hsegment hstep) hrest).1 e h
      · intro b' h
        obtain ⟨next, hstep, h⟩ := bind_eq_ok_iff.mp h
        exact (ih (hb.step hsegment hstep) hrest).2 b' h

end Builder

/-- A row of segments that is no tree has a statement to blame. -/
theorem Node.exists_statement_of_error {segments : List Segment} {e : BlockError}
    (h : Node.ofSegments segments = .error e) : ∃ s, .statement s e.offset ∈ segments := by
  let P : Nat → Prop := fun offset => ∃ s, .statement s offset ∈ segments
  have hempty : Builder.empty.OpenedAt P := fun frame hframe => nomatch hframe
  have hsteps := hempty.steps fun s offset (hmem : .statement s offset ∈ segments) =>
    show P offset from ⟨s, hmem⟩
  rcases bind_eq_error_iff.mp h with herror | ⟨b, hb, hfinish⟩
  · exact hsteps.1 e herror
  · have hopened := hsteps.2 b hb
    unfold Builder.finish at hfinish
    split at hfinish
    next => exact nomatch hfinish
    next frame rest hframes =>
      cases hfinish
      exact hopened frame (hframes ▸ List.mem_cons_self)

/-! ## The source -/

namespace Markers

variable {m : Markers} {cs : List Char}

theorem erase_of_find?_none (h : m.find? cs = none) : m.erase cs = cs := by
  rw [erase]
  split
  next => rfl
  next hit hsome => cases h.symm.trans hsome

theorem erase_of_find?_some {hit : Hit} (h : m.find? cs = some hit) :
    m.erase cs = hit.before ++ m.erase hit.behind := by
  rw [erase]
  split
  next hnone => cases h.symm.trans hnone
  next other hsome =>
    cases h.symm.trans hsome
    rfl

end Markers

/-- What ends before the first directive that is erased stands where it stood. -/
theorem Place.PointsAt.of_erase {place : Place} {word text : List Char} {m : Markers}
    (h : place.PointsAt word (m.erase text))
    (hbefore : ∀ hit, m.find? text = some hit →
      place.column + word.length ≤ hit.before.length + 1) :
    place.PointsAt word text := by
  cases hfind : m.find? text with
  | none => rwa [Markers.erase_of_find?_none hfind] at h
  | some hit =>
      obtain ⟨before, behind, herase, hcolumn⟩ := h
      have hle := hbefore hit hfind
      rw [Markers.erase_of_find?_some hfind, ← List.append_assoc] at herase
      have hlength : (before ++ word).length ≤ hit.before.length := by
        rw [List.length_append]
        omega
      obtain ⟨x, hx⟩ := List.prefix_of_prefix_length_le (List.prefix_append (before ++ word) behind)
        (herase ▸ List.prefix_append hit.before _) hlength
      refine ⟨before, x ++ (m.opening ++ (hit.body ++ (m.closing ++ hit.behind))), ?_, hcolumn⟩
      rw [← List.append_assoc word, ← List.append_assoc before, ← List.append_assoc before, hx]
      exact Markers.eq_of_find? hfind

namespace Signs

theorem pointsInto_of_scan_error {signs : Signs} {dialect : Dialect} {text : List Char}
    {d : Diagnostic} (h : signs.scan dialect text = .error d) : d.PointsInto signs text := by
  obtain ⟨x, hx, hread⟩ := Piece.exists_directive_of_readAll_error h
  exact Directive.pointsInto_of_read_error ((signs.pieces_divides text).standsIn hx) hread

theorem exists_opening_of_statement {signs : Signs} {dialect : Dialect} {text : List Char}
    {segments : List Segment} {s : Statement} {offset : Nat}
    (h : signs.scan dialect text = .ok segments) (hmem : .statement s offset ∈ segments) :
    ∃ word ∈ [signs.statement.opening, signs.blockEnd.opening],
      (Place.ofByte text offset).PointsAt word text := by
  obtain ⟨piece, hpiece, hread⟩ := Piece.exists_piece_of_mem_readAll h hmem
  cases piece with
  | text content => exact nomatch hread
  | directive x =>
      obtain ⟨before, behind, htext, hstart⟩ :=
        ((signs.pieces_divides text).standsIn hpiece).place
      have hpoints := Place.ofByte_pointsAt htext (hstart.trans (Nat.zero_add _))
      have hstands := Directive.standsFor_of_read hread
      obtain ⟨kind, start, bodyStart, body, stop⟩ := x
      cases hstands with
      | statement => exact ⟨_, List.mem_cons_self, hpoints⟩
      | blockEnd => exact ⟨_, List.mem_cons_of_mem _ List.mem_cons_self, hpoints⟩

end Signs

theorem BlockProblem.pointsInto_diagnostic {signs : Signs} {text : List Char} {offset : Nat}
    (problem : BlockProblem)
    (h : ∃ word ∈ [signs.statement.opening, signs.blockEnd.opening],
      (Place.ofByte text offset).PointsAt word text) :
    (problem.diagnostic text offset).PointsInto signs text := by
  intro place hplace hwords
  cases problem
  case tooDeep => exact absurd rfl hwords
  all_goals
    cases hplace
    exact h

theorem Compiled.pointsInto_of_error {signs : Signs} {dialect : Dialect} {source : List Char}
    {d : Diagnostic} (h : ofSource signs dialect source = .error d) :
    d.PointsInto signs (signs.preprocess source) := by
  rcases bind_eq_error_iff.mp h with hscan | ⟨segments, hscan, h⟩
  · exact Signs.pointsInto_of_scan_error hscan
  · split at h
    next herror =>
      cases h
      obtain ⟨s, hmem⟩ := Node.exists_statement_of_error herror
      exact BlockProblem.pointsInto_diagnostic _ (Signs.exists_opening_of_statement hscan hmem)
    next => exact nomatch h

namespace Engine

/-- The column of a diagnostic counts the characters of the scanned text, where the word stands
that the diagnostic is about. In the source without line breaks it stands at the same column as
long as no silent comment starts before its end. -/
theorem column_of_error {e : Engine} {source : List Char} {d : Diagnostic} {place : Place}
    (h : (e.scan source).result = .error d ∨ (e.prepare source).result = .error d)
    (hplace : d.place? = some place) (hwords : d.words e.signs ≠ []) :
    ∃ word ∈ d.words e.signs, place.PointsAt word (e.signs.preprocess source) ∧
      ((∀ hit, e.signs.silent.find? (stripLineBreaks source) = some hit →
          place.column + word.length ≤ hit.before.length + 1) →
        place.PointsAt word (stripLineBreaks source)) := by
  have hinto : d.PointsInto e.signs (e.signs.preprocess source) := by
    rcases h with hscan | hprepare
    · exact Signs.pointsInto_of_scan_error hscan
    · rcases e.prepare_cases source with ⟨_, _, hok, _⟩ | ⟨d', _, hfresh, herror, _⟩ |
        ⟨_, _, _, hok, _⟩
      · exact nomatch hprepare.symm.trans hok
      · cases hprepare.symm.trans herror
        exact Compiled.pointsInto_of_error hfresh
      · exact nomatch hprepare.symm.trans hok
  obtain ⟨word, hword, hpoints⟩ := hinto place hplace hwords
  exact ⟨word, hword, hpoints, hpoints.of_erase⟩

/-- The end of a block behind a silent comment. -/
theorem column_of_error_blockEnd :
    let text := "\x7b/@ @\x7d".toList
    (Place.ofByte text 0).PointsAt "\x7b/@".toList
      (Signs.standard.preprocess ("\x7b# c #\x7d".toList ++ text)) := by
  intro text
  have hfind : Signs.standard.silent.find? (stripLineBreaks ("\x7b# c #\x7d".toList ++ text)) =
      some ⟨[], " c ".toList, text⟩ := by rfl
  have hnone : Signs.standard.silent.find? text = none := by rfl
  have hpreprocess : Signs.standard.preprocess ("\x7b# c #\x7d".toList ++ text) = text := by
    rw [Signs.preprocess, Markers.erase_of_find?_some hfind, Markers.erase_of_find?_none hnone]
    rfl
  have herror : ((ofConfig .standard).scan ("\x7b# c #\x7d".toList ++ text)).result =
      .error (.blockEndOutside (Place.ofByte text 0)) := by
    rw [scan, show (ofConfig .standard).signs = Signs.standard from rfl, hpreprocess]
    rfl
  obtain ⟨word, hword, hpoints, -⟩ := column_of_error (.inl herror) rfl (List.cons_ne_nil _ _)
  cases List.mem_singleton.mp hword
  exact hpoints

/-- Behind a silent comment the column does not count the characters of the source. -/
theorem column_of_error_silent :
    let source := "\x7b# c #\x7d\x7b\x7bx|nope\x7d\x7d".toList
    ∃ place, ((ofConfig .standard).scan source).result = .error (.unknownFilter "nope" place) ∧
      place.column = 5 ∧ ¬ place.PointsAt "nope".toList (stripLineBreaks source) := by
  intro source
  let text := "\x7b\x7bx|nope\x7d\x7d".toList
  have hfind : Signs.standard.silent.find? (stripLineBreaks source) =
      some ⟨[], " c ".toList, text⟩ := by rfl
  have hnone : Signs.standard.silent.find? text = none := by rfl
  have hpreprocess : Signs.standard.preprocess source = text := by
    rw [Signs.preprocess, Markers.erase_of_find?_some hfind, Markers.erase_of_find?_none hnone]
    rfl
  have htokens : Lexer.tokens "x|nope".toList =
      .ok [⟨.name "x", 0⟩, ⟨.sign .pipe, 1⟩, ⟨.name "nope", 2⟩] := by
    have hnope : Lexer.tokensFrom 2 "nope".toList = .ok [⟨.name "nope", 2⟩] :=
      (Lexer.tokensFrom_lexeme (by decide) (by rfl)).trans
        (congrArg (Except.map (⟨.name "nope", 2⟩ :: ·)) (Lexer.tokensFrom.eq_1 6))
    have hpipe : Lexer.tokensFrom 1 "|nope".toList =
        .ok [⟨.sign .pipe, 1⟩, ⟨.name "nope", 2⟩] :=
      (Lexer.tokensFrom_lexeme (by decide) (by rfl)).trans
        (congrArg (Except.map (⟨.sign .pipe, 1⟩ :: ·)) hnope)
    exact (Lexer.tokensFrom_lexeme (by decide) (by rfl)).trans
      (congrArg (Except.map (⟨.name "x", 0⟩ :: ·)) hpipe)
  have hparse : Pipeline.parse "x|nope".toList = .ok ⟨.name "x", [("nope", 2)]⟩ := by
    rw [Pipeline.parse, Grammar.start_eq_ok_iff.mpr ⟨_, htokens, rfl⟩]
    rfl
  have hpieces : Signs.standard.pieces text =
      [.directive ⟨.output, 0, 2, "x|nope".toList, 10⟩] := by rfl
  refine ⟨Place.ofByte text 4, ?_, rfl, ?_⟩
  · rw [scan, show (ofConfig .standard).signs = Signs.standard from rfl, hpreprocess]
    simp only [Signs.scan, hpieces, Piece.readAll, Piece.read, Directive.read, Directive.output,
      hparse]
    rfl
  · rintro ⟨before, behind, htext, hcolumn⟩
    have hlength : before.length = 4 := (Nat.succ.inj hcolumn).symm
    have hdrop := congrArg (List.drop 4) htext
    rw [List.drop_left' hlength] at hdrop
    exact absurd (List.cons.inj hdrop).1 (by decide)

end Engine

end Stencil
