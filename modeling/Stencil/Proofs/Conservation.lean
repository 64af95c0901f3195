import Stencil.Proofs.Remembering
import Stencil.Proofs.Result

/-! # What a scan conserves

A scanned text is a row of literal texts and complete directives. Its segments list them in
order, every literal text as it stands, and no literal text hides a directive.
-/

namespace Stencil

/-- A body between its markers. -/
def Markers.wrap (m : Markers) (body : List Char) : List Char := m.opening ++ (body ++ m.closing)

/-- The segment of a literal text; the empty text has none. -/
def Segment.ofText : List Char → List Segment
  | [] => []
  | c :: cs => [.text (c :: cs)]

namespace Directive

/-- What a directive stands for, by its kind, the byte at which it starts, and its body: one
segment of the same kind, or nothing if it is a blank statement. -/
inductive StandsFor : Kind → Nat → List Char → Option Segment → Prop
  | silent (pos : Nat) (body : List Char) : StandsFor .silent pos body (some .silent)
  | comment (pos : Nat) (body : List Char) :
      StandsFor .comment pos body (some (.comment body))
  | output {body} (pos : Nat) (p : Pipeline) (out : Output) (hp : Pipeline.parse body = .ok p)
      (hexpr : out.expr = p.base)
      (hfilters : out.filters.map FilterCall.name = p.filters.map Prod.fst) :
      StandsFor .output pos body (some (.output out))
  | statement {body} (pos : Nat) (s : Statement) (hbody : Text.trim (unescaped body) ≠ [])
      (hs : Statement.parse (unescaped body) = .ok s ∨
        Statement.parseRaw (unescaped body) = .ok s) :
      StandsFor .statement pos body (some (.statement s pos))
  | blank {body} (pos : Nat) (hbody : Text.trim (unescaped body) = []) :
      StandsFor .statement pos body none
  | blockEnd (pos : Nat) (body : List Char) :
      StandsFor .blockEnd pos body (some (.statement .close pos))

/-- The filters of a pipeline are looked up under their names, and all of them are found. -/
theorem resolve_eq_ok_iff {registry : Registry} {source : List Char} {start : Nat}
    {names : List (String × Nat)} {calls : List FilterCall} :
    resolve registry source start names = .ok calls ↔
      calls.map FilterCall.name = names.map Prod.fst ∧
        ∀ call ∈ calls, registry.get? call.name = some call.apply := by
  induction names generalizing calls with
  | nil =>
      constructor
      · intro h
        cases h
        exact ⟨rfl, fun _ hmem => nomatch hmem⟩
      · rintro ⟨hnames, -⟩
        rw [List.map_eq_nil_iff.mp hnames, resolve]
  | cons entry rest ih =>
      obtain ⟨name, offset⟩ := entry
      constructor
      · intro h
        unfold resolve at h
        split at h
        next => exact nomatch h
        next filter hfilter =>
          obtain ⟨others, hothers, heq⟩ := bind_eq_ok_iff.mp h
          cases heq
          obtain ⟨hnames, hfound⟩ := ih.mp hothers
          exact ⟨congrArg _ hnames, List.forall_mem_cons.mpr ⟨hfilter, hfound⟩⟩
      · rintro ⟨hnames, hfound⟩
        obtain ⟨call, others, rfl, hname, hothers⟩ := List.map_eq_cons_iff.mp hnames
        obtain ⟨hcall, hfound⟩ := List.forall_mem_cons.mp hfound
        obtain rfl : call.name = name := hname
        simp only [resolve, hcall]
        exact bind_eq_ok_iff.mpr ⟨others, ih.mpr ⟨hothers, hfound⟩, rfl⟩

/-- A directive that can be read stands for the segment that it is read as. -/
theorem standsFor_of_read {dialect : Dialect} {source : List Char} {d : Directive}
    {segment : Option Segment} (h : d.read dialect source = .ok segment) :
    StandsFor d.kind d.start d.body segment := by
  obtain ⟨kind, start, bodyStart, body, stop⟩ := d
  cases kind with
  | silent =>
      cases h
      exact .silent start body
  | comment =>
      cases h
      exact .comment start body
  | output =>
      obtain ⟨out, hout, rfl⟩ := map_eq_ok_iff.mp h
      unfold output at hout
      split at hout
      next => exact nomatch hout
      next p hp =>
        obtain ⟨filters, hfilters, heq⟩ := bind_eq_ok_iff.mp hout
        cases heq
        exact .output start p _ hp rfl (resolve_eq_ok_iff.mp hfilters).1
  | statement =>
      simp only [read, statement] at h
      split at h
      next hblank =>
        cases h
        exact .blank start (List.isEmpty_iff.mp hblank)
      next hblank =>
        have hbody : Text.trim (unescaped body) ≠ [] := fun hnil =>
          hblank (List.isEmpty_iff.mpr hnil)
        split at h
        next => exact nomatch h
        next =>
          split at h
          next => exact nomatch h
          next s hs =>
            cases h
            refine .statement start s hbody ?_
            split at hs
            next => exact .inl hs
            next => exact .inr hs
  | blockEnd =>
      simp only [read] at h
      split at h
      next =>
        cases h
        exact .blockEnd start body
      next => exact nomatch h

end Directive

namespace Signs

/-- Somewhere in a text there is a complete directive. -/
def HasDirective (signs : Signs) (cs : List Char) : Prop :=
  ∃ kind before body behind, (signs.get kind).Encloses body ∧
    cs = before ++ ((signs.get kind).wrap body ++ behind)

/-- A text that starts at byte `pos` is a row of literal texts without directives, with complete
directives between them, and the segments are those of its parts in order. -/
inductive Layout (signs : Signs) : Nat → List Char → List Segment → Prop
  | rest {literal} (pos : Nat) (h : ¬ signs.HasDirective literal) :
      Layout signs pos literal (Segment.ofText literal)
  | directive {literal body rest segment segments} (pos : Nat) (kind : Kind)
      (h : ¬ signs.HasDirective literal) (hbody : (signs.get kind).Encloses body)
      (hsegment : Directive.StandsFor kind (pos + Text.size literal) body segment)
      (hrest : Layout signs
        (pos + Text.size literal + Text.size ((signs.get kind).wrap body)) rest segments) :
      Layout signs pos (literal ++ ((signs.get kind).wrap body ++ rest))
        (Segment.ofText literal ++ (segment.toList ++ segments))

variable {signs : Signs}

/-- A text in which no search finds anything has no directive. -/
theorem not_hasDirective_of_find? {cs : List Char}
    (h : ∀ kind, (signs.get kind).find? cs = none) : ¬ signs.HasDirective cs := by
  rintro ⟨kind, before, body, behind, hbody, heq⟩
  refine Markers.find?_eq_none_iff.mp (h kind) before body behind hbody ?_
  rw [heq, Markers.wrap, List.append_assoc, List.append_assoc]

/-- Before the first directive of all kinds there is no directive. -/
theorem Next.not_hasDirective {cs : List Char} {kind : Kind} {hit : Hit}
    (h : signs.Next cs kind hit) : ¬ signs.HasDirective hit.before := by
  rintro ⟨k, before, body, behind, hbody, heq⟩
  -- a directive in the text before would be a directive of the whole text that starts earlier
  have hcs := Markers.eq_of_find? h.found
  rw [heq] at hcs
  simp only [Markers.wrap, List.append_assoc] at hcs
  cases hfind : (signs.get k).find? cs with
  | none => exact Markers.find?_eq_none_iff.mp hfind before body _ hbody hcs
  | some other =>
      obtain ⟨hother, -, hfirst⟩ := Markers.find?_eq_some_iff.mp hfind
      have hle := h.first k other hfind
      have hle' := hfirst before _ (hother.symm.trans hcs)
      have hopening := Text.size_pos (signs.get k).opening_ne_nil
      rw [heq] at hle
      simp only [Markers.wrap, Text.size_append] at hle
      omega

end Signs

namespace Piece

variable {dialect : Dialect} {source : List Char}

theorem readAll_ofText_append {cs : List Char} {pieces : List Piece} {segments : List Segment}
    (h : readAll dialect source (ofText cs ++ pieces) = .ok segments) :
    ∃ rest, readAll dialect source pieces = .ok rest ∧ segments = Segment.ofText cs ++ rest := by
  cases cs with
  | nil => exact ⟨segments, h, rfl⟩
  | cons c cs =>
      obtain ⟨segment, hsegment, h⟩ := bind_eq_ok_iff.mp h
      obtain ⟨rest, hrest, heq⟩ := bind_eq_ok_iff.mp h
      cases hsegment
      cases heq
      exact ⟨rest, hrest, rfl⟩

theorem readAll_directive {d : Directive} {pieces : List Piece} {segments : List Segment}
    (h : readAll dialect source (.directive d :: pieces) = .ok segments) :
    ∃ segment rest, d.read dialect source = .ok segment ∧
      readAll dialect source pieces = .ok rest ∧ segments = segment.toList ++ rest := by
  obtain ⟨segment, hsegment, h⟩ := bind_eq_ok_iff.mp h
  obtain ⟨rest, hrest, heq⟩ := bind_eq_ok_iff.mp h
  cases heq
  exact ⟨segment, rest, hsegment, hrest, rfl⟩

end Piece

namespace Signs

variable {signs : Signs}

theorem stop_place (kind : Kind) (pos : Nat) (hit : Hit) :
    (signs.place kind pos hit).stop =
      pos + Text.size hit.before + Text.size ((signs.get kind).wrap hit.body) := by
  simp only [place, Markers.wrap, Text.size_append, Nat.add_assoc]

/-- The segments of a divided text lay it out. -/
theorem Divides.layout {dialect : Dialect} {source cs : List Char} {pos : Nat}
    {pieces : List Piece} {segments : List Segment} (h : signs.Divides pos cs pieces)
    (hread : Piece.readAll dialect source pieces = .ok segments) :
    signs.Layout pos cs segments := by
  induction h generalizing segments with
  | rest hnone =>
      rw [← List.append_nil (Piece.ofText _)] at hread
      obtain ⟨rest, hrest, rfl⟩ := Piece.readAll_ofText_append hread
      cases hrest
      rw [List.append_nil]
      exact .rest _ (not_hasDirective_of_find? hnone)
  | directive kind hit hnext _ ih =>
      obtain ⟨rest, hrest, rfl⟩ := Piece.readAll_ofText_append hread
      obtain ⟨segment, others, hsegment, hothers, rfl⟩ := Piece.readAll_directive hrest
      have hbody := (Markers.find?_eq_some_iff.mp hnext.found).2.1
      have hcs := Markers.eq_of_find? hnext.found
      have hlayout := ih hothers
      rw [stop_place] at hlayout
      have hall := Layout.directive _ kind hnext.not_hasDirective hbody
        (Directive.standsFor_of_read hsegment) hlayout
      simp only [Markers.wrap, List.append_assoc] at hall
      rwa [hcs]

/-- A scan that succeeds conserves the template and misses no directive: the template is a row
of literal texts and complete directives, and the segments are exactly those of its parts. -/
theorem scan_layout {dialect : Dialect} {source : List Char} {segments : List Segment}
    (h : signs.scan dialect source = .ok segments) : signs.Layout 0 source segments :=
  (signs.pieces_divides source).layout h

/-- A comment with an opening marker inside, a blank statement, and statements behind a character
of two bytes. -/
theorem scan_layout_mixed :
    let source := "é<!-- \x7b\x7b c -->\x7b@ @\x7d\x7b@ else @\x7d\x7b/@ x @\x7d \x7d\x7d".toList
    let segments : List Segment :=
      [.text "é".toList, .comment " \x7b\x7b c ".toList, .statement .otherwise 20,
        .statement .close 30, .text " \x7d\x7d".toList]
    standard.scan ⟨.builtin, true⟩ source = .ok segments ∧ standard.Layout 0 source segments := by
  have h : standard.scan ⟨.builtin, true⟩
      "é<!-- \x7b\x7b c -->\x7b@ @\x7d\x7b@ else @\x7d\x7b/@ x @\x7d \x7d\x7d".toList =
      .ok [.text "é".toList, .comment " \x7b\x7b c ".toList, .statement .otherwise 20,
        .statement .close 30, .text " \x7d\x7d".toList] := by rfl
  exact ⟨h, scan_layout h⟩

end Signs

end Stencil
