import Stencil.Proofs.Caching
import Stencil.Proofs.Column
import Stencil.Proofs.Pairing

/-! # Texts and comments pass through

The pieces of a text put together are the text. A template whose only directives are comments is
therefore rendered as it stands, if the markers of comments are those with which comments are
written.
-/

namespace Stencil

/-- What a piece takes up of a text. -/
def Piece.written (signs : Signs) : Piece → List Char
  | text content => content
  | directive d => (signs.get d.kind).wrap d.body

theorem Piece.flatMap_written_ofText (signs : Signs) (cs : List Char) :
    (ofText cs).flatMap (written signs) = cs := by
  cases cs with
  | nil => rfl
  | cons c cs => simp [ofText, written]

/-- A division loses nothing of a text. -/
theorem Signs.Divides.flatMap_written {signs : Signs} {pos : Nat} {cs : List Char}
    {pieces : List Piece} (h : signs.Divides pos cs pieces) :
    pieces.flatMap (Piece.written signs) = cs := by
  induction h with
  | rest => exact Piece.flatMap_written_ofText signs _
  | directive kind hit hnext _ ih =>
      rw [List.flatMap_append, Piece.flatMap_written_ofText, List.flatMap_cons, ih]
      simp only [Piece.written, Markers.wrap, List.append_assoc]
      exact (Markers.eq_of_find? hnext.found).symm

/-! ## Pieces without effect -/

namespace Piece

/-- The segment of a text or of a comment. -/
def kept : Piece → Segment
  | text content => .text content
  | directive d => .comment d.body

/-- The node of a text or of a comment. -/
def keptNode : Piece → Node
  | text content => .text content
  | directive d => .comment d.body

variable {pieces : List Piece}

theorem readAll_kept (h : ∀ d, directive d ∈ pieces → d.kind = .comment) (dialect : Dialect)
    (source : List Char) : readAll dialect source pieces = .ok (pieces.map kept) := by
  induction pieces with
  | nil => rfl
  | cons piece pieces ih =>
      have hpiece : piece.read dialect source = .ok (some piece.kept) := by
        cases piece with
        | text content => rfl
        | directive d =>
            rw [read, Directive.read, h d List.mem_cons_self]
            rfl
      rw [readAll, hpiece, ih fun d hd => h d (List.mem_cons_of_mem _ hd)]
      rfl

theorem ofSegments_kept (pieces : List Piece) :
    Node.ofSegments (pieces.map kept) = .ok (pieces.map keptNode) := by
  have hsteps : ∀ b : Builder,
      b.steps (pieces.map kept) = .ok (b.addAll (pieces.map keptNode)) := by
    -- Every step changes the builder, so the induction is for all of them.
    induction pieces with
    | nil => exact fun b => rfl
    | cons piece pieces ih =>
        intro b
        cases piece with
        | text content => exact ih (b.add (.text content))
        | directive d => exact ih (b.add (.comment d.body))
  rw [Node.ofSegments, hsteps, Builder.empty, Builder.addAll_root, List.append_nil]
  exact congrArg Except.ok (List.reverse_reverse _)

/-- Comments are written between their markers. -/
theorem renderAll_keptNode {signs : Signs} (hopening : signs.comment.opening = "<!--".toList)
    (hclosing : signs.comment.closing = "-->".toList)
    (h : ∀ d, directive d ∈ pieces → d.kind = .comment) (env : Env) :
    Node.renderAll env (pieces.map keptNode) = .ok (pieces.flatMap (written signs), env) := by
  induction pieces with
  | nil => rfl
  | cons piece pieces ih =>
      have hpiece : piece.keptNode.render env = .ok (piece.written signs, env) := by
        cases piece with
        | text content => rfl
        | directive d =>
            rw [written, Markers.wrap, h d List.mem_cons_self, Signs.get, hopening, hclosing,
              ← List.append_assoc]
            rfl
      rw [List.map_cons, Node.renderAll, hpiece, List.flatMap_cons]
      simp only [bind, Except.bind]
      rw [ih fun d hd => h d (List.mem_cons_of_mem _ hd)]

end Piece

/-! ## Templates -/

theorem Compiled.ofSource_kept {signs : Signs} {source : List Char}
    (h : ∀ d, .directive d ∈ signs.pieces (signs.preprocess source) → d.kind = .comment)
    (dialect : Dialect) :
    ofSource signs dialect source =
      .ok ⟨(signs.pieces (signs.preprocess source)).map Piece.kept,
        (signs.pieces (signs.preprocess source)).map Piece.keptNode⟩ := by
  simp only [ofSource, Signs.scan, Piece.readAll_kept h, bind, Except.bind, Piece.ofSegments_kept]

namespace Signs

variable {signs : Signs} {source : List Char}

theorem directive_not_mem_pieces (h : ∀ kind, ¬ (signs.get kind).opening <:+: source)
    (d : Directive) : .directive d ∉ signs.pieces source := by
  intro hd
  obtain ⟨before, behind, htext, -⟩ := ((signs.pieces_divides source).standsIn hd).place
  apply h d.kind
  rw [htext, ← List.append_assoc]
  exact List.infix_append before _ _

theorem preprocess_eq_stripLineBreaks
    (h : ¬ signs.silent.opening <:+: stripLineBreaks source) :
    signs.preprocess source = stripLineBreaks source :=
  Markers.erase_of_find?_none (Markers.find?_eq_none_of_not_infix h)

end Signs

namespace Engine

/-- Texts and comments pass through unchanged. A template in which no directive but comments is
found is rendered as the text that is scanned, and one without any opening marker as its source
without line breaks. -/
theorem render_passthrough {config : Config}
    (hopening : config.signs.comment.opening = "<!--".toList)
    (hclosing : config.signs.comment.closing = "-->".toList) (ops : List Operation)
    (source : List Char)
    (hdigest : config.cache = true → ∀ op ∈ ops, ∀ other, op.source? = some other →
      Digest.ofText other = Digest.ofText source → other = source) (data : Value) :
    ((∀ d, .directive d ∈ config.signs.pieces (config.signs.preprocess source) →
        d.kind = .comment) →
      (((ofConfig config).after ops).render source data).result =
        .ok (config.signs.preprocess source)) ∧
    ((∀ kind, ¬ (config.signs.get kind).opening <:+: stripLineBreaks source) →
      (((ofConfig config).after ops).render source data).result =
        .ok (stripLineBreaks source)) := by
  have hsigns : ((ofConfig config).after ops).signs = config.signs := signs_after _ ops
  have hcomments :
      (∀ d, .directive d ∈ config.signs.pieces (config.signs.preprocess source) →
        d.kind = .comment) →
      (((ofConfig config).after ops).render source data).result =
        .ok (config.signs.preprocess source) := by
    intro h
    rw [render_result, prepare_after_result hdigest, freshly, hsigns, Compiled.ofSource_kept h,
      Except.bind, Compiled.render, renderNodes, Piece.renderAll_keptNode hopening hclosing h,
      (config.signs.pieces_divides _).flatMap_written]
    rfl
  refine ⟨hcomments, ?_⟩
  intro h
  have hpreprocess := Signs.preprocess_eq_stripLineBreaks (h .silent)
  rw [← hpreprocess]
  apply hcomments
  intro d hd
  rw [hpreprocess] at hd
  exact absurd hd (Signs.directive_not_mem_pieces h d)

/-- Markers that open or close nothing, a comment with a directive inside, other markers for
statements, and a silent comment, in an engine that has compiled the template before. -/
theorem render_passthrough_stray :
    let config := { Config.standard with
      cache := true, signs := Signs.standard.set .statement (.ofChars '%' [] '%' []) }
    let source := "\x7d\x7d<!--\x7b\x7bx\x7d\x7d-->\n\x7b@y@\x7d\x7b#c#\x7d\x7b\x7b".toList
    let text := "\x7d\x7d<!--\x7b\x7bx\x7d\x7d-->\x7b@y@\x7d\x7b\x7b".toList
    let plain := "a\x7d\x7d\nb".toList
    let e := (ofConfig config).after [.register "twice" fun cs => cs ++ cs, .compile source .null]
    (e.render source .null).result = .ok text ∧
      (e.render plain (.object [])).result = .ok "a\x7d\x7db".toList := by
  intro config source text plain e
  have hfind : config.signs.silent.find? (stripLineBreaks source) =
      some ⟨"\x7d\x7d<!--\x7b\x7bx\x7d\x7d-->\x7b@y@\x7d".toList, "c".toList,
        "\x7b\x7b".toList⟩ := by rfl
  have hnone : config.signs.silent.find? "\x7b\x7b".toList = none := by rfl
  have hpreprocess : config.signs.preprocess source = text := by
    rw [Signs.preprocess, Markers.erase_of_find?_some hfind, Markers.erase_of_find?_none hnone]
    rfl
  have hpieces : config.signs.pieces text =
      [.text "\x7d\x7d".toList, .directive ⟨.comment, 2, 6, "\x7b\x7bx\x7d\x7d".toList, 14⟩,
        .text "\x7b@y@\x7d\x7b\x7b".toList] := by rfl
  have hne : Digest.ofText source ≠ Digest.ofText plain := by decide +kernel
  constructor
  · have hpass := (@render_passthrough config rfl rfl
      [.register "twice" fun cs => cs ++ cs, .compile source .null] source
      (by simp [Operation.source?]) .null).1
    rw [hpreprocess, hpieces] at hpass
    exact hpass (by simp)
  · have hpass := (@render_passthrough config rfl rfl
      [.register "twice" fun cs => cs ++ cs, .compile source .null] plain
      (by simp [Operation.source?, hne]) (.object [])).2
    apply hpass
    intro kind
    cases kind <;> decide +kernel

end Engine

end Stencil
