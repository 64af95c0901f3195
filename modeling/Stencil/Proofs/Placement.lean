import Stencil.Proofs.Remembering
import Stencil.Proofs.Result

/-! # Places of directives

Where the directives of a divided text stand, and what becomes of a division and of its segments
when the text is moved. With the standard markers a text has only one division.
-/

namespace Stencil

/-- A byte that is moved: `loss` bytes before it are replaced by `gain` bytes. -/
def moveByte (loss gain offset : Nat) : Nat := offset + gain - loss

namespace Directive

/-- A directive in a text that starts at byte `pos` stands there between its markers. -/
structure StandsIn (signs : Signs) (pos : Nat) (cs : List Char) (d : Directive) : Prop where
  place : ∃ before behind, cs = before ++ ((signs.get d.kind).opening ++
    (d.body ++ ((signs.get d.kind).closing ++ behind))) ∧ d.start = pos + Text.size before
  bodyStart : d.bodyStart = d.start + Text.size (signs.get d.kind).opening
  stop : d.stop = d.bodyStart + Text.size d.body + Text.size (signs.get d.kind).closing

def moved (loss gain : Nat) (d : Directive) : Directive :=
  { d with
    start := moveByte loss gain d.start
    bodyStart := moveByte loss gain d.bodyStart
    stop := moveByte loss gain d.stop }

end Directive

def Piece.moved (loss gain : Nat) : Piece → Piece
  | text content => text content
  | directive d => directive (d.moved loss gain)

def Segment.moved (loss gain : Nat) : Segment → Segment
  | .statement s offset => .statement s (moveByte loss gain offset)
  | segment => segment

namespace Piece

theorem map_moved_ofText (loss gain : Nat) (cs : List Char) :
    (ofText cs).map (moved loss gain) = ofText cs := by
  cases cs with
  | nil => rfl
  | cons c cs => rfl

theorem directive_not_mem_ofText (d : Directive) (cs : List Char) : directive d ∉ ofText cs := by
  cases cs with
  | nil => simp [ofText]
  | cons c cs => simp [ofText]

theorem directive_mem_ofText_append_cons {d e : Directive} {cs : List Char}
    {pieces : List Piece} (h : directive d ∈ ofText cs ++ directive e :: pieces) :
    d = e ∨ directive d ∈ pieces := by
  rcases List.mem_append.mp h with htext | hrest
  · exact absurd htext (directive_not_mem_ofText d cs)
  · rcases List.mem_cons.mp hrest with heq | hrest
    · exact .inl (directive.inj heq)
    · exact .inr hrest

/-- A directive of a division is the next one or one of those behind it. -/
theorem ofText_append_cons_eq {cs : List Char} {e d : Directive} {pieces front back : List Piece}
    (h : ofText cs ++ directive e :: pieces = front ++ directive d :: back) :
    (front = ofText cs ∧ e = d ∧ pieces = back) ∨
      ∃ more, front = ofText cs ++ directive e :: more ∧ pieces = more ++ directive d :: back := by
  rcases List.append_eq_append_iff.mp h with ⟨more, rfl, hrest⟩ | ⟨more, htext, hrest⟩
  · cases more with
    | nil =>
        rw [List.nil_append, List.cons.injEq, directive.injEq] at hrest
        exact .inl ⟨List.append_nil _, hrest⟩
    | cons piece more =>
        rw [List.cons_append, List.cons.injEq] at hrest
        obtain ⟨rfl, rfl⟩ := hrest
        exact .inr ⟨more, rfl, rfl⟩
  · cases more with
    | nil =>
        rw [List.nil_append, List.cons.injEq, directive.injEq] at hrest
        rw [List.append_nil] at htext
        exact .inl ⟨htext.symm, hrest.1.symm, hrest.2.symm⟩
    | cons piece more =>
        rw [List.cons_append, List.cons.injEq] at hrest
        have hmem : directive d ∈ ofText cs := by
          rw [htext, hrest.1]
          exact List.mem_append_right _ List.mem_cons_self
        exact absurd hmem (directive_not_mem_ofText d cs)

end Piece

namespace Signs

variable {signs : Signs} {pos : Nat} {cs : List Char} {pieces : List Piece}

theorem standsIn_directive {kind : Kind} {hit : Hit} (h : (signs.get kind).find? cs = some hit)
    (pos : Nat) : (signs.directive kind pos hit).StandsIn signs pos cs where
  place := ⟨hit.before, hit.behind, Markers.eq_of_find? h, rfl⟩
  bodyStart := rfl
  stop := rfl

/-- Every directive of a division stands in the text, and none stands before its start. -/
theorem Divides.standsIn (h : signs.Divides pos cs pieces) {d : Directive}
    (hd : .directive d ∈ pieces) : d.StandsIn signs pos cs := by
  induction h with
  | rest => exact absurd hd (Piece.directive_not_mem_ofText d _)
  | @directive pos cs pieces kind hit hnext _ ih =>
      rcases Piece.directive_mem_ofText_append_cons hd with rfl | hrest
      · exact standsIn_directive hnext.found pos
      · obtain ⟨before, behind, hbehind, hstart⟩ := (ih hrest).place
        obtain ⟨pre, hpre, hstop⟩ := exists_append_behind hnext.found pos
        refine ⟨⟨pre ++ before, behind, ?_, ?_⟩, (ih hrest).bodyStart, (ih hrest).stop⟩
        · rw [List.append_assoc, ← hbehind, hpre]
        · rw [hstart, hstop, Text.size_append, Nat.add_assoc]

theorem Divides.moved (h : signs.Divides pos cs pieces) {loss gain : Nat} (hle : loss ≤ pos) :
    signs.Divides (moveByte loss gain pos) cs (pieces.map (Piece.moved loss gain)) := by
  induction h with
  | rest hnone =>
      rw [Piece.map_moved_ofText]
      exact .rest hnone
  | @directive pos cs pieces kind hit hnext _ ih =>
      have hmove : ∀ n, moveByte loss gain (pos + n) = moveByte loss gain pos + n := by
        intro n
        simp only [moveByte]
        omega
      have hdirective : (signs.directive kind pos hit).moved loss gain =
          signs.directive kind (moveByte loss gain pos) hit := by
        simp only [Directive.moved, Signs.directive, place, Nat.add_assoc, hmove]
      have hstop : moveByte loss gain (signs.place kind pos hit).stop =
          (signs.place kind (moveByte loss gain pos) hit).stop := by
        simp only [place, Nat.add_assoc, hmove]
      have hrest := ih (by simp only [place]; omega)
      rw [hstop] at hrest
      rw [List.map_append, Piece.map_moved_ofText, List.map_cons, Piece.moved, hdirective]
      exact .directive kind hit hnext hrest

theorem kind_eq_of_standard_opening {k k' : Kind} {a a' : List Char}
    (h : (standard.get k).opening ++ a = (standard.get k').opening ++ a') : k = k' := by
  cases k <;> cases k' <;> simp_all [get, standard, Markers.ofChars]

theorem Next.unique {k k' : Kind} {hit hit' : Hit} (h : standard.Next cs k hit)
    (h' : standard.Next cs k' hit') : k = k' ∧ hit = hit' := by
  have hsize := Nat.le_antisymm (h.first k' hit' h'.found) (h'.first k hit h.found)
  have heq := (Markers.eq_of_find? h.found).symm.trans (Markers.eq_of_find? h'.found)
  obtain rfl := kind_eq_of_standard_opening (Text.append_inj_of_size_eq heq hsize).2
  exact ⟨rfl, Option.some.inj (h.found.symm.trans h'.found)⟩

/-- With the standard markers a text has only one division. -/
theorem Divides.unique {pieces' : List Piece} (h : standard.Divides pos cs pieces)
    (h' : standard.Divides pos cs pieces') : pieces = pieces' := by
  induction h generalizing pieces' with
  | rest hnone =>
      cases h' with
      | rest => rfl
      | directive kind hit hnext => exact nomatch (hnone kind).symm.trans hnext.found
  | directive kind hit hnext _ ih =>
      cases h' with
      | rest hnone => exact nomatch (hnone kind).symm.trans hnext.found
      | directive kind' hit' hnext' hrest' =>
          obtain ⟨rfl, rfl⟩ := hnext.unique hnext'
          rw [ih hrest']

end Signs

/-! ## Reading -/

namespace Directive

theorem toOption_resolve (registry : Registry) (source source' : List Char) (start start' : Nat)
    (names : List (String × Nat)) :
    (resolve registry source' start' names).toOption =
      (resolve registry source start names).toOption := by
  induction names with
  | nil => rfl
  | cons entry rest ih =>
      simp only [resolve]
      cases registry.get? entry.1 with
      | none => rfl
      | some filter => rw [toOption_bind, toOption_bind, ih]

theorem toOption_read_moved (d : Directive) (dialect : Dialect) (source source' : List Char)
    (loss gain : Nat) :
    ((d.moved loss gain).read dialect source').toOption =
      (d.read dialect source).toOption.map (Option.map (Segment.moved loss gain)) := by
  obtain ⟨kind, start, bodyStart, body, stop⟩ := d
  cases kind with
  | silent => rfl
  | comment => rfl
  | output =>
      simp only [read, moved, output]
      cases Pipeline.parse body with
      | error e => rfl
      | ok p =>
          simp only [toOption_map, toOption_bind,
            toOption_resolve dialect.registry source source' bodyStart]
          cases (resolve dialect.registry source bodyStart p.filters).toOption <;> rfl
  | statement =>
      simp only [read, moved, statement]
      by_cases hblank : (Text.trim (unescaped body)).isEmpty
      · simp only [hblank, if_true]
        rfl
      by_cases hword : !dialect.syntaxMode && (Keyword.leading? (unescaped body)).isSome
      · simp only [hblank, hword, if_true]
        rfl
      simp only [hblank, hword]
      cases if dialect.syntaxMode then Statement.parse (unescaped body)
        else Statement.parseRaw (unescaped body) with
      | error e => rfl
      | ok s => rfl
  | blockEnd =>
      simp only [read, moved]
      cases dialect.syntaxMode <;> rfl

end Directive

namespace Piece
variable {dialect : Dialect} {source : List Char}

theorem readAll_append_eq_ok_iff {front back : List Piece} {segments : List Segment} :
    readAll dialect source (front ++ back) = .ok segments ↔
      ∃ before behind, readAll dialect source front = .ok before ∧
        readAll dialect source back = .ok behind ∧ segments = before ++ behind := by
  induction front generalizing segments with
  | nil => simp [readAll]
  | cons piece front ih =>
      simp only [List.cons_append, readAll, bind_eq_ok_iff, ih]
      constructor
      · rintro ⟨segment, hsegment, _, ⟨before, behind, hbefore, hbehind, rfl⟩, heq⟩
        cases heq
        exact ⟨_, behind, ⟨segment, hsegment, before, hbefore, rfl⟩, hbehind,
          (List.append_assoc _ _ _).symm⟩
      · rintro ⟨_, behind, ⟨segment, hsegment, before, hbefore, heq⟩, hbehind, rfl⟩
        cases heq
        exact ⟨segment, hsegment, _, ⟨before, behind, hbefore, hbehind, rfl⟩,
          congrArg _ (List.append_assoc _ _ _).symm⟩

theorem toOption_readAll_moved (pieces : List Piece) (dialect : Dialect)
    (source source' : List Char) (loss gain : Nat) :
    (readAll dialect source' (pieces.map (moved loss gain))).toOption =
      (readAll dialect source pieces).toOption.map (List.map (Segment.moved loss gain)) := by
  induction pieces with
  | nil => rfl
  | cons piece pieces ih =>
      have hread : ((piece.moved loss gain).read dialect source').toOption =
          (piece.read dialect source).toOption.map (Option.map (Segment.moved loss gain)) := by
        cases piece with
        | text content => rfl
        | directive d => exact d.toOption_read_moved dialect source source' loss gain
      simp only [List.map_cons, readAll, toOption_bind, ih, hread]
      cases (piece.read dialect source).toOption with
      | none => rfl
      | some segment =>
          cases (readAll dialect source pieces).toOption with
          | none => rfl
          | some segments => cases segment <;> rfl

/-- Pieces that are moved are read as segments that are moved. -/
theorem readAll_moved_eq_ok_iff {dialect : Dialect} (source : List Char) {source' : List Char}
    {pieces : List Piece} {segments : List Segment} {loss gain : Nat} :
    readAll dialect source' (pieces.map (moved loss gain)) = .ok segments ↔
      ∃ old, readAll dialect source pieces = .ok old ∧
        old.map (Segment.moved loss gain) = segments := by
  rw [← toOption_eq_some_iff, toOption_readAll_moved pieces dialect source, Option.map_eq_some_iff]
  simp only [toOption_eq_some_iff]

/-- The text around a directive matters only for what is said about problems. -/
theorem readAll_eq_ok_iff_of_source {dialect : Dialect} (source : List Char)
    {source' : List Char} {pieces : List Piece} {segments : List Segment} :
    readAll dialect source' pieces = .ok segments ↔
      readAll dialect source pieces = .ok segments := by
  have hpieces : pieces.map (moved 0 0) = pieces :=
    List.map_id'' (fun piece => by cases piece <;> rfl) pieces
  have hsegments : ∀ old : List Segment, old.map (Segment.moved 0 0) = old :=
    List.map_id'' fun segment => by cases segment <;> rfl
  have h : readAll dialect source' (pieces.map (moved 0 0)) = .ok segments ↔ _ :=
    readAll_moved_eq_ok_iff source
  simpa only [hpieces, hsegments, exists_eq_right] using h

end Piece

end Stencil
