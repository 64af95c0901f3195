import Mathlib.Order.Bounds.Basic
import Stencil.Proofs.Remembering

/-! # The first match of a pair of markers

A match is an opening marker and a closing marker with at least one character between them, told
by the bytes at which the two stand in the whole text. The search tries only the first opening
marker behind the place where it starts. It still finds the match with the least start, and of
those the one whose closing marker comes first; it fails only where there is no match at all.
-/

namespace Stencil

namespace Text

/-- `needle` stands at byte `n` of a text. -/
def OccursAt (source needle : List Char) (n : Nat) : Prop :=
  ∃ pre post, source = pre ++ (needle ++ post) ∧ size pre = n

/-- Byte `n` of a text starts a character or is the end of the text. -/
def IsBoundary (source : List Char) (n : Nat) : Prop :=
  ∃ pre post, source = pre ++ post ∧ size pre = n

theorem isBoundary_iff {source : List Char} {n : Nat} :
    IsBoundary source n ↔ ∃ cs, drop? n source = some cs := by
  simp only [drop?_eq_some_iff, IsBoundary]
  exact exists_comm

/-- What occurs behind a start of a text occurs in the rest of it. -/
theorem OccursAt.behind {pre cs needle : List Char} {n : Nat}
    (h : OccursAt (pre ++ cs) needle n) (hle : size pre ≤ n) :
    ∃ x post, cs = x ++ (needle ++ post) ∧ n = size pre + size x := by
  obtain ⟨before, post, heq, rfl⟩ := h
  obtain ⟨x, rfl, rfl⟩ := exists_append_of_size_le heq hle
  exact ⟨x, post, rfl, size_append pre x⟩

end Text

namespace Markers

open Text (OccursAt IsBoundary)

/-- An opening marker at byte `start` has a character behind it, and a closing marker stands at
byte `close`, which is not before the end of that character. -/
structure MatchAt (m : Markers) (source : List Char) (start close : Nat) : Prop where
  opened : ∃ first, OccursAt source (m.opening ++ [first]) start ∧
    start + Text.size m.opening + first.utf8Size ≤ close
  closed : OccursAt source m.closing close

/-- The first match at or behind byte `offset` of a text. It starts at the first opening marker
there. -/
structure FirstMatch (m : Markers) (source : List Char) (offset : Nat) (o : Occurrence) :
    Prop where
  start : IsLeast {s | offset ≤ s ∧ ∃ c, m.MatchAt source s c} o.start
  opening : IsLeast {s | offset ≤ s ∧ OccursAt source m.opening s} o.start
  bodyStart : o.bodyStart = o.start + Text.size m.opening
  bodyStop : IsLeast {c | m.MatchAt source o.start c} o.bodyStop
  stop : o.stop = o.bodyStop + Text.size m.closing

variable {m : Markers} {pre cs source : List Char} {s c offset : Nat}

/-- A match behind a start of a text divides the rest of it. -/
theorem matchAt_iff (hle : Text.size pre ≤ s) :
    m.MatchAt (pre ++ cs) s c ↔ ∃ x first y post,
      cs = x ++ (m.opening ++ (first :: (y ++ (m.closing ++ post)))) ∧
        s = Text.size pre + Text.size x ∧
        c = s + Text.size m.opening + first.utf8Size + Text.size y := by
  constructor
  · rintro ⟨⟨first, hopened, hfirst⟩, hclosed⟩
    obtain ⟨x, rest, rfl, rfl⟩ := hopened.behind hle
    have hdivided : pre ++ (x ++ (m.opening ++ [first] ++ rest)) =
        (pre ++ (x ++ (m.opening ++ [first]))) ++ rest := by
      simp only [List.append_assoc]
    rw [hdivided] at hclosed
    obtain ⟨y, post, rfl, rfl⟩ := hclosed.behind (by simp; omega)
    refine ⟨x, first, y, post, by simp, rfl, ?_⟩
    simp
    omega
  · rintro ⟨x, first, y, post, rfl, rfl, rfl⟩
    refine ⟨⟨first, ⟨pre ++ x, y ++ (m.closing ++ post), by simp, by simp⟩, by omega⟩,
      ⟨pre ++ (x ++ (m.opening ++ (first :: y))), post, by simp, ?_⟩⟩
    simp
    omega

/-- The search fails exactly if there is no match in what it looks through. -/
theorem find?_eq_none_iff_matchAt :
    m.find? cs = none ↔ ∀ s c, Text.size pre ≤ s → ¬ m.MatchAt (pre ++ cs) s c := by
  constructor
  · intro h s c hle hmatch
    obtain ⟨x, first, y, post, rfl, -, -⟩ := (matchAt_iff hle).mp hmatch
    have hclosing : m.closing <:+: y ++ (m.closing ++ post) := by
      rw [← List.append_assoc]
      exact List.infix_append y m.closing post
    obtain ⟨hit, hfind, -⟩ : ∃ hit,
        m.find? (x ++ (m.opening ++ (first :: (y ++ (m.closing ++ post))))) = some hit ∧
          Text.size hit.before ≤ Text.size x := exists_find?_of_closing hclosing
    rw [h] at hfind
    exact nomatch hfind
  · intro h
    cases hfind : m.find? cs with
    | none => rfl
    | some hit =>
        obtain ⟨heq, ⟨first, more, hbody, -⟩, -⟩ := find?_eq_some_iff.mp hfind
        have hle : Text.size pre ≤ Text.size pre + Text.size hit.before := Nat.le_add_right _ _
        refine absurd ((matchAt_iff hle).mpr ⟨hit.before, first, more, hit.behind, ?_, rfl, rfl⟩)
          (h _ _ hle)
        rw [heq, hbody, List.cons_append]

/-- The closing markers that make a match with what the search found as the opening marker do
not stand before the one that it found. -/
theorem isLeast_matchAt_of_find? (pre : List Char) {hit : Hit} (h : m.find? cs = some hit) :
    IsLeast {c | m.MatchAt (pre ++ cs) (Text.size pre + Text.size hit.before) c}
      (Text.size pre + Text.size hit.before + Text.size m.opening + Text.size hit.body) := by
  obtain ⟨heq, ⟨first, more, hbody, hfirst⟩, -⟩ := find?_eq_some_iff.mp h
  have hle : Text.size pre ≤ Text.size pre + Text.size hit.before := Nat.le_add_right _ _
  rw [hbody, List.cons_append] at heq
  constructor
  · refine (matchAt_iff hle).mpr ⟨hit.before, first, more, hit.behind, heq, rfl, ?_⟩
    rw [hbody, Text.size_cons, Nat.add_assoc _ first.utf8Size]
  · intro c hmatch
    obtain ⟨x, first', y, post, hcs, hx, rfl⟩ := (matchAt_iff hle).mp hmatch
    -- both divisions have the same opening marker, so the closing markers are compared behind it
    obtain ⟨rfl, hrest⟩ := Text.append_inj_of_size_eq (heq.symm.trans hcs) (by omega)
    obtain ⟨rfl, hmore⟩ := List.cons.inj (List.append_cancel_left hrest)
    have hclose := Text.first_nil_iff.mp hfirst y post hmore
    rw [hbody, Text.size_cons]
    omega

/-- What the search finds in the rest of a text is the first match there. -/
theorem firstMatch_of_find? {hit : Hit} {o : Occurrence} (h : m.find? cs = some hit)
    (hstart : o.start = Text.size pre + Text.size hit.before)
    (hbodyStart : o.bodyStart = o.start + Text.size m.opening)
    (hbodyStop : o.bodyStop = o.bodyStart + Text.size hit.body)
    (hstop : o.stop = o.bodyStop + Text.size m.closing) :
    m.FirstMatch (pre ++ cs) (Text.size pre) o := by
  obtain ⟨heq, -, hfirst⟩ := find?_eq_some_iff.mp h
  have hbody := isLeast_matchAt_of_find? pre h
  rw [← hstart, ← hbodyStart, ← hbodyStop] at hbody
  have hopening : IsLeast {s | Text.size pre ≤ s ∧ OccursAt (pre ++ cs) m.opening s} o.start := by
    constructor
    · refine ⟨by omega, pre ++ hit.before, hit.body ++ (m.closing ++ hit.behind), ?_, ?_⟩
      · rw [heq, List.append_assoc]
      · rw [Text.size_append, hstart]
    · rintro s ⟨hle, hoccurs⟩
      obtain ⟨x, post, hcs, rfl⟩ := hoccurs.behind hle
      have hx := hfirst x post (heq.symm.trans hcs)
      omega
  refine ⟨⟨⟨hopening.1.1, o.bodyStop, hbody.1⟩, ?_⟩, hopening, hbodyStart, hbody, hstop⟩
  rintro s ⟨hle, c, ⟨first, ⟨before, post, hsource, hsize⟩, -⟩, -⟩
  exact hopening.2 ⟨hle, before, [first] ++ post, by rw [hsource, List.append_assoc], hsize⟩

/-- There is at most one first match. -/
theorem FirstMatch.unique {o o' : Occurrence} (h : m.FirstMatch source offset o)
    (h' : m.FirstMatch source offset o') (hkind : o.kind = o'.kind) : o = o' := by
  have hstart := h.start.unique h'.start
  have hbodyStart : o.bodyStart = o'.bodyStart := by rw [h.bodyStart, h'.bodyStart, hstart]
  have hbodyStop : o.bodyStop = o'.bodyStop := by
    apply h.bodyStop.unique
    rw [hstart]
    exact h'.bodyStop
  have hstop : o.stop = o'.stop := by rw [h.stop, h'.stop, hbodyStop]
  cases o
  cases o'
  simp_all

end Markers

namespace Signs

open Text (IsBoundary)

variable {signs : Signs} {kind : Kind} {source : List Char} {offset : Nat}

/-- A search from a place that is no boundary of characters finds nothing. -/
theorem findFrom?_of_not_isBoundary (h : ¬ IsBoundary source offset) :
    signs.findFrom? kind source offset = none := by
  rw [findFrom?]
  cases hdrop : Text.drop? offset source with
  | none => rfl
  | some cs => exact absurd (Text.isBoundary_iff.mpr ⟨cs, hdrop⟩) h

/-- A directive that is found is the first match of the markers of its kind. -/
theorem firstMatch_of_findFrom? {o : Occurrence}
    (h : signs.findFrom? kind source offset = some o) :
    IsBoundary source offset ∧ o.kind = kind ∧ (signs.get kind).FirstMatch source offset o := by
  obtain ⟨cs, hdrop, hocc⟩ := Option.bind_eq_some_iff.mp h
  refine ⟨Text.isBoundary_iff.mpr ⟨cs, hdrop⟩, ?_⟩
  obtain ⟨pre, rfl, rfl⟩ := Text.drop?_eq_some_iff.mp hdrop
  obtain ⟨hit, hfind, rfl⟩ := occurrence?_eq_some_iff.mp hocc
  exact ⟨rfl, Markers.firstMatch_of_find? hfind rfl rfl rfl rfl⟩

/-- The search for a directive is complete and leftmost, and the body that it finds is shortest:
it fails exactly if it starts at no boundary of characters or if there is no match at or behind
the place where it starts, and else it gives the first match. -/
theorem findFrom?_firstMatch (signs : Signs) (kind : Kind) (source : List Char) (offset : Nat) :
    (signs.findFrom? kind source offset = none ↔ ¬ IsBoundary source offset ∨
      ∀ s c, offset ≤ s → ¬ (signs.get kind).MatchAt source s c) ∧
    ∀ o, signs.findFrom? kind source offset = some o ↔ IsBoundary source offset ∧
      o.kind = kind ∧ (signs.get kind).FirstMatch source offset o := by
  have hnone : signs.findFrom? kind source offset = none ↔ ¬ IsBoundary source offset ∨
      ∀ s c, offset ≤ s → ¬ (signs.get kind).MatchAt source s c := by
    by_cases hboundary : IsBoundary source offset
    · have hcut := hboundary
      obtain ⟨pre, cs, rfl, rfl⟩ := hcut
      rw [findFrom?_eq, occurrence?_eq_none_iff, Markers.find?_eq_none_iff_matchAt]
      exact ⟨.inr, fun h => h.resolve_left (not_not_intro hboundary)⟩
    · exact iff_of_true (findFrom?_of_not_isBoundary hboundary) (.inl hboundary)
  refine ⟨hnone, fun o => ⟨firstMatch_of_findFrom?, ?_⟩⟩
  rintro ⟨hboundary, hkind, hfirst⟩
  cases hfound : signs.findFrom? kind source offset with
  | none =>
      obtain ⟨⟨hle, c, hmatch⟩, -⟩ := hfirst.start
      rcases hnone.mp hfound with hno | hno
      · exact absurd hboundary hno
      · exact absurd hmatch (hno _ c hle)
  | some o' =>
      obtain ⟨-, hkind', hfirst'⟩ := firstMatch_of_findFrom? hfound
      rw [hfirst.unique hfirst' (hkind.trans hkind'.symm)]

/-- A closing marker that begins with the first character of the body does not count. -/
example : (standard.findFrom? .output "\x7b\x7b\x7d\x7d\x7d".toList 0).map
    (fun o => (o.start, o.bodyStart, o.bodyStop, o.stop)) = some (0, 2, 3, 5) := by decide

end Signs

end Stencil
