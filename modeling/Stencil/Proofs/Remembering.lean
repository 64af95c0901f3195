import Stencil.Proofs.Division

/-! # Remembered searches

What is remembered of earlier searches is what new searches at the current place would find.
The scan therefore divides a text as if it searched for all kinds at every place.
-/

namespace Stencil

namespace Signs

variable {signs : Signs}

/-- What a search for a kind found stays the next directive of that kind up to its start. -/
theorem occurrence?_of_append {kind : Kind} {pos : Nat} {pre cs : List Char} {o : Occurrence}
    (h : signs.occurrence? kind pos (pre ++ cs) = some o)
    (hle : pos + Text.size pre ≤ o.start) :
    signs.occurrence? kind (pos + Text.size pre) cs = some o := by
  obtain ⟨hit, hfound, rfl⟩ := occurrence?_eq_some_iff.mp h
  have hsize : Text.size pre ≤ Text.size hit.before := Nat.le_of_add_le_add_left hle
  obtain ⟨before, hbefore, hlater⟩ := Markers.find?_of_append hfound hsize
  refine occurrence?_eq_some_iff.mpr ⟨_, hlater, ?_⟩
  simp only [place, hbefore, Text.size_append, Nat.add_assoc]

theorem occurrence?_eq_none_of_append {kind : Kind} {pos pos' : Nat} {pre cs : List Char}
    (h : signs.occurrence? kind pos (pre ++ cs) = none) :
    signs.occurrence? kind pos' cs = none :=
  occurrence?_eq_none_iff.mpr (Markers.find?_eq_none_of_append (occurrence?_eq_none_iff.mp h))

end Signs

namespace Memory

/-- A memory is right about the text `cs`, which starts at byte `pos`: the directive that it
holds is the next one unless the scan has passed its start, and it reports none only where there
is none. -/
def Right (signs : Signs) (kind : Kind) (pos : Nat) (cs : List Char) : Memory → Prop
  | unsearched => True
  | found o => pos ≤ o.start → signs.occurrence? kind pos cs = some o
  | exhausted => signs.occurrence? kind pos cs = none

variable {signs : Signs} {kind : Kind} {pos : Nat} {cs : List Char}

theorem right_ofSearch :
    (ofSearch (signs.occurrence? kind pos cs)).Right signs kind pos cs := by
  cases h : signs.occurrence? kind pos cs with
  | none => exact h
  | some o => exact fun _ => h

/-- A memory that is not stale holds what a search would find. -/
theorem Right.occurrence?_eq {memory : Memory} (h : memory.Right signs kind pos cs)
    (hfresh : memory.isStale pos = false) :
    memory.occurrence? = signs.occurrence? kind pos cs := by
  cases memory with
  | unsearched => exact nomatch hfresh
  | found o =>
      have hle : pos ≤ o.start := by simpa [isStale] using hfresh
      exact (h hle).symm
  | exhausted => exact Eq.symm h

/-- A memory stays right when the scan goes on behind `pre`. -/
theorem Right.advance {memory : Memory} {pre : List Char}
    (h : memory.Right signs kind pos (pre ++ cs)) :
    memory.Right signs kind (pos + Text.size pre) cs := by
  cases memory with
  | unsearched => trivial
  | found o =>
      intro hle
      exact Signs.occurrence?_of_append (h (by omega)) hle
  | exhausted => exact Signs.occurrence?_eq_none_of_append h

end Memory

namespace Memories

/-- There is one memory for each kind, and all are right. -/
structure Right (signs : Signs) (pos : Nat) (cs : List Char) (memories : Memories) : Prop where
  kinds : memories.map Prod.fst = Kind.all
  right : ∀ entry ∈ memories, entry.2.Right signs entry.1 pos cs

variable {signs : Signs} {pos : Nat} {cs : List Char} {memories : Memories}

theorem right_initial : Right signs pos cs initial where
  kinds := by rw [initial, List.map_map, Function.comp_def, List.map_id']
  right := by
    intro entry hmem
    obtain ⟨kind, -, rfl⟩ := List.mem_map.mp hmem
    trivial

/-- A refreshed memory is right. -/
theorem Right.refresh (h : Right signs pos cs memories) :
    Right signs pos cs (memories.refresh signs pos cs) where
  kinds := by rw [Memories.refresh, List.map_map, ← h.kinds]; rfl
  right := by
    intro entry hmem
    obtain ⟨⟨kind, memory⟩, hold, rfl⟩ := List.mem_map.mp hmem
    simp only
    split
    next => exact Memory.right_ofSearch
    next => exact h.right _ hold

/-- The next directive by refreshed memories is the next one by new searches. -/
theorem Right.next?_refresh (h : Right signs pos cs memories) :
    (memories.refresh signs pos cs).next? =
      earliest? (Kind.all.filterMap (signs.occurrence? · pos cs)) := by
  rw [next?, Memories.refresh, List.filterMap_map, ← h.kinds, List.filterMap_map]
  refine congrArg earliest? (List.filterMap_congr fun entry hmem => ?_)
  obtain ⟨kind, memory⟩ := entry
  simp only [Function.comp_apply]
  split
  next => cases signs.occurrence? kind pos cs <;> rfl
  next hfresh => exact (h.right _ hmem).occurrence?_eq (by simpa using hfresh)

theorem Right.advance {pre : List Char} (h : Right signs pos (pre ++ cs) memories) :
    Right signs (pos + Text.size pre) cs memories :=
  ⟨h.kinds, fun entry hmem => (h.right entry hmem).advance⟩

end Memories

namespace Signs

variable {signs : Signs}

/-- With right memories the text is divided as it is without any. -/
theorem piecesFrom_eq_freshPiecesFrom {bound pos : Nat} {cs : List Char} {memories : Memories}
    (h : memories.Right signs pos cs) :
    signs.piecesFrom bound pos cs memories = signs.freshPiecesFrom bound pos cs := by
  induction bound generalizing pos cs memories with
  | zero => rfl
  | succ bound ih =>
      simp only [piecesFrom, freshPiecesFrom]
      rw [h.next?_refresh]
      split
      next => rfl
      next o hsome =>
        obtain ⟨kind, hit, hnext, rfl⟩ := next_of_earliest? hsome
        obtain ⟨pre, hpre, hstop⟩ := exists_append_behind hnext.found pos
        obtain ⟨-, hbehind⟩ := around_of_find? hnext.found pos
        subst hpre
        -- memories that were refreshed at the old place are right at the new one
        rw [hbehind, ih (hstop ▸ h.refresh.advance)]

/-- The pieces of a text are those that searches without memory find. -/
theorem pieces_eq_freshPieces (signs : Signs) (source : List Char) :
    signs.pieces source = signs.freshPieces source :=
  piecesFrom_eq_freshPiecesFrom Memories.right_initial

/-- The pieces of a text divide it. -/
theorem pieces_divides (signs : Signs) (source : List Char) :
    signs.Divides 0 source (signs.pieces source) := by
  rw [pieces_eq_freshPieces]
  exact freshPiecesFrom_divides (Nat.le_refl _)

/-! ## Exhaustive search -/

theorem findFrom?_eq (kind : Kind) (pre cs : List Char) :
    signs.findFrom? kind (pre ++ cs) (Text.size pre) =
      signs.occurrence? kind (Text.size pre) cs := by
  rw [findFrom?, Text.drop?_eq_some_iff.mpr ⟨pre, rfl, rfl⟩, Option.bind_some]

theorem stop_of_findFrom? {kind : Kind} {source : List Char} {pos : Nat} {o : Occurrence}
    (h : signs.findFrom? kind source pos = some o) :
    pos < o.stop ∧ o.stop ≤ Text.size source := by
  obtain ⟨cs, hdrop, hocc⟩ := Option.bind_eq_some_iff.mp h
  obtain ⟨pre, rfl, rfl⟩ := Text.drop?_eq_some_iff.mp hdrop
  obtain ⟨hit, hfound, rfl⟩ := occurrence?_eq_some_iff.mp hocc
  obtain ⟨before, rfl, hstop⟩ := exists_append_behind hfound (Text.size pre)
  have hopening := Text.size_pos (signs.get kind).opening_ne_nil
  refine ⟨?_, ?_⟩
  · simp only [place]
    omega
  · rw [hstop]
    simp only [Text.size_append]
    omega

/-- The pieces of a text from byte `pos` on, with a search of the whole text for all kinds at
every place: the directive with the least start is taken, of several the first in the order of
kinds, and the search goes on where it stops. -/
def exhaustivePieces (signs : Signs) (source : List Char) (pos : Nat) : List Piece :=
  match _h : (Kind.all.filterMap (signs.findFrom? · source pos)).argmin Occurrence.start with
  | none => Piece.ofText (Text.drop pos source)
  | some o =>
    Piece.ofText (Text.take (o.start - pos) (Text.drop pos source)) ++
      Piece.ofOccurrence 0 source o :: signs.exhaustivePieces source o.stop
termination_by Text.size source - pos
decreasing_by
  obtain ⟨kind, -, hkind⟩ := List.mem_filterMap.mp (List.argmin_mem _h)
  have hstop := stop_of_findFrom? hkind
  omega

theorem exhaustivePieces_of_none {source : List Char} {pos : Nat}
    (h : (Kind.all.filterMap (signs.findFrom? · source pos)).argmin Occurrence.start = none) :
    signs.exhaustivePieces source pos = Piece.ofText (Text.drop pos source) := by
  rw [exhaustivePieces]
  split
  next => rfl
  next o hsome => exact nomatch h.symm.trans hsome

theorem exhaustivePieces_of_some {source : List Char} {pos : Nat} {o : Occurrence}
    (h : (Kind.all.filterMap (signs.findFrom? · source pos)).argmin Occurrence.start = some o) :
    signs.exhaustivePieces source pos =
      Piece.ofText (Text.take (o.start - pos) (Text.drop pos source)) ++
        Piece.ofOccurrence 0 source o :: signs.exhaustivePieces source o.stop := by
  rw [exhaustivePieces]
  split
  next hnone => exact nomatch h.symm.trans hnone
  next o' hsome =>
    obtain rfl : o = o' := Option.some.inj (h.symm.trans hsome)
    rfl

/-- Searching what is left of a text is searching the whole text from there on. -/
theorem freshPiecesFrom_eq_exhaustivePieces {bound : Nat} (pre : List Char) {cs : List Char}
    (hbound : cs.length ≤ bound) :
    signs.freshPiecesFrom bound (Text.size pre) cs =
      signs.exhaustivePieces (pre ++ cs) (Text.size pre) := by
  have hsearch : ∀ pre cs, Kind.all.filterMap (signs.findFrom? · (pre ++ cs) (Text.size pre)) =
      Kind.all.filterMap (signs.occurrence? · (Text.size pre) cs) := by
    intro pre cs
    simp only [findFrom?_eq]
  induction bound generalizing pre cs with
  | zero =>
      obtain rfl := List.eq_nil_of_length_eq_zero (Nat.le_zero.mp hbound)
      have hnone : Kind.all.filterMap (signs.occurrence? · (Text.size pre) []) = [] :=
        List.filterMap_eq_nil_iff.mpr fun kind _ =>
          occurrence?_eq_none_iff.mpr Markers.find?_nil
      rw [exhaustivePieces_of_none (by rw [hsearch, hnone]; rfl), Text.drop_size_append]
      rfl
  | succ bound ih =>
      rw [freshPiecesFrom, earliest?_eq_argmin]
      split
      next hnone =>
        rw [exhaustivePieces_of_none (by rw [hsearch, hnone]), Text.drop_size_append]
      next o hsome =>
        rw [exhaustivePieces_of_some (by rw [hsearch, hsome]), Text.drop_size_append]
        rw [← earliest?_eq_argmin] at hsome
        obtain ⟨kind, hit, hnext, rfl⟩ := next_of_earliest? hsome
        obtain ⟨before, rfl, hstop⟩ := exists_append_behind hnext.found (Text.size pre)
        obtain ⟨-, hbehind⟩ := around_of_find? hnext.found (Text.size pre)
        -- the directive is the same cut from what is left and from the whole text
        have hpart := ofOccurrence_of_find? [] hnext.found (Nat.add_zero (Text.size pre))
        have hwhole := ofOccurrence_of_find? pre hnext.found (Nat.zero_add (Text.size pre))
        have hlt := Markers.length_behind_lt hnext.found
        rw [List.nil_append] at hpart
        rw [hpart, hwhole, hbehind, hstop, ← Text.size_append, ih _ (by omega), List.append_assoc]

/-- Remembering searches changes nothing: the scan of a text has the result that it has with a
search for all kinds at every place. -/
theorem scan_eq_exhaustive (signs : Signs) (dialect : Dialect) (source : List Char) :
    signs.scan dialect source =
      Piece.readAll dialect source (signs.exhaustivePieces source 0) := by
  rw [scan, pieces_eq_freshPieces]
  exact congrArg _ (freshPiecesFrom_eq_exhaustivePieces [] (Nat.le_refl _))

end Signs

end Stencil
