import Mathlib.Data.List.MinMax
import Stencil.Proofs.Search
import Stencil.Scan

/-! # How a text is divided

The division of a text into texts and directives, described by what the searches find and by
nothing else: at every place the directive with the least start is next, and the division goes on
behind it.
-/

namespace Stencil

namespace Text

@[simp] theorem take_size_append (cs ds : List Char) : take (size cs) (cs ++ ds) = cs := by
  induction cs with
  | nil =>
      cases ds with
      | nil => rfl
      | cons d ds => simp [take, Nat.ne_of_gt d.utf8Size_pos]
  | cons c cs ih => simp [take, ih]

@[simp] theorem drop_size_append (cs ds : List Char) : drop (size cs) (cs ++ ds) = ds := by
  induction cs with
  | nil =>
      cases ds with
      | nil => rfl
      | cons d ds => simp [drop, Nat.ne_of_gt d.utf8Size_pos]
  | cons c cs ih => simp [drop, ih]

/-- A cut at a byte leaves what stands behind a start of that size. -/
theorem drop?_eq_some_iff {n : Nat} {cs rest : List Char} :
    drop? n cs = some rest ↔ ∃ pre, cs = pre ++ rest ∧ size pre = n := by
  fun_induction drop? n cs with
  | case1 cs =>
      constructor
      · intro h
        exact ⟨[], Option.some.inj h, rfl⟩
      · rintro ⟨pre, rfl, hsize⟩
        cases pre with
        | nil => rfl
        | cons c pre => exact absurd hsize (Nat.ne_of_gt (size_pos (List.cons_ne_nil c pre)))
  | case2 n =>
      constructor
      · intro h
        exact nomatch h
      · rintro ⟨pre, hnil, hsize⟩
        rw [(List.append_eq_nil_iff.mp hnil.symm).1] at hsize
        exact nomatch hsize
  | case3 n c cs hle ih =>
      rw [ih]
      constructor
      · rintro ⟨pre, rfl, hsize⟩
        refine ⟨c :: pre, rfl, ?_⟩
        rw [size_cons, hsize]
        exact Nat.add_sub_cancel' hle
      · rintro ⟨pre, hcons, hsize⟩
        cases pre with
        | nil => exact nomatch hsize
        | cons d pre =>
            rw [List.cons_append, List.cons.injEq] at hcons
            obtain ⟨rfl, hcons⟩ := hcons
            rw [size_cons] at hsize
            exact ⟨pre, hcons, by omega⟩
  | case4 n c cs hlt =>
      constructor
      · intro h
        exact nomatch h
      · rintro ⟨pre, hcons, hsize⟩
        cases pre with
        | nil => exact nomatch hsize
        | cons d pre =>
            rw [List.cons_append, List.cons.injEq] at hcons
            rw [size_cons, ← hcons.1] at hsize
            omega

end Text

namespace Kind

theorem mem_all (kind : Kind) : kind ∈ all := by
  cases kind <;> decide

end Kind

/-- The earliest occurrence is the first one with the least start. -/
theorem earliest?_eq_argmin (os : List Occurrence) :
    earliest? os = os.argmin Occurrence.start := by
  induction os with
  | nil => rfl
  | cons o os ih =>
      rw [List.argmin_cons, ← ih, earliest?]
      cases earliest? os with
      | none => rfl
      | some best => rfl

namespace Signs

variable (signs : Signs)

/-- Where a directive stands that was found in a text which starts at byte `pos`. -/
def place (kind : Kind) (pos : Nat) (hit : Hit) : Occurrence :=
  let m := signs.get kind
  let start := pos + Text.size hit.before
  let bodyStart := start + Text.size m.opening
  let bodyStop := bodyStart + Text.size hit.body
  ⟨kind, start, bodyStart, bodyStop, bodyStop + Text.size m.closing⟩

/-- The directive that was found in a text which starts at byte `pos`. -/
def directive (kind : Kind) (pos : Nat) (hit : Hit) : Directive :=
  let o := signs.place kind pos hit
  ⟨kind, o.start, o.bodyStart, hit.body, o.stop⟩

/-- A directive of the given kind is the first directive of all kinds. -/
structure Next (cs : List Char) (kind : Kind) (hit : Hit) : Prop where
  found : (signs.get kind).find? cs = some hit
  first : ∀ k h, (signs.get k).find? cs = some h → Text.size hit.before ≤ Text.size h.before

/-- The pieces of a text that starts at byte `pos`. -/
inductive Divides : Nat → List Char → List Piece → Prop
  | rest {pos cs} (h : ∀ kind, (signs.get kind).find? cs = none) :
      Divides pos cs (Piece.ofText cs)
  | directive {pos cs pieces} (kind : Kind) (hit : Hit) (h : signs.Next cs kind hit)
      (hrest : Divides (signs.place kind pos hit).stop hit.behind pieces) :
      Divides pos cs
        (Piece.ofText hit.before ++ .directive (signs.directive kind pos hit) :: pieces)

variable {signs}

theorem occurrence?_eq_map (kind : Kind) (pos : Nat) (cs : List Char) :
    signs.occurrence? kind pos cs = ((signs.get kind).find? cs).map (signs.place kind pos) := rfl

theorem occurrence?_eq_some_iff {kind : Kind} {pos : Nat} {cs : List Char} {o : Occurrence} :
    signs.occurrence? kind pos cs = some o ↔
      ∃ hit, (signs.get kind).find? cs = some hit ∧ signs.place kind pos hit = o := by
  rw [occurrence?_eq_map, Option.map_eq_some_iff]

theorem occurrence?_eq_none_iff {kind : Kind} {pos : Nat} {cs : List Char} :
    signs.occurrence? kind pos cs = none ↔ (signs.get kind).find? cs = none := by
  rw [occurrence?_eq_map, Option.map_eq_none_iff]

/-- What stands behind a directive starts at the byte where the directive stops. -/
theorem exists_append_behind {kind : Kind} {cs : List Char} {hit : Hit}
    (h : (signs.get kind).find? cs = some hit) (pos : Nat) :
    ∃ pre, cs = pre ++ hit.behind ∧ (signs.place kind pos hit).stop = pos + Text.size pre := by
  refine ⟨hit.before ++ ((signs.get kind).opening ++ (hit.body ++ (signs.get kind).closing)),
    ?_, ?_⟩
  · rw [Markers.eq_of_find? h]
    simp only [List.append_assoc]
  · simp only [place, Text.size_append, Nat.add_assoc]

/-- A directive, by its place in a text that starts at byte `start`. -/
theorem ofOccurrence_of_find? {kind : Kind} {start pos : Nat} {cs : List Char} {hit : Hit}
    (pre : List Char) (h : (signs.get kind).find? cs = some hit)
    (hpos : start + Text.size pre = pos) :
    Piece.ofOccurrence start (pre ++ cs) (signs.place kind pos hit) =
      .directive (signs.directive kind pos hit) := by
  have hbody : pre ++ cs = (pre ++ (hit.before ++ (signs.get kind).opening)) ++
      (hit.body ++ ((signs.get kind).closing ++ hit.behind)) := by
    simp only [Markers.eq_of_find? h, List.append_assoc]
  have hstart : (signs.place kind pos hit).bodyStart - start =
      Text.size (pre ++ (hit.before ++ (signs.get kind).opening)) := by
    simp only [place, Text.size_append]
    omega
  have hlength : (signs.place kind pos hit).bodyStop - (signs.place kind pos hit).bodyStart =
      Text.size hit.body := by
    simp only [place]
    omega
  rw [Piece.ofOccurrence, hstart, hlength, hbody, Text.drop_size_append, Text.take_size_append]
  rfl

/-- What stands before a directive and what stands behind it, by its place. -/
theorem around_of_find? {kind : Kind} {cs : List Char} {hit : Hit}
    (h : (signs.get kind).find? cs = some hit) (pos : Nat) :
    Text.take ((signs.place kind pos hit).start - pos) cs = hit.before ∧
      Text.drop ((signs.place kind pos hit).stop - pos) cs = hit.behind := by
  constructor
  · rw [place, Nat.add_sub_cancel_left, Markers.eq_of_find? h, Text.take_size_append]
  · obtain ⟨pre, hpre, hstop⟩ := exists_append_behind h pos
    rw [hstop, Nat.add_sub_cancel_left, hpre, Text.drop_size_append]

/-- The directive that a search for all kinds settles on comes first. -/
theorem next_of_earliest? {pos : Nat} {cs : List Char} {o : Occurrence}
    (h : earliest? (Kind.all.filterMap (signs.occurrence? · pos cs)) = some o) :
    ∃ kind hit, signs.Next cs kind hit ∧ signs.place kind pos hit = o := by
  rw [earliest?_eq_argmin] at h
  obtain ⟨kind, -, hkind⟩ := List.mem_filterMap.mp (List.argmin_mem h)
  obtain ⟨hit, hfound, rfl⟩ := occurrence?_eq_some_iff.mp hkind
  refine ⟨kind, hit, ⟨hfound, fun k other hother => ?_⟩, rfl⟩
  have hmem : signs.place k pos other ∈ Kind.all.filterMap (signs.occurrence? · pos cs) :=
    List.mem_filterMap.mpr ⟨k, k.mem_all, occurrence?_eq_some_iff.mpr ⟨other, hother, rfl⟩⟩
  have hle : (signs.place kind pos hit).start ≤ (signs.place k pos other).start :=
    List.le_of_mem_argmin hmem h
  exact Nat.le_of_add_le_add_left hle

/-- Where a search for all kinds settles on nothing, there is no directive. -/
theorem find?_eq_none_of_earliest? {pos : Nat} {cs : List Char}
    (h : earliest? (Kind.all.filterMap (signs.occurrence? · pos cs)) = none) (kind : Kind) :
    (signs.get kind).find? cs = none := by
  rw [earliest?_eq_argmin, List.argmin_eq_none, List.filterMap_eq_nil_iff] at h
  exact occurrence?_eq_none_iff.mp (h kind kind.mem_all)

/-- The division that searches for all kinds at each place divides the text. -/
theorem freshPiecesFrom_divides {bound pos : Nat} {cs : List Char} (hbound : cs.length ≤ bound) :
    signs.Divides pos cs (signs.freshPiecesFrom bound pos cs) := by
  induction bound generalizing pos cs with
  | zero =>
      obtain rfl := List.eq_nil_of_length_eq_zero (Nat.le_zero.mp hbound)
      exact .rest fun kind => Markers.find?_nil
  | succ bound ih =>
      unfold freshPiecesFrom
      split
      next hnone => exact .rest (find?_eq_none_of_earliest? hnone)
      next o hsome =>
        obtain ⟨kind, hit, hnext, rfl⟩ := next_of_earliest? hsome
        obtain ⟨hbefore, hbehind⟩ := around_of_find? hnext.found pos
        have hdirective := ofOccurrence_of_find? [] hnext.found (Nat.add_zero pos)
        rw [List.nil_append] at hdirective
        rw [hbefore, hdirective, hbehind]
        -- a directive has at least one character, so the bound holds for what is left
        have hlt := Markers.length_behind_lt hnext.found
        exact .directive kind hit hnext (ih (by omega))

end Signs

end Stencil
