import Stencil.Proofs.Column

/-! # Silent comments that are left

Preprocessing deletes the silent comments of a source in one pass from left to right and joins
the parts between them. A comment is left in the joined text exactly where two parts meet inside
an opening marker; without such a place a second pass finds nothing to delete.
-/

namespace Stencil

namespace Markers

variable {m : Markers}

/-- The parts of a text that are kept: what stands before, between and behind the directives that
`erase` deletes. -/
def kept (m : Markers) (cs : List Char) : List (List Char) :=
  match h : m.find? cs with
  | none => [cs]
  | some hit =>
    have : hit.behind.length < cs.length := m.length_behind_lt h
    hit.before :: m.kept hit.behind
termination_by cs.length

theorem kept_of_find?_none {cs : List Char} (h : m.find? cs = none) : m.kept cs = [cs] := by
  rw [kept]
  split
  next => rfl
  next hit hsome => exact nomatch h.symm.trans hsome

theorem kept_of_find?_some {cs : List Char} {hit : Hit} (h : m.find? cs = some hit) :
    m.kept cs = hit.before :: m.kept hit.behind := by
  rw [kept]
  split
  next hnone => exact nomatch h.symm.trans hnone
  next other hother =>
    cases h.symm.trans hother
    rfl

/-- What is left of a text is its kept parts in order. -/
theorem erase_eq_flatten (m : Markers) (cs : List Char) : m.erase cs = (m.kept cs).flatten := by
  fun_induction kept m cs with
  | case1 cs h => rw [erase_of_find?_none h, List.flatten_singleton]
  | case2 cs hit h _ ih => rw [erase_of_find?_some h, ih, List.flatten_cons]

theorem erase_sublist (m : Markers) (cs : List Char) : (m.erase cs).Sublist cs := by
  fun_induction kept m cs with
  | case1 cs h => rw [erase_of_find?_none h]
  | case2 cs hit h _ ih =>
      have hcs := eq_of_find? h
      rw [← List.append_assoc hit.body, ← List.append_assoc m.opening] at hcs
      rw [erase_of_find?_some h, hcs]
      exact (ih.trans (List.sublist_append_right _ _)).append_left hit.before

/-- Deleting changes a text exactly if there is a directive to delete. -/
theorem erase_eq_self_iff {cs : List Char} : m.erase cs = cs ↔ m.find? cs = none := by
  refine ⟨fun h => ?_, erase_of_find?_none⟩
  cases hfind : m.find? cs with
  | none => rfl
  | some hit =>
      rw [erase_of_find?_some hfind] at h
      have hlength := congrArg List.length h
      rw [congrArg List.length (eq_of_find? hfind)] at hlength
      have hbehind := (m.erase_sublist hit.behind).length_le
      have hopening := List.length_pos_iff.mpr m.opening_ne_nil
      simp only [List.length_append] at hlength
      omega

/-- A directive is found in a text exactly if a body of at least one character stands between
markers in it. -/
theorem find?_ne_none_iff {cs : List Char} :
    m.find? cs ≠ none ↔
      ∃ before body behind, body ≠ [] ∧ cs = before ++ (m.wrap body ++ behind) := by
  constructor
  · intro h
    obtain ⟨hit, hfind⟩ := Option.ne_none_iff_exists'.mp h
    obtain ⟨hcs, ⟨first, more, hbody, -⟩, -⟩ := find?_eq_some_iff.mp hfind
    refine ⟨hit.before, hit.body, hit.behind, hbody ▸ List.cons_ne_nil first more, ?_⟩
    rw [hcs, wrap, List.append_assoc, List.append_assoc]
  · rintro ⟨before, body, behind, hbody, rfl⟩
    obtain ⟨first, more, rfl⟩ := List.exists_cons_of_ne_nil hbody
    obtain ⟨hit, hfind, -⟩ := @exists_find?_of_closing m before _ first
      (List.infix_append more m.closing behind)
    have hcs : before ++ (m.wrap (first :: more) ++ behind) =
        before ++ (m.opening ++ (first :: (more ++ m.closing ++ behind))) := by
      simp only [wrap, List.append_assoc, List.cons_append]
    rw [hcs, hfind]
    exact Option.some_ne_none hit

/-! ## Where parts meet -/

/-- Two kept parts of a text meet inside an opening marker, and behind that marker there is a
character and behind it a closing marker. -/
def Rejoins (m : Markers) (cs : List Char) : Prop :=
  ∃ front back u v before first more,
    m.kept cs = front ++ back ∧ m.opening = u ++ v ∧ u ≠ [] ∧ v ≠ [] ∧
      front.flatten = before ++ u ∧ back.flatten = v ++ first :: more ∧ m.closing <:+: more

/-- Parts that meet behind a directive meet in the whole text. -/
theorem Rejoins.of_behind {cs : List Char} {hit : Hit} (hfind : m.find? cs = some hit)
    (h : m.Rejoins hit.behind) : m.Rejoins cs := by
  obtain ⟨front, back, u, v, before, first, more, hkept, hopening, hu, hv, hfront, hback⟩ := h
  refine ⟨hit.before :: front, back, u, v, hit.before ++ before, first, more, ?_, hopening, hu,
    hv, ?_, hback⟩
  · rw [kept_of_find?_some hfind, hkept, List.cons_append]
  · rw [List.flatten_cons, hfront, List.append_assoc]

/-- A directive that starts in the text before the first deleted one ends behind it, and so does
its opening marker. -/
theorem exists_opening_of_lt {cs : List Char} {hit other : Hit} {joined : List Char}
    (hfind : m.find? cs = some hit) (hother : m.find? (hit.before ++ joined) = some other)
    (hlt : Text.size other.before < Text.size hit.before) :
    ∃ u v, m.opening = u ++ v ∧ u ≠ [] ∧ v ≠ [] ∧ hit.before = other.before ++ u ∧
      joined = v ++ (other.body ++ (m.closing ++ other.behind)) := by
  obtain ⟨hcs, -, hfirst⟩ := find?_eq_some_iff.mp hfind
  have htext := (eq_of_find? hother).symm
  obtain ⟨u, hu, hrest⟩ := Text.exists_append_of_size_le htext (Nat.le_of_lt hlt)
  have hshort : Text.size u < Text.size m.opening := by
    by_contra hge
    -- the opening marker would stand before the first one of the text
    obtain ⟨x, rfl, -⟩ := Text.exists_append_of_size_le hrest (Nat.le_of_not_lt hge)
    have hle := hfirst other.before
      (x ++ (m.opening ++ (hit.body ++ (m.closing ++ hit.behind))))
      (by rw [hu]; simp only [List.append_assoc])
    omega
  obtain ⟨v, hopening, hjoined⟩ :=
    Text.exists_append_of_size_le hrest.symm (Nat.le_of_lt hshort)
  refine ⟨u, v, hopening, ?_, ?_, hu, hjoined⟩
  · rintro rfl
    rw [hu, List.append_nil] at hlt
    exact Nat.lt_irrefl _ hlt
  · rintro rfl
    rw [hopening, List.append_nil] at hshort
    exact Nat.lt_irrefl _ hshort

theorem rejoins_of_find?_kept {cs : List Char} {hit : Hit}
    (h : m.find? (m.kept cs).flatten = some hit) : m.Rejoins cs := by
  fun_induction kept m cs generalizing hit with
  | case1 cs hnone =>
      rw [List.flatten_singleton, hnone] at h
      exact nomatch h
  | case2 cs first hfind _ ih =>
      rw [List.flatten_cons] at h
      rcases Nat.lt_or_ge (Text.size hit.before) (Text.size first.before) with hlt | hge
      · obtain ⟨u, v, hopening, hu, hv, hbefore, hback⟩ := exists_opening_of_lt hfind h hlt
        obtain ⟨-, ⟨c, more, hbody, -⟩, -⟩ := find?_eq_some_iff.mp h
        rw [hbody, List.cons_append, ← List.append_assoc] at hback
        exact ⟨[first.before], m.kept first.behind, u, v, hit.before, c, _,
          kept_of_find?_some hfind, hopening, hu, hv, by rw [List.flatten_singleton, hbefore],
          hback, List.infix_append more m.closing hit.behind⟩
      · obtain ⟨before, -, hbehind⟩ := find?_of_append h hge
        exact (ih hbehind).of_behind hfind

/-- Deleting the directives of a text leaves one exactly if two kept parts meet inside an opening
marker with a closing marker behind it. -/
theorem find?_erase_ne_none_iff {cs : List Char} : m.find? (m.erase cs) ≠ none ↔ m.Rejoins cs := by
  rw [erase_eq_flatten]
  constructor
  · intro h
    obtain ⟨hit, hfind⟩ := Option.ne_none_iff_exists'.mp h
    exact rejoins_of_find?_kept hfind
  · rintro ⟨front, back, u, v, before, first, more, hkept, hopening, -, -, hfront, hback, hclose⟩
    obtain ⟨hit, hfind, -⟩ := @exists_find?_of_closing m before more first hclose
    rw [hkept, List.flatten_append, hfront, hback, List.append_assoc, ← List.append_assoc u,
      ← hopening, hfind]
    exact Option.some_ne_none hit

end Markers

/-! ## Scanning what is left -/

/-- A text without a silent comment has no segment for one. -/
theorem Signs.Layout.silent_notMem {signs : Signs} {pos : Nat} {cs : List Char}
    {segments : List Segment} (h : signs.Layout pos cs segments)
    (hnone : signs.silent.find? cs = none) : .silent ∉ segments := by
  induction h with
  | @rest literal pos _ => cases literal <;> simp [Segment.ofText]
  | @directive literal body rest segment segments pos kind _ hbody hsegment _ ih =>
      have hliteral : .silent ∉ Segment.ofText literal := by
        cases literal <;> simp [Segment.ofText]
      have hsegment : .silent ∉ segment.toList := by
        intro hmem
        obtain rfl := Option.mem_toList.mp hmem
        cases hsegment with
        | silent =>
            refine Markers.find?_eq_none_iff.mp hnone literal body rest hbody ?_
            rw [Markers.wrap, List.append_assoc, List.append_assoc]
            rfl
      have hrest : .silent ∉ segments := by
        rw [← List.append_assoc] at hnone
        exact ih (Markers.find?_eq_none_of_append hnone)
      simp [hliteral, hsegment, hrest]

namespace Signs

variable {signs : Signs}

theorem stripLineBreaks_preprocess (signs : Signs) (source : List Char) :
    stripLineBreaks (signs.preprocess source) = signs.preprocess source := by
  refine List.filter_eq_self.mpr fun c hc => ?_
  exact (List.mem_filter.mp ((signs.silent.erase_sublist _).subset hc)).2

/-- A second preprocessing changes a text exactly if the first one has left a silent comment. -/
theorem preprocess_preprocess_iff {source : List Char} :
    signs.preprocess (signs.preprocess source) = signs.preprocess source ↔
      signs.silent.find? (signs.preprocess source) = none := by
  rw [preprocess, stripLineBreaks_preprocess]
  exact Markers.erase_eq_self_iff

/-- The parts of a source around its silent comments meet between a brace and a `#`, and behind
the `#` there is a character and behind it a closing marker. -/
def Reopens (source : List Char) : Prop :=
  ∃ front back before first more,
    standard.silent.kept (stripLineBreaks source) = front ++ back ∧
      front.flatten = before ++ ['\x7b'] ∧ back.flatten = '#' :: first :: more ∧
        standard.silent.closing <:+: more

theorem reopens_iff {source : List Char} :
    Reopens source ↔ standard.silent.Rejoins (stripLineBreaks source) := by
  constructor
  · rintro ⟨front, back, before, first, more, hkept, hfront, hback⟩
    exact ⟨front, back, ['\x7b'], ['#'], before, first, more, hkept, rfl, List.cons_ne_nil _ _,
      List.cons_ne_nil _ _, hfront, hback⟩
  · rintro ⟨front, back, u, v, before, first, more, hkept, hopening, hu, hv, hfront, hback⟩
    -- a marker of two characters is cut in one way only
    obtain ⟨c, u, rfl⟩ := List.exists_cons_of_ne_nil hu
    obtain ⟨rfl, hrest⟩ := List.cons.inj hopening
    obtain ⟨rfl, rfl⟩ := (List.append_eq_singleton_iff.mp hrest.symm).resolve_right (hv ·.2)
    exact ⟨front, back, before, first, more, hkept, hfront, hback⟩

theorem not_reopens_of_notMem {source : List Char} (h : '#' ∉ standard.preprocess source) :
    ¬ Reopens source := by
  rintro ⟨front, back, before, first, more, hkept, hfront, hback, -⟩
  apply h
  rw [preprocess, Markers.erase_eq_flatten, hkept, List.flatten_append, hback]
  exact List.mem_append_right _ List.mem_cons_self

/-- With the standard markers, preprocessing leaves a silent comment exactly if deleting the
comments of the source brings a brace before a `#` that a closing marker follows. Otherwise a
second preprocessing changes nothing, and no segment of a scan stands for a silent comment. -/
theorem preprocess_silent (source : List Char) :
    ((∃ before body behind, body ≠ [] ∧
        standard.preprocess source = before ++ (standard.silent.wrap body ++ behind)) ↔
      Reopens source) ∧
      (standard.preprocess (standard.preprocess source) = standard.preprocess source ↔
        ¬ Reopens source) ∧
      (¬ Reopens source → ∀ (e : Engine) segments, e.signs = standard →
        (e.scan source).result = .ok segments → .silent ∉ segments) := by
  have hleft : standard.silent.find? (standard.preprocess source) ≠ none ↔ Reopens source :=
    Markers.find?_erase_ne_none_iff.trans reopens_iff.symm
  refine ⟨Markers.find?_ne_none_iff.symm.trans hleft,
    preprocess_preprocess_iff.trans (not_iff_comm.mp hleft).symm, ?_⟩
  rintro hnot e segments hsigns hscan
  have hnone := (not_iff_comm.mp hleft).mp hnot
  rw [Engine.scan, hsigns] at hscan
  exact ((standard.pieces_divides _).layout hscan).silent_notMem hnone

theorem preprocess_silent_around_brace :
    let source := "\x7b\x7b# a #\x7d- \x7b# b #\x7d<!-- c -->".toList
    let segments : List Segment := [.text "\x7b- ".toList, .comment " c ".toList]
    ¬ Reopens source ∧ ((Engine.ofConfig .standard).scan source).result = .ok segments ∧
      .silent ∉ segments := by
  intro source segments
  have htext : standard.preprocess source = "\x7b- <!-- c -->".toList := by
    have hfirst : standard.silent.find? (stripLineBreaks source) =
        some ⟨['\x7b'], " a ".toList, "- \x7b# b #\x7d<!-- c -->".toList⟩ := by rfl
    have hsecond : standard.silent.find? "- \x7b# b #\x7d<!-- c -->".toList =
        some ⟨"- ".toList, " b ".toList, "<!-- c -->".toList⟩ := by rfl
    have hlast : standard.silent.find? "<!-- c -->".toList = none := by rfl
    rw [preprocess, Markers.erase_of_find?_some hfirst, Markers.erase_of_find?_some hsecond,
      Markers.erase_of_find?_none hlast]
    rfl
  have hnot : ¬ Reopens source := not_reopens_of_notMem (by rw [htext]; decide)
  have hscan : ((Engine.ofConfig .standard).scan source).result = .ok segments := by
    rw [Engine.scan, show (Engine.ofConfig .standard).signs = standard from rfl, htext]
    rfl
  exact ⟨hnot, hscan, (preprocess_silent source).2.2 hnot _ _ rfl hscan⟩

/-- Deleting the first comment brings its surroundings together to another one, which is left. -/
theorem preprocess_silent_reopened :
    let source := "\x7b\x7b# a #\x7d# b #\x7d".toList
    let text := standard.preprocess source
    text = standard.silent.wrap " b ".toList ∧ standard.preprocess text ≠ text ∧
      ((Engine.ofConfig .standard).scan source).result = .ok [.silent] := by
  intro source text
  have htext : text = standard.silent.wrap " b ".toList := by
    have hfirst : standard.silent.find? (stripLineBreaks source) =
        some ⟨['\x7b'], " a ".toList, "# b #\x7d".toList⟩ := by rfl
    have hlast : standard.silent.find? "# b #\x7d".toList = none := by rfl
    simp only [text, preprocess, Markers.erase_of_find?_some hfirst,
      Markers.erase_of_find?_none hlast]
    rfl
  refine ⟨htext, ?_, ?_⟩
  · have hfind : standard.silent.find? text = some ⟨[], " b ".toList, []⟩ := by
      rw [htext]
      rfl
    intro heq
    cases hfind.symm.trans (preprocess_preprocess_iff.mp heq)
  · rw [Engine.scan, show (Engine.ofConfig .standard).signs = standard from rfl,
      show standard.preprocess source = text from rfl, htext]
    rfl

end Signs

end Stencil
