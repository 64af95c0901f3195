import Mathlib.Data.List.Basic
import Stencil.Marker

/-! # Searching for directives

The search for a text finds its first occurrence, and the search for a pair of markers the first
directive between them. A search from a later place has the same result as long as it does not
start behind what an earlier search has found, and what is absent stays absent.
-/

namespace Stencil

namespace Text

theorem size_pos {cs : List Char} (h : cs ≠ []) : 0 < size cs := by
  cases cs with
  | nil => exact absurd rfl h
  | cons c cs => exact Nat.add_pos_left c.utf8Size_pos _

/-- Of two starts of a text the one that is not larger is a start of the other. -/
theorem exists_append_of_size_le {b a b' a' : List Char} (h : b ++ a = b' ++ a')
    (hle : size b ≤ size b') : ∃ x, b' = b ++ x ∧ a = x ++ a' := by
  rcases List.append_eq_append_iff.mp h with ⟨x, hb, ha⟩ | ⟨x, hb, ha⟩
  · exact ⟨x, hb, ha⟩
  · subst hb
    cases x with
    | nil => exact ⟨[], by simp, by simpa using ha.symm⟩
    | cons c x =>
        have hpos := size_pos (List.cons_ne_nil c x)
        rw [size_append] at hle
        omega

/-- Two starts of a text that have the same size are the same. -/
theorem append_inj_of_size_eq {b a b' a' : List Char} (h : b ++ a = b' ++ a')
    (hsize : size b = size b') : b = b' ∧ a = a' := by
  obtain ⟨x, rfl, rfl⟩ := exists_append_of_size_le h (Nat.le_of_eq hsize)
  have hnil : x = [] := by
    by_contra hne
    have hpos := size_pos hne
    rw [size_append] at hsize
    omega
  rw [hnil]
  exact ⟨(List.append_nil b).symm, rfl⟩

/-- A text that has no `sep` stands before a `sep` if it stands at the start. -/
theorem isPrefix_of_append_cons {needle x y : List Char} {sep : Char}
    (h : needle <+: x ++ sep :: y) (hsep : sep ∉ needle) : needle <+: x := by
  induction x generalizing needle with
  | nil =>
      cases needle with
      | nil => exact List.nil_prefix
      | cons n ns => exact absurd (List.cons_prefix_cons.mp h).1.symm (List.ne_of_not_mem_cons hsep)
  | cons c x ih =>
      cases needle with
      | nil => exact List.nil_prefix
      | cons n ns =>
          obtain ⟨rfl, hns⟩ := List.cons_prefix_cons.mp h
          exact List.cons_prefix_cons.mpr ⟨rfl, ih hns (List.not_mem_of_not_mem_cons hsep)⟩

/-- A text that has no `sep` occurs on one side of a `sep` if it occurs around it. -/
theorem isInfix_of_append_cons {needle x y : List Char} {sep : Char}
    (h : needle <:+: x ++ sep :: y) (hsep : sep ∉ needle) : needle <:+: x ∨ needle <:+: y := by
  induction x with
  | nil =>
      rcases List.infix_cons_iff.mp h with hstart | hbehind
      · exact .inl (isPrefix_of_append_cons (x := []) hstart hsep).isInfix
      · exact .inr hbehind
  | cons c x ih =>
      rcases List.infix_cons_iff.mp h with hstart | hbehind
      · exact .inl (isPrefix_of_append_cons (x := c :: x) hstart hsep).isInfix
      · exact (ih hbehind).imp_left List.infix_cons

/-- An occurrence in a text does not reach into a part that has none of its characters. -/
theorem isInfix_of_append {needle x y : List Char} (h : needle <:+: x ++ y)
    (hneedle : needle ≠ []) (hy : ∀ c ∈ needle, c ∉ y) : needle <:+: x := by
  cases y with
  | nil => rwa [List.append_nil] at h
  | cons sep y =>
      have hsep : sep ∉ needle := fun hmem => hy sep hmem List.mem_cons_self
      rcases isInfix_of_append_cons h hsep with hx | hinside
      · exact hx
      · obtain ⟨c, hc⟩ := List.exists_mem_of_ne_nil needle hneedle
        exact absurd (List.mem_cons_of_mem sep (hinside.subset hc)) (hy c hc)

/-- `before` stands before the first occurrence of `needle` in the text that goes on with
`needle` and `after` behind it. -/
def First (needle before after : List Char) : Prop :=
  ∀ b a, before ++ (needle ++ after) = b ++ (needle ++ a) → size before ≤ size b

theorem absent_of_cut?_eq_none {needle cs : List Char} (h : cut? needle cs = none)
    (b a : List Char) : cs ≠ b ++ (needle ++ a) := by
  fun_induction cut? needle cs generalizing b with
  | case1 => simp at h
  | case2 hneedle =>
      intro heq
      have hnil := (List.append_eq_nil_iff.mp (List.append_eq_nil_iff.mp heq.symm).2).1
      exact hneedle (List.isEmpty_iff.mpr hnil)
  | case3 => simp at h
  | case4 c cs hafter ih =>
      intro heq
      cases b with
      | nil =>
          have hfound : after? needle (c :: cs) = some a := after?_eq_some_iff.mpr heq
          simp [hafter] at hfound
      | cons d b =>
          rw [List.cons_append, List.cons.injEq] at heq
          exact ih (Option.map_eq_none_iff.mp h) b heq.2

theorem first_of_cut? {needle cs before after : List Char}
    (h : cut? needle cs = some (before, after)) : First needle before after := by
  intro b a heq
  rw [← eq_append_of_cut? h] at heq
  fun_induction cut? needle cs generalizing before b with
  | case1 =>
      cases h
      exact Nat.zero_le _
  | case2 => simp at h
  | case3 =>
      cases h
      exact Nat.zero_le _
  | case4 c cs hafter ih =>
      obtain ⟨⟨front, back⟩, hcut, hcons⟩ := Option.map_eq_some_iff.mp h
      cases hcons
      cases b with
      | nil =>
          have hfound : after? needle (c :: cs) = some a := after?_eq_some_iff.mpr heq
          simp [hafter] at hfound
      | cons d b =>
          rw [List.cons_append, List.cons.injEq] at heq
          obtain ⟨rfl, heq⟩ := heq
          exact Nat.add_le_add_left (ih hcut b heq) _

/-- Two first occurrences in one text are the same. -/
theorem First.unique {needle b a b' a' : List Char} (h : First needle b a)
    (h' : First needle b' a') (heq : b ++ (needle ++ a) = b' ++ (needle ++ a')) :
    b = b' ∧ a = a' := by
  have hsize := Nat.le_antisymm (h b' a' heq) (h' b a heq.symm)
  obtain ⟨rfl, hrest⟩ := append_inj_of_size_eq heq hsize
  exact ⟨rfl, List.append_cancel_left hrest⟩

/-- The search for a text fails exactly if the text does not occur. -/
theorem cut?_eq_none_iff {needle cs : List Char} :
    cut? needle cs = none ↔ ∀ b a, cs ≠ b ++ (needle ++ a) := by
  refine ⟨absent_of_cut?_eq_none, fun h => ?_⟩
  cases hcut : cut? needle cs with
  | none => rfl
  | some found => exact absurd (eq_append_of_cut? hcut) (h found.1 found.2)

/-- The search for a text finds exactly its first occurrence. -/
theorem cut?_eq_some_iff {needle cs before after : List Char} :
    cut? needle cs = some (before, after) ↔
      cs = before ++ (needle ++ after) ∧ First needle before after := by
  refine ⟨fun h => ⟨eq_append_of_cut? h, first_of_cut? h⟩, ?_⟩
  rintro ⟨rfl, hfirst⟩
  cases hcut : cut? needle (before ++ (needle ++ after)) with
  | none => exact absurd rfl (absent_of_cut?_eq_none hcut before after)
  | some found =>
      obtain ⟨rfl, rfl⟩ := hfirst.unique (first_of_cut? hcut) (eq_append_of_cut? hcut)
      rfl

/-- Whether an occurrence is the first one does not depend on what stands behind it. -/
theorem first_nil_iff {needle before after : List Char} :
    First needle before [] ↔ First needle before after := by
  constructor
  · intro h b a heq
    by_contra hlt
    -- an earlier occurrence ends before the first one does, so it needs nothing behind that
    have heq' : b ++ (needle ++ a) = (before ++ needle) ++ after := by
      rw [← heq, List.append_assoc]
    have hle : size (b ++ needle) ≤ size (before ++ needle) := by
      simp only [size_append]
      omega
    rw [← List.append_assoc] at heq'
    obtain ⟨x, hx, -⟩ := exists_append_of_size_le heq' hle
    have := h b x (by rw [List.append_nil, hx, List.append_assoc])
    omega
  · intro h b a heq
    refine h b (a ++ after) ?_
    rw [List.append_nil] at heq
    rw [← List.append_assoc before, heq, List.append_assoc, List.append_assoc]

/-- Behind a text without `needle` and one more character that is not in it, `needle` stands for
the first time. -/
theorem first_concat {needle before after : List Char} {sep : Char} (hsep : sep ∉ needle)
    (h : ¬ needle <:+: before) : First needle (before ++ [sep]) after := by
  intro b a heq
  by_contra hlt
  obtain ⟨x, hx, hneedle⟩ := exists_append_of_size_le heq.symm (by omega)
  rcases List.eq_nil_or_concat x with rfl | ⟨init, last, rfl⟩
  · rw [List.append_nil] at hx
    rw [hx] at hlt
    exact hlt (Nat.le_refl _)
  · -- the earlier occurrence would lie before the separator
    rw [List.concat_eq_append, ← List.append_assoc] at hx
    obtain ⟨rfl, hlast⟩ := List.append_inj' hx rfl
    cases hlast
    rw [List.concat_eq_append, List.append_assoc] at hneedle
    have hprefix : needle <+: init ++ sep :: (needle ++ after) := ⟨a, hneedle⟩
    exact h ((isPrefix_of_append_cons hprefix hsep).isInfix.trans
      (List.suffix_append b init).isInfix)

theorem First.append_left {needle pre before after : List Char}
    (h : First needle (pre ++ before) after) : First needle before after := by
  intro b a heq
  have hle := h (pre ++ b) a (by simp only [List.append_assoc, heq])
  simp only [size_append] at hle
  omega

end Text

namespace Markers

variable {m : Markers}

/-- A body can stand between the markers: it has a first character, and the first closing marker
behind that character is the one that ends the body. -/
def Encloses (m : Markers) (body : List Char) : Prop :=
  ∃ first more, body = first :: more ∧ Text.First m.closing more []

theorem Encloses.of_find? {cs : List Char} {hit : Hit} (h : m.find? cs = some hit) :
    m.Encloses hit.body ∧
      Text.First m.opening hit.before (hit.body ++ (m.closing ++ hit.behind)) := by
  unfold find? at h
  split at h
  · exact nomatch h
  · exact nomatch h
  · rename_i before first more hopen
    obtain ⟨⟨body, behind⟩, hclose, rfl⟩ := Option.map_eq_some_iff.mp h
    refine ⟨⟨first, body, rfl, Text.first_nil_iff.mpr (Text.first_of_cut? hclose)⟩, ?_⟩
    have hmore := Text.eq_append_of_cut? hclose
    rw [hmore] at hopen
    exact Text.first_of_cut? hopen

/-- The search for a directive finds exactly the one with the first opening marker. -/
theorem find?_eq_some_iff {cs : List Char} {hit : Hit} :
    m.find? cs = some hit ↔
      cs = hit.before ++ (m.opening ++ (hit.body ++ (m.closing ++ hit.behind))) ∧
        m.Encloses hit.body ∧
        Text.First m.opening hit.before (hit.body ++ (m.closing ++ hit.behind)) := by
  refine ⟨fun h => ⟨eq_of_find? h, Encloses.of_find? h⟩, ?_⟩
  rintro ⟨rfl, ⟨first, more, hbody, hclose⟩, hopen⟩
  have hcut := Text.cut?_eq_some_iff.mpr ⟨rfl, hopen⟩
  have hclose' : Text.First m.closing more hit.behind := Text.first_nil_iff.mp hclose
  have hcut' := Text.cut?_eq_some_iff.mpr ⟨rfl, hclose'⟩
  rw [hbody, List.cons_append] at hcut
  unfold find?
  rw [hbody, List.cons_append, hcut]
  simp only [hcut', Option.map_some]
  rw [← hbody]

/-- The search for a directive fails exactly if there is none: when the first opening marker has
no closing marker behind it, no later one has. -/
theorem find?_eq_none_iff {cs : List Char} :
    m.find? cs = none ↔
      ∀ b body a, m.Encloses body → cs ≠ b ++ (m.opening ++ (body ++ (m.closing ++ a))) := by
  constructor
  · rintro h b body a ⟨first, more, rfl, -⟩ heq
    unfold find? at h
    cases hopen : Text.cut? m.opening cs with
    | none => exact Text.cut?_eq_none_iff.mp hopen _ _ heq
    | some found =>
        obtain ⟨before, rest⟩ := found
        have hcs := (Text.eq_append_of_cut? hopen).symm.trans heq
        have hle := Text.first_of_cut? hopen b _ hcs
        obtain ⟨x, rfl, hrest⟩ := Text.exists_append_of_size_le hcs hle
        rw [← List.append_assoc x] at hrest
        obtain ⟨y, -, rfl⟩ := Text.exists_append_of_size_le hrest (by simp)
        -- the closing marker stands behind the first character, whichever character that is
        cases y with
        | nil =>
            simp only [hopen, List.nil_append, List.cons_append, Option.map_eq_none_iff] at h
            exact Text.cut?_eq_none_iff.mp h more a rfl
        | cons c y =>
            simp only [hopen, List.cons_append, Option.map_eq_none_iff] at h
            exact Text.cut?_eq_none_iff.mp h (y ++ first :: more) a
              (by simp only [List.append_assoc, List.cons_append])
  · intro h
    cases hfind : m.find? cs with
    | none => rfl
    | some hit =>
        obtain ⟨heq, hbody, -⟩ := find?_eq_some_iff.mp hfind
        exact absurd heq (h hit.before hit.body hit.behind hbody)

/-- A closing marker behind an opening marker and one more character makes a directive, which
starts there or before. -/
theorem exists_find?_of_closing {b more : List Char} {first : Char}
    (hclose : m.closing <:+: more) :
    ∃ hit, m.find? (b ++ (m.opening ++ (first :: more))) = some hit ∧
      Text.size hit.before ≤ Text.size b := by
  cases hfind : m.find? (b ++ (m.opening ++ (first :: more))) with
  | some hit =>
      obtain ⟨heq, -, hfirst⟩ := find?_eq_some_iff.mp hfind
      exact ⟨hit, rfl, hfirst b _ heq.symm⟩
  | none =>
      obtain ⟨x, y, rfl⟩ := hclose
      cases hcut : Text.cut? m.closing (x ++ m.closing ++ y) with
      | none => exact absurd (List.append_assoc x _ y) (Text.cut?_eq_none_iff.mp hcut x y)
      | some found =>
          obtain ⟨body, a⟩ := found
          obtain ⟨hmore, hfirst⟩ := Text.cut?_eq_some_iff.mp hcut
          have hencloses : m.Encloses (first :: body) :=
            ⟨first, body, rfl, Text.first_nil_iff.mpr hfirst⟩
          rw [hmore] at hfind
          exact absurd rfl (find?_eq_none_iff.mp hfind b (first :: body) a hencloses)

theorem find?_eq_none_of_not_infix {cs : List Char} (h : ¬ m.opening <:+: cs) :
    m.find? cs = none := by
  apply find?_eq_none_iff.mpr
  intro b body a _ heq
  apply h
  rw [heq, ← List.append_assoc]
  exact List.infix_append b m.opening _

/-- A text between two markers is found as the body of a directive. -/
theorem Encloses.find? {body : List Char} (h : m.Encloses body) (behind : List Char) :
    m.find? (m.opening ++ (body ++ (m.closing ++ behind))) = some ⟨[], body, behind⟩ :=
  find?_eq_some_iff.mpr ⟨rfl, h, fun _ _ _ => Nat.zero_le _⟩

theorem find?_nil : m.find? [] = none := by
  cases h : m.find? [] with
  | none => rfl
  | some hit => exact absurd (length_behind_lt h) (Nat.not_lt_zero _)

/-- A search that starts later finds the same directive, if it does not start behind it. -/
theorem find?_of_append {pre cs : List Char} {hit : Hit} (h : m.find? (pre ++ cs) = some hit)
    (hle : Text.size pre ≤ Text.size hit.before) :
    ∃ before, hit.before = pre ++ before ∧
      m.find? cs = some ⟨before, hit.body, hit.behind⟩ := by
  obtain ⟨heq, hbody, hopen⟩ := find?_eq_some_iff.mp h
  obtain ⟨before, hbefore, hcs⟩ := Text.exists_append_of_size_le heq hle
  rw [hbefore] at hopen
  exact ⟨before, hbefore, find?_eq_some_iff.mpr ⟨hcs, hbody, hopen.append_left⟩⟩

/-- A search that starts later finds no directive where there was none. -/
theorem find?_eq_none_of_append {pre cs : List Char} (h : m.find? (pre ++ cs) = none) :
    m.find? cs = none := by
  rw [find?_eq_none_iff] at h ⊢
  intro b body a hbody heq
  exact h (pre ++ b) body a hbody (by rw [heq, List.append_assoc])

end Markers

end Stencil
