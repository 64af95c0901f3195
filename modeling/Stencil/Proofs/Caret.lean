import Stencil.Proofs.Slicing

/-! # The caret of a diagnostic

The two lines that a diagnostic shows: a window of the template, and below it a caret under the
character in the reported column.
-/

namespace Stencil.Place

/-- The mark of a part that is left out. -/
def ellipsis : List Char → List Char
  | [] => []
  | _ :: _ => ['…']

/-- The lines `first` and `second` show the part of a text that stands between `before` and
`behind`, and point at a column of that text. -/
structure Shows (source : List Char) (column : Nat)
    (first second before shown behind : List Char) : Prop where
  source_eq : source = before ++ (shown ++ behind)
  length_le : shown.length ≤ 48
  /-- An ellipsis stands exactly where something is left out. -/
  first_eq : first = "  | ".toList ++ (ellipsis before ++ shown ++ ellipsis behind)
  second_eq : ∃ blanks, second = "  | ".toList ++ (List.replicate blanks ' ' ++ ['^'])
  column_le : 1 ≤ column ∧ column ≤ source.length + 1
  /-- The character in the column is shown, and the caret, which ends the second line, stands
  below it. -/
  above : ∀ c, source[column - 1]? = some c → ∃ front back, shown = front ++ c :: back ∧
    column = (before ++ front).length + 1 ∧
    second.length = ("  | ".toList ++ (ellipsis before ++ front)).length + 1
  /-- In the column behind the last character the caret stands just behind that character. -/
  past : column = source.length + 1 → behind = [] ∧ second.length = first.length + 1
  /-- Each of the two is one line. -/
  oneLine : '\n' ∉ first ∧ '\n' ∉ second

/-! ## The window -/

/-- Something is left out before the window exactly if the window does not start at the start. -/
theorem ellipsis_take {source : List Char} {first : Nat} (h : first ≤ source.length) :
    ellipsis (source.take first) = if 0 < first then ['…'] else [] := by
  cases first with
  | zero => rfl
  | succ first =>
      cases source with
      | nil => exact absurd h (Nat.not_succ_le_zero first)
      | cons c source => rfl

theorem ellipsis_drop (source : List Char) (last : Nat) :
    ellipsis (source.drop last) = if last < source.length then ['…'] else [] := by
  rcases Nat.lt_or_ge last source.length with hlt | hge
  · rw [if_pos hlt, List.drop_eq_getElem_cons hlt, ellipsis]
  · rw [if_neg (Nat.not_lt.mpr hge), List.drop_eq_nil_of_le hge, ellipsis]

theorem not_mem_ellipsis (part : List Char) : '\n' ∉ ellipsis part := by
  cases part with
  | nil => exact List.not_mem_nil
  | cons c part => simp [ellipsis]

/-- A text around the place with an index: what the window leaves out before it, what it shows up
to the place and from there on, and what it leaves out behind. -/
structure Around (source : List Char) (index : Nat) (before front rest behind : List Char) :
    Prop where
  source_eq : source = before ++ (front ++ rest ++ behind)
  index_eq : index = (before ++ front).length
  length_front : front.length ≤ radius
  length_rest : rest.length ≤ radius
  behind_eq_nil : rest = [] → behind = []
  window_eq : window source index = ellipsis before ++ (front ++ rest) ++ ellipsis behind
  caret_eq : caret index = (ellipsis before ++ front).length

variable {source : List Char} {index : Nat}

theorem exists_around (h : index ≤ source.length) :
    ∃ before front rest behind, Around source index before front rest behind := by
  let first := index - radius
  let last := min (index + radius) source.length
  have hradius : 0 < radius := by decide
  have hfirst : first ≤ index := Nat.sub_le index radius
  have hlast : index ≤ last := Nat.le_min.mpr ⟨Nat.le_add_right _ _, h⟩
  have hshown : (source.drop first).take (last - first) =
      (source.drop first).take (index - first) ++ (source.drop index).take (last - index) := by
    have hsum : last - first = (index - first) + (last - index) := by omega
    rw [hsum, List.take_add, List.drop_drop, Nat.add_sub_cancel' hfirst]
  have hfront : ((source.drop first).take (index - first)).length = index - first := by
    rw [List.length_take, List.length_drop, Nat.min_eq_left (Nat.sub_le_sub_right h first)]
  refine ⟨source.take first, (source.drop first).take (index - first),
    (source.drop index).take (last - index), source.drop last, ?_, ?_, ?_, ?_, ?_, ?_, ?_⟩
  · have hrest := List.take_append_drop (last - first) (source.drop first)
    rw [List.drop_drop, Nat.add_sub_cancel' (Nat.le_trans hfirst hlast)] at hrest
    rw [← hshown, hrest, List.take_append_drop]
  · rw [List.length_append, hfront, List.length_take]
    omega
  · omega
  · rw [List.length_take]
    omega
  · intro hrest
    have hlength := congrArg List.length hrest
    rw [List.length_take, List.length_drop, List.length_nil] at hlength
    exact List.drop_eq_nil_of_le (by omega)
  · rw [← hshown, ellipsis_take (Nat.le_trans hfirst h), ellipsis_drop]
    rfl
  · rw [ellipsis_take (Nat.le_trans hfirst h), List.length_append, apply_ite List.length, hfront]
    rfl

/-! ## The two lines -/

/-- The excerpt around a place is two lines that point at it. -/
theorem excerptAt_shows (hsource : '\n' ∉ source) (h : index ≤ source.length) :
    ∃ first second before shown behind,
      excerptAt source index = first ++ '\n' :: (second ++ ['\n']) ∧
        Shows source (index + 1) first second before shown behind := by
  obtain ⟨before, front, rest, behind, haround⟩ := exists_around h
  let first := "  | ".toList ++ (ellipsis before ++ (front ++ rest) ++ ellipsis behind)
  let second := "  | ".toList ++ (List.replicate (caret index) ' ' ++ ['^'])
  have hsecond : second.length = ("  | ".toList ++ (ellipsis before ++ front)).length + 1 := by
    simp [second, haround.caret_eq]
  refine ⟨first, second, before, front ++ rest, behind, ?_, haround.source_eq, ?_, rfl, ⟨_, rfl⟩,
    ⟨Nat.le_add_left 1 index, Nat.succ_le_succ h⟩, ?_, ?_, ?_, ?_⟩
  · unfold excerptAt
    rw [haround.window_eq]
    simp [first, second]
  · rw [List.length_append]
    exact Nat.add_le_add haround.length_front haround.length_rest
  · intro c hc
    -- what the window shows from the place on starts with the character there
    rw [Nat.add_sub_cancel, haround.source_eq, haround.index_eq, List.append_assoc,
      ← List.append_assoc, List.getElem?_append_right (Nat.le_refl _), Nat.sub_self] at hc
    cases rest with
    | nil =>
        rw [haround.behind_eq_nil rfl] at hc
        exact nomatch hc
    | cons d back =>
        obtain rfl : d = c := Option.some.inj hc
        exact ⟨front, back, rfl, congrArg (· + 1) haround.index_eq, hsecond⟩
  · intro hpast
    have hlength := congrArg List.length haround.source_eq
    have hindex := haround.index_eq
    simp only [List.length_append] at hlength hindex
    have hrest : rest = [] := List.eq_nil_of_length_eq_zero (by omega)
    have hbehind : behind = [] := haround.behind_eq_nil hrest
    refine ⟨hbehind, ?_⟩
    rw [hsecond]
    simp [first, hrest, hbehind, ellipsis]
  · have hshown : '\n' ∉ front ++ rest := by
      intro hmem
      apply hsource
      rw [haround.source_eq]
      exact List.mem_append_right _ (List.mem_append_left _ hmem)
    exact List.not_mem_append (by decide)
      (List.not_mem_append (List.not_mem_append (not_mem_ellipsis before) hshown)
        (not_mem_ellipsis behind))
  · simp [second, List.mem_replicate]

/-- A diagnostic shows a text without line breaks in two lines, with a caret that stands under the
character in the column of its byte. -/
theorem caret_below_column (hsource : '\n' ∉ source) (offset : Nat) :
    ∃ first second before shown behind,
      (ofByte source offset).column = columnAt source offset ∧
        (ofByte source offset).excerpt = String.ofList (first ++ '\n' :: (second ++ ['\n'])) ∧
        Shows source (columnAt source offset) first second before shown behind := by
  obtain ⟨first, second, before, shown, behind, hexcerpt, hshows⟩ :=
    excerptAt_shows hsource (charsBefore_le_length offset source)
  refine ⟨first, second, before, shown, behind, (columnAt_eq source offset).symm,
    congrArg String.ofList hexcerpt, ?_⟩
  rw [columnAt_eq]
  exact hshows

/-- A byte inside a character of three bytes, in a text that is cut on both sides. -/
theorem caret_below_column_cut :
    let source := List.replicate 60 '中'
    '\n' ∉ source ∧ (ofByte source 91).column = 32 ∧
      ∃ first second before shown behind,
        (ofByte source 91).excerpt = String.ofList (first ++ '\n' :: (second ++ ['\n'])) ∧
          Shows source 32 first second before shown behind := by
  intro source
  have hsource : '\n' ∉ source := by decide
  have hcolumn : columnAt source 91 = 32 := by decide +kernel
  obtain ⟨first, second, before, shown, behind, heq, hexcerpt, hshows⟩ :=
    caret_below_column hsource 91
  rw [hcolumn] at heq hshows
  exact ⟨hsource, heq, first, second, before, shown, behind, hexcerpt, hshows⟩

end Stencil.Place
