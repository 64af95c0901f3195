import Stencil.Diagnostic
import Stencil.Proofs.Division

/-! # Cutting at bytes

Cuts that are not defined at all places: behind the end of a text, inside one of its characters,
or behind the end of a row. The place that a diagnostic reports is made of such cuts, and all of
them are defined.
-/

namespace Stencil

/-- The number of steps from one place to another that does not lie before it. -/
def distance? (start stop : Nat) : Option Nat :=
  if start ≤ stop then some (stop - start) else none

theorem distance?_eq_some {start stop : Nat} (h : start ≤ stop) :
    distance? start stop = some (stop - start) := if_pos h

/-- The elements of a row from one index to another. -/
def part? {α : Type} (start stop : Nat) (xs : List α) : Option (List α) :=
  if start ≤ stop ∧ stop ≤ xs.length then some ((xs.drop start).take (stop - start)) else none

namespace Text

/-- The part of a text from one byte to another. There is none if one of the cuts would fall
behind the end or inside a character. -/
def slice? (start stop : Nat) (cs : List Char) : Option (List Char) := do
  let rest ← drop? start cs
  let length ← distance? start stop
  let _ ← drop? length rest
  some (take length rest)

/-- The byte at which the first occurrence of a text starts. -/
def indexOf? (needle cs : List Char) : Option Nat := (cut? needle cs).map (size ·.1)

@[simp] theorem drop?_size_append (cs ds : List Char) : drop? (size cs) (cs ++ ds) = some ds :=
  drop?_eq_some_iff.mpr ⟨cs, rfl, rfl⟩

theorem slice?_size_append (before middle behind : List Char) :
    slice? (size before) (size before + size middle) (before ++ (middle ++ behind)) =
      some middle := by
  simp only [slice?, drop?_size_append, distance?_eq_some (Nat.le_add_right _ _),
    Nat.add_sub_cancel_left, take_size_append, Option.bind_eq_bind, Option.bind_some]

theorem size_eq_length {cs : List Char} (h : ∀ c ∈ cs, c.utf8Size = 1) : size cs = cs.length := by
  induction cs with
  | nil => rfl
  | cons c cs ih =>
      obtain ⟨hc, hcs⟩ := List.forall_mem_cons.mp h
      rw [size_cons, hc, ih hcs, List.length_cons, Nat.add_comm]

/-- A part of a text, by the cuts around it. -/
theorem slice?_eq_some {start stop : Nat} {before middle behind cs : List Char}
    (hcs : cs = before ++ (middle ++ behind)) (hstart : start = size before)
    (hstop : stop = size before + size middle) : slice? start stop cs = some middle := by
  rw [hcs, hstart, hstop, slice?_size_append]

end Text

namespace Place

/-! ## Columns and excerpts -/

/-- The characters of a text that starts at byte `pos`, each with the byte at which it starts. -/
def indices : Nat → List Char → List (Nat × Char)
  | _, [] => []
  | pos, c :: cs => (pos, c) :: indices (pos + c.utf8Size) cs

/-- The column of a byte, from the characters that start before it. -/
def columnAt (source : List Char) (offset : Nat) : Nat :=
  ((indices 0 source).takeWhile (·.1 < min offset (Text.size source))).length + 1

/-- The excerpt around a byte, cut out of the characters of the text. -/
def excerpt? (source : List Char) (offset : Nat) : Option (List Char) := do
  let chars := indices 0 source
  let index := chars.findIdx (offset ≤ ·.1)
  let first := index - radius
  let last := min (index + radius) chars.length
  let shown ← part? first last chars
  let lead := if 0 < first then ['…'] else []
  let tail := if last < chars.length then ['…'] else []
  let gap ← distance? first index
  some ("  | ".toList ++ (lead ++ shown.map Prod.snd ++ tail) ++ "\n  | ".toList
    ++ List.replicate (lead.length + gap) ' ' ++ "^\n".toList)

/-- The place of a byte, made with cuts. -/
def ofByte? (source : List Char) (offset : Nat) : Option Place := do
  let excerpt ← excerpt? source offset
  some ⟨columnAt source offset, String.ofList excerpt⟩

theorem map_snd_indices (pos : Nat) (cs : List Char) : (indices pos cs).map Prod.snd = cs := by
  induction cs generalizing pos with
  | nil => rfl
  | cons c cs ih => rw [indices, List.map_cons, ih]

theorem length_indices (pos : Nat) (cs : List Char) : (indices pos cs).length = cs.length := by
  rw [← List.length_map Prod.snd, map_snd_indices]

/-- The characters that start before a byte are the first ones. -/
theorem length_takeWhile_indices (pos stop : Nat) (cs : List Char) :
    ((indices pos cs).takeWhile (·.1 < stop)).length = charsBefore (stop - pos) cs := by
  induction cs generalizing pos with
  | nil => cases stop - pos <;> rfl
  | cons c cs ih =>
      rw [indices]
      by_cases hlt : pos < stop
      · obtain ⟨n, hn⟩ := Nat.exists_eq_succ_of_ne_zero (Nat.sub_ne_zero_of_lt hlt)
        rw [List.takeWhile_cons_of_pos (by simpa using hlt), List.length_cons, ih, hn, charsBefore,
          ← Nat.succ_eq_add_one n, ← hn, Nat.sub_sub]
      · have hzero : stop - pos = 0 := Nat.sub_eq_zero_of_le (Nat.le_of_not_lt hlt)
        rw [List.takeWhile_cons_of_neg (by simpa using hlt), hzero]
        rfl

theorem findIdx_indices (offset : Nat) (cs : List Char) :
    (indices 0 cs).findIdx (offset ≤ ·.1) = charsBefore offset cs := by
  have hnot : (fun entry : Nat × Char => !decide (entry.1 < offset)) =
      fun entry => decide (offset ≤ entry.1) := by
    funext entry
    rw [← decide_not, decide_eq_decide, Nat.not_lt]
  -- The search stops behind the characters that start before the byte.
  have hcount := length_takeWhile_indices 0 offset cs
  rw [List.takeWhile_eq_take_findIdx_not, hnot, List.length_take,
    Nat.min_eq_left List.findIdx_le_length] at hcount
  exact hcount

theorem charsBefore_le_length (offset : Nat) (cs : List Char) :
    charsBefore offset cs ≤ cs.length := by
  rw [← findIdx_indices, ← length_indices 0 cs]
  exact List.findIdx_le_length

theorem charsBefore_of_size_le {offset : Nat} {cs : List Char} (h : Text.size cs ≤ offset) :
    charsBefore offset cs = cs.length := by
  induction cs generalizing offset with
  | nil => cases offset <;> rfl
  | cons c cs ih =>
      have hpos := c.utf8Size_pos
      rw [Text.size_cons] at h
      obtain ⟨n, rfl⟩ := Nat.exists_eq_succ_of_ne_zero (n := offset) (by omega)
      rw [charsBefore, ih (by omega), List.length_cons]

theorem columnAt_eq (source : List Char) (offset : Nat) :
    columnAt source offset = charsBefore offset source + 1 := by
  rw [columnAt, length_takeWhile_indices, Nat.sub_zero]
  rcases Nat.le_total offset (Text.size source) with hle | hle
  · rw [Nat.min_eq_left hle]
  · rw [Nat.min_eq_right hle, charsBefore_of_size_le hle, charsBefore_of_size_le (Nat.le_refl _)]

theorem excerpt?_eq (source : List Char) (offset : Nat) :
    excerpt? source offset = some (excerptAt source (charsBefore offset source)) := by
  have hle := charsBefore_le_length offset source
  have hpart : ∀ first last, first ≤ last → last ≤ source.length →
      part? first last (indices 0 source) =
        some (((indices 0 source).drop first).take (last - first)) := by
    intro first last hfirst hlast
    exact if_pos ⟨hfirst, by rwa [length_indices]⟩
  simp only [excerpt?, findIdx_indices, length_indices]
  rw [hpart _ _ (by omega) (Nat.min_le_right _ _), distance?_eq_some (Nat.sub_le _ _)]
  simp only [Option.bind_eq_bind, Option.bind_some, List.map_take, List.map_drop, map_snd_indices]
  rw [apply_ite List.length]
  rfl

/-- Every byte has a place: no cut around it is undefined. -/
theorem ofByte?_eq (source : List Char) (offset : Nat) :
    ofByte? source offset = some (ofByte source offset) := by
  rw [ofByte?, excerpt?_eq, columnAt_eq]
  rfl

end Place

end Stencil
