/-! # Texts

A text is a list of characters. Places in it are counted in bytes of its UTF-8 form, so a cut
is possible only between two characters. The search functions work on the first occurrence.
-/

namespace Stencil.Text

/-- The number of bytes of a text in UTF-8. -/
def size : List Char → Nat
  | [] => 0
  | c :: cs => c.utf8Size + size cs

@[simp] theorem size_nil : size [] = 0 := rfl

@[simp] theorem size_cons (c : Char) (cs : List Char) :
    size (c :: cs) = c.utf8Size + size cs := rfl

@[simp] theorem size_append (cs ds : List Char) : size (cs ++ ds) = size cs + size ds := by
  induction cs with
  | nil => simp
  | cons c cs ih => simp [ih, Nat.add_assoc]

/-- What follows the first `n` bytes. There is no such text when the cut would fall behind the
end or inside a character. -/
def drop? : Nat → List Char → Option (List Char)
  | 0, cs => some cs
  | _ + 1, [] => none
  | n + 1, c :: cs => if c.utf8Size ≤ n + 1 then drop? (n + 1 - c.utf8Size) cs else none

/-- The longest start of a text within its first `n` bytes. -/
def take (n : Nat) : List Char → List Char
  | [] => []
  | c :: cs => if c.utf8Size ≤ n then c :: take (n - c.utf8Size) cs else []

/-- What is left of a text behind `take n`. -/
def drop (n : Nat) : List Char → List Char
  | [] => []
  | c :: cs => if c.utf8Size ≤ n then drop (n - c.utf8Size) cs else c :: cs

theorem take_append_drop (n : Nat) (cs : List Char) : take n cs ++ drop n cs = cs := by
  induction cs generalizing n with
  | nil => rfl
  | cons c cs ih =>
    by_cases h : c.utf8Size ≤ n
    · simp [take, drop, h, ih]
    · simp [take, drop, h]

/-- What follows `needle` at the start of a text, if the text starts with it. -/
def after? : List Char → List Char → Option (List Char)
  | [], cs => some cs
  | _ :: _, [] => none
  | n :: ns, c :: cs => if n = c then after? ns cs else none

theorem after?_eq_some_iff {needle cs rest : List Char} :
    after? needle cs = some rest ↔ cs = needle ++ rest := by
  fun_induction after? needle cs <;> simp_all [eq_comm]

/-- The text around the first occurrence of `needle`: what precedes it and what follows it. -/
def cut? (needle : List Char) : List Char → Option (List Char × List Char)
  | [] => if needle.isEmpty then some ([], []) else none
  | c :: cs =>
    match after? needle (c :: cs) with
    | some after => some ([], after)
    | none => (cut? needle cs).map fun (before, after) => (c :: before, after)

theorem eq_append_of_cut? {needle cs before after : List Char}
    (h : cut? needle cs = some (before, after)) : cs = before ++ (needle ++ after) := by
  fun_induction cut? needle cs generalizing before with
  | case1 hempty => simp_all
  | case2 => simp at h
  | case3 c cs rest hrest =>
    simp only [Option.some.injEq, Prod.mk.injEq] at h
    obtain ⟨rfl, rfl⟩ := h
    simpa using after?_eq_some_iff.mp hrest
  | case4 c cs _ ih =>
    obtain ⟨⟨front, back⟩, hcut, heq⟩ := Option.map_eq_some_iff.mp h
    simp only [Prod.mk.injEq] at heq
    obtain ⟨rfl, rfl⟩ := heq
    rw [ih hcut, List.cons_append]

/-- Writes `word` for every occurrence of `needle`, from left to right without overlaps. The
first argument counts the characters of an occurrence that are still to be skipped. -/
def replaceFrom (needle word : List Char) : Nat → List Char → List Char
  | _, [] => []
  | skip + 1, _ :: cs => replaceFrom needle word skip cs
  | 0, c :: cs =>
    if (after? needle (c :: cs)).isSome then
      word ++ replaceFrom needle word (needle.length - 1) cs
    else
      c :: replaceFrom needle word 0 cs

/-- Writes `word` for every occurrence of the nonempty text `needle`. -/
def replace (needle word : List Char) (cs : List Char) : List Char :=
  replaceFrom needle word 0 cs

/-- Reads a part at the start of a text: the part and what follows it. -/
abbrev Reader (α : Type) := List Char → Option (α × List Char)

end Stencil.Text
