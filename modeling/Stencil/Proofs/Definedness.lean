import Stencil.Proofs.CheckedScan
import Stencil.Proofs.Operation

/-! # Nothing is undefined

An engine whose every cut may be undefined gives the same results as one that cuts freely. So no
source, markers, filters or data make it stop without a text or a diagnostic.
-/

namespace Stencil

/-! ## Digests -/

namespace Digest

theorem utf8Size_digitChar (n : Nat) : n.digitChar.utf8Size = 1 := by
  -- Behind the digits of base 16 every number has the same sign.
  have hsmall : ∀ n < 16, n.digitChar.utf8Size = 1 := by decide
  rcases Nat.lt_or_ge n 16 with hlt | hge
  · exact hsmall n hlt
  · rw [Nat.digitChar_eq_star.mpr hge]
    rfl

theorem utf8Size_of_mem_toDigitsCore {c : Char} {base fuel n : Nat} {cs : List Char}
    (hcs : ∀ d ∈ cs, d.utf8Size = 1) (h : c ∈ Nat.toDigitsCore base fuel n cs) :
    c.utf8Size = 1 := by
  induction fuel generalizing n cs with
  | zero => exact hcs c h
  | succ fuel ih =>
      have hcons : ∀ d ∈ (n % base).digitChar :: cs, d.utf8Size = 1 :=
        List.forall_mem_cons.mpr ⟨utf8Size_digitChar _, hcs⟩
      rw [Nat.toDigitsCore] at h
      split at h
      next => exact hcons c h
      next => exact ih hcons h

theorem utf8Size_of_mem_ofText {c : Char} {cs : List Char} (h : c ∈ ofText cs) :
    c.utf8Size = 1 := by
  obtain ⟨word, -, hword⟩ := List.mem_flatMap.mp h
  rcases List.mem_append.mp hword with hzero | hdigit
  · rw [List.eq_of_mem_replicate hzero]
    rfl
  · exact utf8Size_of_mem_toDigitsCore (fun _ hd => absurd hd List.not_mem_nil) hdigit

theorem length_flatMap_hexWord (words : List UInt32) :
    8 * words.length ≤ (words.flatMap hexWord).length := by
  induction words with
  | nil => exact Nat.le_refl _
  | cons w words ih =>
      simp only [List.flatMap_cons, List.length_cons, List.length_append, hexWord,
        List.length_replicate]
      omega

/-- A start of a digest can be cut out. -/
theorem slice?_ofText {n : Nat} (hn : n ≤ 64) (cs : List Char) :
    Text.slice? 0 n (ofText cs) = some ((ofText cs).take n) := by
  have hlength : 64 ≤ (ofText cs).length :=
    length_flatMap_hexWord (ofBytes (cs.flatMap String.utf8EncodeChar)).words
  have hsize : Text.size ((ofText cs).take n) = n := by
    rw [Text.size_eq_length fun _ hc => utf8Size_of_mem_ofText (List.mem_of_mem_take hc),
      List.length_take, Nat.min_eq_left (hn.trans hlength)]
  have hsplit : ofText cs = [] ++ ((ofText cs).take n ++ (ofText cs).drop n) :=
    (List.take_append_drop n _).symm
  apply Text.slice?_eq_some hsplit rfl
  rw [hsize, Text.size_nil, Nat.zero_add]

end Digest

/-! ## The engine -/

def BlockProblem.diagnostic? (problem : BlockProblem) (source : List Char) (offset : Nat) :
    Option Diagnostic := do
  let place ← Place.ofByte? source offset
  some (match problem with
    | tooDeep => .malformed problem.message none place
    | _ => .unbalanced problem.message place)

/-- Compiles a source with cuts. Building the tree cuts nothing, but its problems have places. -/
def Compiled.ofSource? (signs : Signs) (dialect : Dialect) (source : List Char) :
    Option (Except Diagnostic Compiled) := do
  let text ← signs.preprocess? source
  match ← signs.scan? dialect text with
  | .error d => some (.error d)
  | .ok segments =>
    match Node.ofSegments segments with
    | .error e =>
      let d ← e.problem.diagnostic? text e.offset
      some (.error d)
    | .ok nodes => some (.ok ⟨segments, nodes⟩)

namespace Engine

/-- Prepares a source with cuts. A template that is found in the cache is announced by the start of
its digest. -/
def prepare? (e : Engine) (source : List Char) : Option (Except Diagnostic Compiled) := do
  match e.cached? source with
  | some template =>
    let _announced ← Text.slice? 0 12 (Digest.ofText source)
    some (.ok template.compiled)
  | none => Compiled.ofSource? e.signs e.dialect source

/-- Renders a source with cuts. Evaluation cuts nothing. -/
def render? (e : Engine) (source : List Char) (data : Value) :
    Option (Except Diagnostic (List Char)) := do
  let prepared ← e.prepare? source
  some (prepared.bind (·.render data))

end Engine

theorem Compiled.ofSource?_eq (signs : Signs) (dialect : Dialect) (source : List Char) :
    ofSource? signs dialect source = some (ofSource signs dialect source) := by
  rw [ofSource?, ofSource, Signs.preprocess?_eq]
  simp only [Option.bind_eq_bind, Option.bind_some, Signs.scan?_eq]
  cases signs.scan dialect (signs.preprocess source) with
  | error d => rfl
  | ok segments =>
      simp only [bind, Except.bind]
      cases Node.ofSegments segments with
      | ok nodes => rfl
      | error e =>
          simp only [BlockProblem.diagnostic?, Place.ofByte?_eq]
          cases e.problem <;> rfl

namespace Engine

theorem prepare?_eq (e : Engine) (source : List Char) :
    e.prepare? source = some ((e.prepare source).result.map Template.compiled) := by
  rw [prepare?, prepare]
  cases e.cached? source with
  | some template =>
      rw [Digest.slice?_ofText (by decide)]
      rfl
  | none =>
      simp only [Compiled.ofSource?_eq, compileFresh]
      cases Compiled.ofSource e.signs e.dialect source <;> rfl

theorem render?_eq (e : Engine) (source : List Char) (data : Value) :
    e.render? source data = some (e.render source data).result := by
  rw [render?, prepare?_eq, render_result]
  rfl

/-- No cut is ever undefined. A search, and the loops that erase comments and read directives, which
advance at each step; the tokens of a text, whose numbers are all accepted, and its statements; the
column and the excerpt of a place; and the rendering of any source by any engine with any data: all
of them are defined, and have the results that they have with cuts that are total. -/
theorem never_undefined (e : Engine) (source : List Char) (data : Value) :
    (∀ kind text pos, Signs.findAt? (e.signs.get kind) kind text pos =
      some (e.signs.findFrom? kind text pos)) ∧
    (∀ kind text pos o, Signs.findAt? (e.signs.get kind) kind text pos = some (some o) →
      pos < o.stop ∧ o.stop ≤ Text.size text) ∧
    e.signs.preprocess? source = some (e.signs.preprocess source) ∧
    (∀ text, e.signs.scan? e.dialect text = some (e.signs.scan e.dialect text)) ∧
    (∀ body, Lexer.tokens? body = some (Lexer.tokens body)) ∧
    (∀ body, Statement.parse? body = some (Statement.parse body)) ∧
    (∀ text offset, Place.ofByte? text offset = some (Place.ofByte text offset)) ∧
    e.render? source data = some (e.render source data).result := by
  refine ⟨Signs.findAt?_eq e.signs, ?_, Signs.preprocess?_eq e.signs source,
    Signs.scan?_eq e.signs e.dialect, Lexer.tokens?_eq, Statement.parse?_eq, Place.ofByte?_eq,
    e.render?_eq source data⟩
  intro kind text pos o hfound
  rw [Signs.findAt?_eq] at hfound
  exact Signs.stop_of_findFrom? (Option.some.inj hfound)

end Engine

end Stencil
