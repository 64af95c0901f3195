import Mathlib.Data.List.TakeWhile
import Stencil.Proofs.Operation
import Stencil.Proofs.Lexing

/-! # The syntax mode

The syntax mode adds statements and takes nothing away: a text that can be scanned without it is
scanned with it to the same segments, and what it adds are exactly the texts with statements of
blocks.
-/

namespace Stencil

namespace Text

theorem exists_eq_trimEnd_append (cs : List Char) :
    ∃ blank, cs = trimEnd cs ++ blank ∧ ∀ c ∈ blank, isBlank c := by
  refine ⟨(cs.reverse.takeWhile isBlank).reverse, ?_, ?_⟩
  · rw [trimEnd, trimStart, ← List.reverse_append, List.takeWhile_append_dropWhile,
      List.reverse_reverse]
  · intro c hc
    exact List.mem_takeWhile_imp (List.mem_reverse.mp hc)

/-- Blanks at the end of a text are no part of its leading word. -/
theorem leadingWord_trimEnd (cs : List Char) : leadingWord (trimEnd cs) = leadingWord cs := by
  obtain ⟨blank, hcs, hblank⟩ := exists_eq_trimEnd_append cs
  have hnil : blank.takeWhile (!isBlank ·) = [] := by
    cases blank with
    | nil => rfl
    | cons c blank => simp [hblank c List.mem_cons_self]
  have hlead : (trimEnd cs ++ blank).takeWhile (!isBlank ·) =
      (trimEnd cs).takeWhile (!isBlank ·) := by
    rw [List.takeWhile_append, hnil]
    split
    next hall => rw [List.append_nil, (List.takeWhile_prefix _).eq_of_length hall]
    next => rfl
  rw [leadingWord, leadingWord, ← hlead, ← hcs]

theorem leadingWord_trim (cs : List Char) : leadingWord (trim cs) = firstWord cs := by
  rw [trim, leadingWord_trimEnd, firstWord]

end Text

/-- Whether a statement opens, splits or closes a block. -/
def Statement.isBlock : Statement → Bool
  | cond _ | elseCond _ | otherwise | each _ | close => true
  | bind _ _ | eval _ => false

/-- Whether a segment is a statement of a block. -/
def Segment.isBlock : Segment → Bool
  | statement s _ => s.isBlock
  | _ => false

theorem Segment.isBlock_of_mem_some {s t : Segment} (hs : s.isBlock = false) (ht : t ∈ some s) :
    t.isBlock = false := by
  cases Option.mem_some_iff.mp ht
  exact hs

namespace Statement

variable {body : List Char} {s : Statement}

theorem isBlock_of_parseRaw (h : parseRaw body = .ok s) : s.isBlock = false := by
  have heval : ∀ c, (Parser.expression.toEnd c).map eval = .ok s → s.isBlock = false := by
    intro c hs
    obtain ⟨e, -, rfl⟩ := map_eq_ok_iff.mp hs
    rfl
  obtain ⟨c, -, h⟩ := bind_eq_ok_iff.mp h
  split at h
  next first _ name _ rest _ =>
    split at h
    next =>
      obtain ⟨after, -, h⟩ := bind_eq_ok_iff.mp h
      obtain ⟨value, -, h⟩ := bind_eq_ok_iff.mp h
      cases h
      rfl
    next => exact heval c h
  next => exact heval c h

/-- A statement that starts with no keyword is read as it is without the syntax mode. -/
theorem parse_of_leading?_eq_none (h : Keyword.leading? body = none) :
    parse body = parseRaw body := by
  rw [Keyword.leading?, ← Text.leadingWord_trim] at h
  simp only [parse, h]

/-- A statement that starts with a keyword belongs to a block. -/
theorem isBlock_of_leading? {keyword : Keyword} (h : Keyword.leading? body = some keyword)
    (hs : parse body = .ok s) : s.isBlock = true := by
  rw [Keyword.leading?, ← Text.leadingWord_trim] at h
  simp only [parse, h] at hs
  cases keyword with
  | ifWord =>
      obtain ⟨e, -, rfl⟩ := map_eq_ok_iff.mp hs
      rfl
  | elifWord =>
      obtain ⟨e, -, rfl⟩ := map_eq_ok_iff.mp hs
      rfl
  | eachWord =>
      obtain ⟨e, -, rfl⟩ := map_eq_ok_iff.mp hs
      rfl
  | elseWord =>
      simp only at hs
      split at hs
      next =>
        cases hs
        rfl
      next => exact nomatch hs

end Statement

section Modes

variable {registry : Registry} {source : List Char}

namespace Directive

theorem statement_plain_iff {d : Directive} {segment : Option Segment} :
    d.statement false source = .ok segment ↔
      d.statement true source = .ok segment ∧ ∀ s ∈ segment, s.isBlock = false := by
  simp only [statement]
  split
  next =>
    -- a blank statement gives no segment in either mode
    constructor
    · intro h
      cases h
      exact ⟨rfl, fun s hs => nomatch hs⟩
    · exact And.left
  next =>
    cases hleading : Keyword.leading? (unescaped d.body) with
    | none =>
        simp only [Statement.parse_of_leading?_eq_none hleading, Option.isSome_none,
          Bool.and_false, Bool.false_eq_true, if_false, ite_self]
        cases hraw : Statement.parseRaw (unescaped d.body) with
        | error e => simp
        | ok s =>
            simp only [Except.ok.injEq]
            constructor
            · rintro rfl
              refine ⟨rfl, ?_⟩
              intro t
              exact Segment.isBlock_of_mem_some (Statement.isBlock_of_parseRaw hraw)
            · exact And.left
    | some keyword =>
        simp only [Option.isSome_some, Bool.and_true, Bool.not_false, if_true, Bool.not_true,
          Bool.false_eq_true, if_false]
        cases hparse : Statement.parse (unescaped d.body) with
        | error e => simp
        | ok s =>
            simp only [Except.ok.injEq, reduceCtorEq, false_iff]
            rintro ⟨rfl, hblock⟩
            have hkeyword := Statement.isBlock_of_leading? hleading hparse
            exact Bool.false_ne_true ((hblock _ rfl).symm.trans hkeyword)

/-- A directive is read without the syntax mode exactly if it is read with it as something else
than a statement of a block. -/
theorem read_plain_iff {d : Directive} {segment : Option Segment} :
    d.read ⟨registry, false⟩ source = .ok segment ↔
      d.read ⟨registry, true⟩ source = .ok segment ∧ ∀ s ∈ segment, s.isBlock = false := by
  unfold read
  split
  next =>
    refine (and_iff_left_of_imp ?_).symm
    intro h t ht
    cases h
    exact Segment.isBlock_of_mem_some rfl ht
  next =>
    refine (and_iff_left_of_imp ?_).symm
    intro h t ht
    cases h
    exact Segment.isBlock_of_mem_some rfl ht
  next =>
    refine (and_iff_left_of_imp ?_).symm
    intro h t ht
    obtain ⟨s, hs, rfl⟩ := map_eq_ok_iff.mp h
    unfold output at hs
    split at hs
    next => exact nomatch hs
    next =>
      obtain ⟨filters, -, hs⟩ := bind_eq_ok_iff.mp hs
      cases hs
      exact Segment.isBlock_of_mem_some rfl ht
  next => exact statement_plain_iff
  next =>
    simp only [Bool.false_eq_true, if_false, if_true, Except.ok.injEq, reduceCtorEq, false_iff]
    rintro ⟨rfl, hblock⟩
    exact Bool.false_ne_true (hblock _ rfl).symm

end Directive

namespace Piece

theorem readAll_plain_iff {pieces : List Piece} {segments : List Segment} :
    readAll ⟨registry, false⟩ source pieces = .ok segments ↔
      readAll ⟨registry, true⟩ source pieces = .ok segments ∧
        ∀ s ∈ segments, s.isBlock = false := by
  induction pieces generalizing segments with
  | nil =>
      constructor
      · intro h
        cases h
        exact ⟨rfl, fun s hs => nomatch hs⟩
      · exact And.left
  | cons piece pieces ih =>
      have hpiece : ∀ segment, piece.read ⟨registry, false⟩ source = .ok segment ↔
          piece.read ⟨registry, true⟩ source = .ok segment ∧ ∀ s ∈ segment, s.isBlock = false := by
        intro segment
        cases piece with
        | directive d => exact Directive.read_plain_iff
        | text content =>
            refine (and_iff_left_of_imp ?_).symm
            intro h t ht
            cases h
            exact Segment.isBlock_of_mem_some rfl ht
      simp only [readAll, bind_eq_ok_iff, Except.ok.injEq]
      constructor
      · rintro ⟨segment, hsegment, rest, hrest, rfl⟩
        obtain ⟨hsegment, hhead⟩ := (hpiece segment).mp hsegment
        obtain ⟨hrest, htail⟩ := ih.mp hrest
        refine ⟨⟨segment, hsegment, rest, hrest, rfl⟩, ?_⟩
        intro s hs
        rcases List.mem_append.mp hs with hs | hs
        · exact hhead s (Option.mem_toList.mp hs)
        · exact htail s hs
      · rintro ⟨⟨segment, hsegment, rest, hrest, rfl⟩, hblock⟩
        refine ⟨segment, (hpiece segment).mpr ⟨hsegment, ?_⟩, rest, ih.mpr ⟨hrest, ?_⟩, rfl⟩
        · intro s hs
          exact hblock s (List.mem_append_left _ (Option.mem_toList.mpr hs))
        · intro s hs
          exact hblock s (List.mem_append_right _ hs)

end Piece

/-- What compiles without the syntax mode compiles to the same with it. -/
theorem Compiled.ofSource_of_plain {signs : Signs} {compiled : Compiled}
    (h : ofSource signs ⟨registry, false⟩ source = .ok compiled) :
    ofSource signs ⟨registry, true⟩ source = .ok compiled := by
  obtain ⟨segments, hscan, htree⟩ := bind_eq_ok_iff.mp h
  exact bind_eq_ok_iff.mpr ⟨segments, (Piece.readAll_plain_iff.mp hscan).1, htree⟩

end Modes

namespace Engine

/-- A template of an engine without the syntax mode is also the one that it prepares with it. -/
theorem prepare_of_plain {e : Engine} {source : List Char} {template : Template}
    (hmode : e.syntaxMode = false) (h : (e.prepare source).result = .ok template) :
    ({ e with syntaxMode := true }.prepare source).result = .ok template := by
  rcases e.prepare_cases source with
    ⟨other, hcached, hresult, _⟩ | ⟨d, _, _, hresult, _⟩ | ⟨compiled, hnone, hfresh, hresult, _⟩
  · rw [hresult] at h
    have hcached' : cached? { e with syntaxMode := true } source = some other := hcached
    rw [prepare, hcached', ← h]
  · exact nomatch hresult.symm.trans h
  · rw [hresult] at h
    have hnone' : cached? { e with syntaxMode := true } source = none := hnone
    rw [freshly, dialect, hmode] at hfresh
    have hfresh' := Compiled.ofSource_of_plain hfresh
    rw [prepare, hnone', ← h]
    simp only [compileFresh, dialect, hfresh']

end Engine

/-- The syntax mode is a conservative extension. Without it a scan succeeds exactly if it does so
with it and no statement of a block is found, and then the segments are the same. Hence what
compiles without it compiles with it to the same template, which any engine renders alike. -/
theorem syntaxMode_conservative (signs : Signs) (registry : Registry) :
    (∀ text segments, signs.scan ⟨registry, false⟩ text = .ok segments ↔
      signs.scan ⟨registry, true⟩ text = .ok segments ∧ ∀ s ∈ segments, s.isBlock = false) ∧
    (∀ source compiled, Compiled.ofSource signs ⟨registry, false⟩ source = .ok compiled →
      Compiled.ofSource signs ⟨registry, true⟩ source = .ok compiled) ∧
    ∀ (e : Engine) source template, e.syntaxMode = false →
      (e.prepare source).result = .ok template →
        ({ e with syntaxMode := true }.prepare source).result = .ok template ∧
        ∀ data, ({ e with syntaxMode := true }.render source data).result =
          (e.render source data).result := by
  refine ⟨fun text segments => Piece.readAll_plain_iff, fun source compiled => ?_, ?_⟩
  · exact Compiled.ofSource_of_plain
  · intro e source template hmode h
    have hprepare := Engine.prepare_of_plain hmode h
    refine ⟨hprepare, ?_⟩
    intro data
    rw [Engine.render_result, Engine.render_result, hprepare, h]

/-- A binding is the same statement in both modes. -/
theorem syntaxMode_conservative_binding :
    let text := "\x7b@let x = a@\x7db".toList
    let segments := [.statement (.bind "x" (.name "a")) 0, .text ['b']]
    Signs.standard.scan ⟨.builtin, false⟩ text = .ok segments ∧
      Signs.standard.scan ⟨.builtin, true⟩ text = .ok segments := by
  intro text segments
  have htokens : Lexer.tokens "let x = a".toList =
      .ok [⟨.name "let", 0⟩, ⟨.name "x", 4⟩, ⟨.sign .assign, 6⟩, ⟨.name "a", 8⟩] := by
    have hvalue : Lexer.tokensFrom 7 " a".toList = .ok [⟨.name "a", 8⟩] :=
      (Lexer.tokensFrom_blank (by decide) _ _).trans
        (Lexer.tokensFrom_cons (n := 1) (by decide) (by rfl) (Lexer.tokensFrom_nil 9))
    have hassign : Lexer.tokensFrom 5 " = a".toList =
        .ok [⟨.sign .assign, 6⟩, ⟨.name "a", 8⟩] :=
      (Lexer.tokensFrom_blank (by decide) _ _).trans
        (Lexer.tokensFrom_cons (n := 1) (by decide) (by rfl) hvalue)
    have hname : Lexer.tokensFrom 3 " x = a".toList =
        .ok [⟨.name "x", 4⟩, ⟨.sign .assign, 6⟩, ⟨.name "a", 8⟩] :=
      (Lexer.tokensFrom_blank (by decide) _ _).trans
        (Lexer.tokensFrom_cons (n := 1) (by decide) (by rfl) hassign)
    exact Lexer.tokensFrom_cons (n := 3) (by decide) (by rfl) hname
  have hparse : Statement.parseRaw "let x = a".toList = .ok (.bind "x" (.name "a")) := by
    rw [Statement.parseRaw, Grammar.start_eq_ok_iff.mpr ⟨_, htokens, rfl⟩]
    rfl
  have hpieces : Signs.standard.pieces text =
      [.directive ⟨.statement, 0, 2, "let x = a".toList, 13⟩, .text ['b']] := by rfl
  have hplain : Signs.standard.scan ⟨.builtin, false⟩ text = .ok segments := by
    have hunescaped : Directive.unescaped "let x = a".toList = "let x = a".toList := by
      decide +kernel
    simp only [Signs.scan, hpieces, Piece.readAll, Piece.read, Directive.read, Directive.statement,
      hunescaped, hparse]
    rfl
  exact ⟨hplain, (((syntaxMode_conservative .standard .builtin).1 text segments).mp hplain).1⟩

end Stencil
