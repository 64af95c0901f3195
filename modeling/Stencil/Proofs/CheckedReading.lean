import Stencil.Proofs.Lexing
import Stencil.Proofs.Slicing

/-! # Reading with cuts

A number is followed through the characters of its source, cut out of it by its bytes, and read as
a float; the rest of a statement is cut off behind its keyword. All of these cuts are defined and
every number is accepted.
-/

namespace Stencil

namespace Lexer

/-- Follows a number through the characters at byte `pos` of the source. `stop` is the byte behind
what was followed so far, and `point` tells whether that has a point. The result is the byte behind
the number and the number of characters that were followed. -/
def followNumber? (source : List Char) (point : Bool) (stop pos : Nat) :
    List Char → Option (Nat × Nat)
  | [] => some (stop, 0)
  | c :: cs => do
    if Decimal.isDigit c then
      let (last, n) ← followNumber? source point (pos + 1) (pos + c.utf8Size) cs
      some (last, n + 1)
    else if c = '.' && !point then
      let behind ← Text.drop? (pos + 1) source
      if behind.head?.any Decimal.isDigit then
        let (last, n) ← followNumber? source true (pos + 1) (pos + c.utf8Size) cs
        some (last, n + 1)
      else some (stop, 0)
    else some (stop, 0)

/-- The number at byte `pos` of the source, where the given characters stand, and the length of its
spelling. There is none if the spelling is not accepted as a float. -/
def number? (source : List Char) (pos : Nat) (cs : List Char) : Option (Float × Nat) := do
  let (stop, n) ← followNumber? source false pos pos cs
  let spelling ← Text.slice? pos stop source
  let x ← Decimal.float? spelling
  some (x, n)

/-- The token at byte `pos` of the source, where the characters `c :: cs` stand. Only numbers are
cut out of the source by bytes. -/
def lexeme? (source : List Char) (pos : Nat) (c : Char) (cs : List Char) :
    Option (Except Problem (Token.Kind × Nat)) :=
  if !isNameStart c && Decimal.isDigit c then do
    let (x, n) ← number? source pos (c :: cs)
    some (.ok (.number x, n))
  else some (lexeme c cs)

/-- The tokens from byte `pos` of the source on, where the given characters stand. -/
def tokensFrom? (source : List Char) (pos : Nat) :
    List Char → Option (Except ParseError (List Token))
  | [] => some (.ok [])
  | c :: cs =>
    if Text.isBlank c then tokensFrom? source (pos + c.utf8Size) cs
    else do
      match ← lexeme? source pos c cs with
      | .error problem => some (.error ⟨problem, pos⟩)
      | .ok (kind, n) =>
        let behind := pos + Text.size ((c :: cs).take n)
        let tokens ← tokensFrom? source behind (cs.drop (n - 1))
        some (tokens.map (⟨kind, pos⟩ :: ·))
termination_by cs => cs.length

/-- The tokens of a text, whose numbers are cut out of it. -/
def tokens? (source : List Char) : Option (Except ParseError (List Token)) :=
  tokensFrom? source 0 source

end Lexer

namespace Parser

/-- Reads a text that is one part, by the tokens cut out of it. -/
def whole? (part : Cursor → Except ParseError α) (source : List Char) :
    Option (Except ParseError α) := do
  let tokens ← Lexer.tokens? source
  some (tokens.bind fun tokens => part ⟨tokens, Text.size source, maxOperators⟩)

end Parser

def Expr.parse? : List Char → Option (Except ParseError Expr) :=
  Parser.whole? Parser.expression.toEnd

def Pipeline.parse? : List Char → Option (Except ParseError Pipeline) :=
  Parser.whole? Parser.pipeline.toEnd

namespace Statement

/-- A statement without keywords, from the place before its tokens. -/
def rawFrom (c : Cursor) : Except ParseError Statement :=
  match c.rest with
  | ⟨.name first, _⟩ :: ⟨.name name, _⟩ :: rest =>
    if first = "let" then bindingFrom name { c with rest }
    else (Parser.expression.toEnd c).map eval
  | _ => (Parser.expression.toEnd c).map eval

def parseRaw? : List Char → Option (Except ParseError Statement) := Parser.whole? rawFrom

def condition? (keyword : Keyword) (rest : List Char) (offset : Nat) :
    Option (Except ParseError Expr) :=
  if (Text.trim rest).isEmpty then some (.error ⟨.missingCondition keyword.spelling, offset⟩)
  else do
    let test ← Expr.parse? rest
    some (test.mapError (·.shift offset))

/-- Reads a statement of the syntax mode, which is cut behind its keyword. -/
def parse? (body : List Char) : Option (Except ParseError Statement) := do
  let trimmed := Text.trim body
  let word := Text.leadingWord trimmed
  let lead ← distance? (Text.size (Text.trimStart body)) (Text.size body)
  let rest ← Text.drop? (Text.size word) trimmed
  let offset := lead + Text.size word
  match Keyword.ofWord? word with
  | some .ifWord => some ((← condition? .ifWord rest offset).map cond)
  | some .elifWord => some ((← condition? .elifWord rest offset).map elseCond)
  | some .eachWord => some ((← condition? .eachWord rest offset).map each)
  | some .elseWord =>
    if (Text.trim rest).isEmpty then some (.ok otherwise)
    else
      let gap ← distance? (Text.size (Text.trimStart rest)) (Text.size rest)
      some (.error ⟨.elseWithCondition, offset + gap⟩)
  | none => parseRaw? body

end Statement

/-! ## Numbers -/

namespace Decimal

theorem utf8Size_of_isDigit {c : Char} (h : isDigit c = true) : c.utf8Size = 1 := by
  simp only [isDigit, Bool.and_eq_true, decide_eq_true_eq] at h
  apply Char.utf8Size_eq_one_iff.mpr
  exact UInt32.le_trans h.2 (by decide)

theorem ne_of_isDigit {c d : Char} (h : isDigit c = true) (hd : isDigit d = false) : c ≠ d := by
  rintro rfl
  exact absurd h (Bool.eq_false_iff.mp hd)

theorem toLower_of_isDigit {c : Char} (h : isDigit c = true) : c.toLower = c := by
  simp only [isDigit, Bool.and_eq_true, decide_eq_true_eq] at h
  have hlt : c.val < 'A'.val := UInt32.lt_of_le_of_lt h.2 (by decide)
  apply dif_neg
  intro hupper
  exact UInt32.not_le.mpr hlt hupper.1

theorem special?_of_isDigit {c : Char} (h : isDigit c = true) (cs : List Char) :
    special? false (c :: cs) = none := by
  have hword : ∀ word : String, word.toList.head?.any isDigit = false →
      String.ofList ((c :: cs).map Char.toLower) ≠ word := by
    rintro word hfirst rfl
    rw [String.toList_ofList, List.map_cons, toLower_of_isDigit h] at hfirst
    exact absurd h (Bool.eq_false_iff.mp hfirst)
  simp only [special?, hword "inf" rfl, hword "infinity" rfl, hword "nan" rfl]
  rfl

theorem float?_of_isDigit {c : Char} (h : isDigit c = true) (cs : List Char) :
    float? (c :: cs) = (unsigned? false (c :: cs)).map Written.toFloat := by
  rw [float?]
  · simp only [special?_of_isDigit h]
  · intro ds heq
    exact ne_of_isDigit h rfl (List.cons.inj heq).1
  · intro ds heq
    exact ne_of_isDigit h rfl (List.cons.inj heq).1

/-- Digits are accepted, alone or with further digits behind a point. -/
theorem unsigned?_of_digits {whole fraction : List Char} (hne : whole ≠ [])
    (hwhole : ∀ c ∈ whole, isDigit c = true) (hfraction : ∀ c ∈ fraction, isDigit c = true) :
    unsigned? false (whole ++ if fraction.isEmpty then [] else '.' :: fraction) =
      some ⟨false, whole, fraction, 0⟩ := by
  have hempty : whole.isEmpty = false := List.isEmpty_eq_false_iff.mpr hne
  have htake := List.takeWhile_eq_self_iff.mpr hwhole
  have hdrop := List.dropWhile_eq_nil_iff.mpr hwhole
  cases fraction with
  | nil =>
      simp only [List.isEmpty_nil, if_true, List.append_nil, unsigned?, htake, hdrop, hempty]
      rfl
  | cons d ds =>
      have hpoint : isDigit '.' = false := rfl
      have hstart : (whole ++ '.' :: d :: ds).takeWhile isDigit = whole := by
        rw [takeWhile_append_cons_of_neg hpoint, htake]
      have hrest : (whole ++ '.' :: d :: ds).dropWhile isDigit = '.' :: d :: ds := by
        rw [dropWhile_append_cons_of_neg hpoint, hdrop, List.nil_append]
      simp only [List.isEmpty_cons, Bool.false_eq_true, if_false, unsigned?, hstart, hrest, hempty,
        List.takeWhile_eq_self_iff.mpr hfraction, List.dropWhile_eq_nil_iff.mpr hfraction]
      rfl

end Decimal

namespace Lexer

variable {c : Char} {cs source : List Char}

/-- The characters of a number. -/
def spelling (w : Decimal.Written) : List Char :=
  w.whole ++ if w.fraction.isEmpty then [] else '.' :: w.fraction

theorem length_spelling (w : Decimal.Written) : (spelling w).length = numeralLength w := by
  rw [spelling, List.length_append, apply_ite List.length]
  rfl

theorem spelling_digit (h : Decimal.isDigit c = true) :
    spelling (numeral (c :: cs)) = c :: spelling (numeral cs) := by
  simp only [spelling, numeral, List.takeWhile_cons_of_pos h, List.dropWhile_cons_of_pos h]
  rfl

theorem spelling_point :
    spelling (numeral ('.' :: cs)) =
      if cs.head?.any Decimal.isDigit then '.' :: cs.takeWhile Decimal.isDigit else [] := by
  have hpoint : Decimal.isDigit '.' = false := rfl
  cases cs with
  | nil => rfl
  | cons d cs => cases hd : Decimal.isDigit d <;> simp [spelling, numeral, hpoint, hd]

theorem spelling_other (h : Decimal.isDigit c = false) (hpoint : c ≠ '.') :
    spelling (numeral (c :: cs)) = [] := by
  simp [spelling, numeral, h, hpoint]

theorem spelling_prefix (cs : List Char) : spelling (numeral cs) <+: cs := by
  induction cs with
  | nil => exact List.nil_prefix
  | cons c cs ih =>
      by_cases hdigit : Decimal.isDigit c = true
      · rw [spelling_digit hdigit]
        exact (List.prefix_cons_inj c).mpr ih
      · rw [Bool.not_eq_true] at hdigit
        by_cases hpoint : c = '.'
        · subst hpoint
          rw [spelling_point]
          split
          next => exact (List.prefix_cons_inj '.').mpr (List.takeWhile_prefix _)
          next => exact List.nil_prefix
        · rw [spelling_other hdigit hpoint]
          exact List.nil_prefix

theorem isDigit_of_mem_fraction (h : c ∈ (numeral cs).fraction) : Decimal.isDigit c = true := by
  simp only [numeral] at h
  split at h
  next => exact List.mem_takeWhile_imp h
  next => exact absurd h List.not_mem_nil

theorem utf8Size_of_mem_spelling (h : c ∈ spelling (numeral cs)) : c.utf8Size = 1 := by
  rcases List.mem_append.mp h with hwhole | hfraction
  · exact Decimal.utf8Size_of_isDigit (List.mem_takeWhile_imp hwhole)
  · split at hfraction
    next => exact absurd hfraction List.not_mem_nil
    next =>
      rcases List.mem_cons.mp hfraction with rfl | hmem
      · rfl
      · exact Decimal.utf8Size_of_isDigit (isDigit_of_mem_fraction hmem)

/-- The characters with which a number goes on, behind its point or before that. -/
def followed (point : Bool) (cs : List Char) : List Char :=
  if point then cs.takeWhile Decimal.isDigit else spelling (numeral cs)

theorem followed_digit (point : Bool) (h : Decimal.isDigit c = true) :
    followed point (c :: cs) = c :: followed point cs := by
  cases point with
  | true => exact List.takeWhile_cons_of_pos h
  | false => exact spelling_digit h

/-- What is followed is the spelling of the number, all of whose characters have one byte. -/
theorem followNumber?_eq (point : Bool) {pre : List Char} {pos : Nat} (hsource : source = pre ++ cs)
    (hpos : pos = Text.size pre) :
    followNumber? source point pos pos cs =
      some (pos + (followed point cs).length, (followed point cs).length) := by
  -- The byte behind what was followed is always the one that comes next.
  induction cs generalizing point pre pos with
  | nil => cases point <;> rfl
  | cons c cs ih =>
      have hnext : source = (pre ++ [c]) ++ cs := by
        rw [hsource, List.append_assoc, List.singleton_append]
      have hstep : ∀ point', c.utf8Size = 1 →
          followNumber? source point' (pos + 1) (pos + c.utf8Size) cs =
            some (pos + ((followed point' cs).length + 1), (followed point' cs).length) := by
        intro point' hsize
        have hbehind : pos + 1 = Text.size (pre ++ [c]) := by simp [hpos, hsize]
        rw [hsize, ih point' hnext hbehind, Nat.add_right_comm, ← Nat.add_assoc]
      rw [followNumber?]
      by_cases hdigit : Decimal.isDigit c = true
      · rw [if_pos hdigit, hstep point (Decimal.utf8Size_of_isDigit hdigit),
          followed_digit point hdigit]
        rfl
      · rw [if_neg hdigit]
        rw [Bool.not_eq_true] at hdigit
        cases point with
        | true => simp [followed, hdigit]
        | false =>
            by_cases hpoint : c = '.'
            · subst hpoint
              have hdrop : Text.drop? (pos + 1) source = some cs := by
                have hsize : pos + 1 = Text.size (pre ++ ['.']) := by
                  rw [hpos, Text.size_append]
                  rfl
                rw [hsize, hnext, Text.drop?_size_append]
              have hfollowed : followed false ('.' :: cs) =
                  if cs.head?.any Decimal.isDigit then '.' :: followed true cs else [] :=
                spelling_point
              cases hhead : cs.head?.any Decimal.isDigit <;>
                simp [hdrop, hstep true rfl, hfollowed, hhead]
            · simp [followed, hpoint, spelling_other hdigit hpoint]

/-- The spelling of a number is accepted as a float. -/
theorem float?_spelling (h : Decimal.isDigit c = true) :
    Decimal.float? (spelling (numeral (c :: cs))) = some (numeral (c :: cs)).toFloat := by
  have hne : (numeral (c :: cs)).whole ≠ [] := by simp [numeral, h]
  rw [spelling_digit h, Decimal.float?_of_isDigit h, ← spelling_digit h, spelling,
    Decimal.unsigned?_of_digits hne (fun _ => List.mem_takeWhile_imp)
      fun _ => isDigit_of_mem_fraction]
  rfl

/-- A number is cut out of its source as it is spelled, and accepted. -/
theorem number?_eq {pre : List Char} {pos : Nat} (hsource : source = pre ++ c :: cs)
    (hpos : pos = Text.size pre) (hdigit : Decimal.isDigit c = true) :
    number? source pos (c :: cs) =
      some ((numeral (c :: cs)).toFloat, numeralLength (numeral (c :: cs))) := by
  obtain ⟨rest, hrest⟩ := spelling_prefix (c :: cs)
  have hslice : Text.slice? pos (pos + numeralLength (numeral (c :: cs))) source =
      some (spelling (numeral (c :: cs))) := by
    apply Text.slice?_eq_some (hsource.trans (congrArg _ hrest.symm)) hpos
    rw [hpos, ← length_spelling, Text.size_eq_length fun _ => utf8Size_of_mem_spelling]
  simp only [number?, followNumber?_eq false hsource hpos, followed, Bool.false_eq_true, if_false,
    length_spelling, hslice, float?_spelling hdigit, Option.bind_eq_bind, Option.bind_some]

theorem lexeme?_eq {pre : List Char} {pos : Nat} (hsource : source = pre ++ c :: cs)
    (hpos : pos = Text.size pre) : lexeme? source pos c cs = some (lexeme c cs) := by
  unfold lexeme?
  split
  next h =>
    simp only [Bool.and_eq_true, Bool.not_eq_true'] at h
    rw [number?_eq hsource hpos h.2]
    simp only [lexeme, h.1, h.2, if_true]
    rfl
  next => rfl

theorem tokensFrom?_eq {pre : List Char} {pos : Nat} (hsource : source = pre ++ cs)
    (hpos : pos = Text.size pre) : tokensFrom? source pos cs = some (tokensFrom pos cs) := by
  fun_induction tokensFrom pos cs generalizing pre with
  | case1 => rw [tokensFrom?]
  | case2 pos c cs hblank ih =>
      rw [tokensFrom?, if_pos hblank]
      have hnext : source = (pre ++ [c]) ++ cs := by
        rw [hsource, List.append_assoc, List.singleton_append]
      exact ih hnext (by simp [hpos])
  | case3 pos c cs hblank problem hlexeme =>
      rw [tokensFrom?, if_neg hblank, lexeme?_eq hsource hpos, hlexeme]
      rfl
  | case4 pos c cs hblank kind n hlexeme behind =>
      rename_i ih
      have hcut : source = (pre ++ (c :: cs).take n) ++ cs.drop (n - 1) := by
        rw [hsource, List.append_assoc, drop_of_lexeme hlexeme, List.take_append_drop]
      have hrest : tokensFrom? source (pos + Text.size ((c :: cs).take n)) (cs.drop (n - 1)) =
          some (tokensFrom behind (cs.drop (n - 1))) :=
        ih hcut (by rw [Text.size_append, ← hpos])
      rw [tokensFrom?, if_neg hblank, lexeme?_eq hsource hpos, hlexeme]
      simp only [Option.bind_eq_bind, Option.bind_some, hrest]
      cases tokensFrom behind (cs.drop (n - 1)) <;> rfl

/-- The tokens of a text are always defined. -/
theorem tokens?_eq (source : List Char) : tokens? source = some (tokens source) :=
  tokensFrom?_eq (List.nil_append source).symm rfl

end Lexer

/-! ## Expressions and statements -/

theorem Parser.whole?_eq {α : Type} (part : Cursor → Except ParseError α) (source : List Char) :
    whole? part source = some (start source >>= part) := by
  rw [whole?, Lexer.tokens?_eq, start]
  cases Lexer.tokens source <;> rfl

theorem Text.size_trimStart_le (cs : List Char) : size (trimStart cs) ≤ size cs := by
  have hsize := congrArg size (List.takeWhile_append_dropWhile (p := isBlank) (l := cs))
  rw [size_append] at hsize
  exact hsize ▸ Nat.le_add_left _ _

theorem Text.drop?_leadingWord (cs : List Char) :
    drop? (size (leadingWord cs)) cs = some (cs.drop (leadingWord cs).length) := by
  obtain ⟨rest, hrest⟩ : leadingWord cs <+: cs := List.takeWhile_prefix _
  generalize leadingWord cs = word at hrest
  rw [← hrest, drop?_size_append, List.drop_left]

namespace Statement

theorem condition?_eq (keyword : Keyword) (rest : List Char) (offset : Nat) :
    condition? keyword rest offset = some (condition keyword rest offset) := by
  unfold condition? condition
  split
  next => rfl
  next =>
    rw [Expr.parse?, Parser.whole?_eq]
    rfl

theorem parseRaw?_eq (source : List Char) : parseRaw? source = some (parseRaw source) := by
  rw [parseRaw?, Parser.whole?_eq]
  rfl

/-- No cut of a statement is undefined. -/
theorem parse?_eq (body : List Char) : parse? body = some (parse body) := by
  simp only [parse?, distance?_eq_some (Text.size_trimStart_le _), Text.drop?_leadingWord,
    Option.bind_eq_bind, Option.bind_some, condition?_eq, parseRaw?_eq, parse]
  cases Keyword.ofWord? (Text.leadingWord (Text.trim body)) with
  | none => rfl
  | some keyword =>
      cases keyword with
      | elseWord =>
          dsimp only
          split <;> rfl
      | _ => rfl

end Statement

end Stencil
