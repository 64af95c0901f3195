import Stencil.Proofs.CheckedReading
import Stencil.Proofs.Conservation

/-! # Scanning with cuts

Everything is cut out of one text by its bytes: a search looks behind a byte, the loops that erase
silent comments and read directives go on at the byte where a directive stops, and a directive cuts
out its body. All of these cuts are defined, and the loops advance at each step.
-/

namespace Stencil

/-- The place of a kind in the order of kinds. -/
def Kind.index : Kind → Nat
  | silent => 0
  | comment => 1
  | output => 2
  | statement => 3
  | blockEnd => 4

namespace Signs

variable (signs : Signs)

/-- The markers of a kind, from a table in the order of kinds. -/
def matcher? (kind : Kind) : Option Markers := (Kind.all.map signs.get)[kind.index]?

/-- The search for a directive between markers at or behind byte `pos` of a text, by cuts. The text
has no directive behind a byte at which it cannot be cut. -/
def findAt? (m : Markers) (kind : Kind) (text : List Char) (pos : Nat) :
    Option (Option Occurrence) :=
  match (Text.drop? pos text).bind (Text.indexOf? m.opening) with
  | none => some none
  | some gap => do
    let start := pos + gap
    let bodyStart := start + Text.size m.opening
    match ← Text.drop? bodyStart text with
    | [] => some none
    | first :: _ =>
      let behindFirst := bodyStart + first.utf8Size
      let behind ← Text.drop? behindFirst text
      some ((Text.indexOf? m.closing behind).map fun gap =>
        ⟨kind, start, bodyStart, behindFirst + gap, behindFirst + gap + Text.size m.closing⟩)

/-- The text from byte `pos` on without silent comments. A search that does not advance is not
defined. -/
def eraseFrom? (m : Markers) (text : List Char) (pos : Nat) : Option (List Char) := do
  match ← findAt? m .silent text pos with
  | none => Text.drop? pos text
  | some o =>
    let kept ← Text.slice? pos o.start text
    if _h : pos < o.stop ∧ o.stop ≤ Text.size text then
      let rest ← eraseFrom? m text o.stop
      some (kept ++ rest)
    else none
termination_by Text.size text - pos

def preprocess? (source : List Char) : Option (List Char) := do
  let m ← signs.matcher? .silent
  eraseFrom? m (stripLineBreaks source) 0

end Signs

/-! ## Directives -/

namespace Directive

def malformed? (source : List Char) (offset : Nat) (problem : Problem) : Option Diagnostic := do
  let place ← Place.ofByte? source offset
  some (.malformed problem.message none place)

def resolve? (registry : Registry) (source : List Char) (start : Nat) :
    List (String × Nat) → Option (Except Diagnostic (List FilterCall))
  | [] => some (.ok [])
  | (name, offset) :: rest => do
    match registry.get? name with
    | none =>
      let place ← Place.ofByte? source (start + offset)
      some (.error (.unknownFilter name place))
    | some filter =>
      let calls ← resolve? registry source start rest
      some (calls.map (⟨name, filter⟩ :: ·))

/-- Reads an output directive with the given body. -/
def output? (registry : Registry) (source : List Char) (bodyStart : Nat) (body : List Char) :
    Option (Except Diagnostic Segment) := do
  match ← Pipeline.parse? body with
  | .error e =>
    let d ← malformed? source (bodyStart + e.pos) e.problem
    some (.error d)
  | .ok pipeline =>
    let filters ← resolve? registry source bodyStart pipeline.filters
    some (filters.map fun filters => .output ⟨pipeline.base, filters⟩)

/-- Reads a statement directive with the given body. -/
def statement? (syntaxMode : Bool) (source : List Char) (o : Occurrence) (inner : List Char) :
    Option (Except Diagnostic (Option Segment)) := do
  let body := unescaped inner
  let trimmed := Text.trim body
  if trimmed.isEmpty then some (.ok none)
  else if !syntaxMode && (Keyword.leading? body).isSome then
    let place ← Place.ofByte? source o.bodyStart
    some (.error (.malformed ("无法解析语句：" ++ String.ofList trimmed)
      (some "if / elif / else / each 仅在语法模式下可用") place))
  else
    let parse := if syntaxMode then Statement.parse? else Statement.parseRaw?
    match ← parse body with
    | .error e =>
      let d ← malformed? source o.bodyStart e.problem
      some (.error d)
    | .ok s => some (.ok (some (.statement s o.start)))

/-- Reads the directive at a place of a text, and cuts its body out of it. -/
def readAt? (dialect : Dialect) (source : List Char) (o : Occurrence) :
    Option (Except Diagnostic (Option Segment)) := do
  let inner ← Text.slice? o.bodyStart o.bodyStop source
  match o.kind with
  | .silent => some (.ok (some .silent))
  | .comment => some (.ok (some (.comment inner)))
  | .output =>
    let segment ← output? dialect.registry source o.bodyStart inner
    some (segment.map some)
  | .statement => statement? dialect.syntaxMode source o inner
  | .blockEnd =>
    if dialect.syntaxMode then some (.ok (some (.statement .close o.start)))
    else
      let place ← Place.ofByte? source o.start
      some (.error (.blockEndOutside place))

end Directive

/-! ## The scan -/

/-- The segment of the text between two bytes, which is cut out if it is not empty. -/
def Segment.between? (text : List Char) (start stop : Nat) : Option (List Segment) := do
  if start < stop then
    let cs ← Text.slice? start stop text
    some [.text cs]
  else some []

/-- Searches again for a kind if that is due. -/
def Memory.refresh? (signs : Signs) (kind : Kind) (text : List Char) (pos : Nat)
    (memory : Memory) : Option Memory := do
  if memory.isStale pos then
    let found ← Signs.findAt? (signs.get kind) kind text pos
    some (.ofSearch found)
  else some memory

def Memories.refresh? (signs : Signs) (text : List Char) (pos : Nat) (memories : Memories) :
    Option Memories :=
  memories.mapM fun entry => (entry.2.refresh? signs entry.1 text pos).map (entry.1, ·)

namespace Signs

/-- The segments of a text from byte `pos` on. A scan that does not advance behind a directive is
not defined. -/
def scanFrom? (signs : Signs) (dialect : Dialect) (text : List Char) (pos : Nat)
    (memories : Memories) : Option (Except Diagnostic (List Segment)) := do
  let memories ← memories.refresh? signs text pos
  match memories.next? with
  | none =>
    let rest ← Segment.between? text pos (Text.size text)
    some (.ok rest)
  | some o =>
    let before ← Segment.between? text pos o.start
    match ← Directive.readAt? dialect text o with
    | .error d => some (.error d)
    | .ok segment =>
      if _h : pos < o.stop ∧ o.stop ≤ Text.size text then
        let rest ← scanFrom? signs dialect text o.stop memories
        some (rest.map fun rest => before ++ (segment.toList ++ rest))
      else none
termination_by Text.size text - pos

def scan? (signs : Signs) (dialect : Dialect) (text : List Char) :
    Option (Except Diagnostic (List Segment)) :=
  signs.scanFrom? dialect text 0 .initial

end Signs

/-! ## Searching and erasing -/

namespace Signs

variable {signs : Signs} {kind : Kind} {text : List Char}

theorem matcher?_eq (kind : Kind) : signs.matcher? kind = some (signs.get kind) := by
  cases kind <;> rfl

theorem findAt?_size_append (kind : Kind) (pre cs : List Char) :
    findAt? (signs.get kind) kind (pre ++ cs) (Text.size pre) =
      some (signs.occurrence? kind (Text.size pre) cs) := by
  have hsearch : (Text.drop? (Text.size pre) (pre ++ cs)).bind
      (Text.indexOf? (signs.get kind).opening) = Text.indexOf? (signs.get kind).opening cs := by
    rw [Text.drop?_size_append, Option.bind_some]
  rw [findAt?, hsearch, Text.indexOf?, occurrence?_eq_map, Markers.find?]
  cases hopen : Text.cut? (signs.get kind).opening cs with
  | none => rfl
  | some found =>
      obtain ⟨before, after⟩ := found
      obtain rfl := Text.eq_append_of_cut? hopen
      have hbody : Text.drop? (Text.size pre + Text.size before +
          Text.size (signs.get kind).opening)
          (pre ++ (before ++ ((signs.get kind).opening ++ after))) = some after := by
        apply Text.drop?_eq_some_iff.mpr
        refine ⟨pre ++ (before ++ (signs.get kind).opening), ?_, ?_⟩
        · simp only [List.append_assoc]
        · simp only [Text.size_append, Nat.add_assoc]
      simp only [Option.map_some, hbody, Option.bind_eq_bind, Option.bind_some]
      cases after with
      | nil => rfl
      | cons first more =>
          have hmore : Text.drop? (Text.size pre + Text.size before +
              Text.size (signs.get kind).opening + first.utf8Size)
              (pre ++ (before ++ ((signs.get kind).opening ++ first :: more))) = some more := by
            apply Text.drop?_eq_some_iff.mpr
            refine ⟨pre ++ (before ++ ((signs.get kind).opening ++ [first])), ?_, ?_⟩
            · simp only [List.append_assoc, List.singleton_append]
            · simp only [Text.size_append, Text.size_cons, Text.size_nil, Nat.add_assoc,
                Nat.add_zero]
          simp only [hmore, Option.bind_some, Text.indexOf?]
          cases Text.cut? (signs.get kind).closing more with
          | none => rfl
          | some found =>
              simp only [Option.map_some, place, Text.size_cons, Nat.add_assoc]

/-- No cut of a search is undefined. -/
theorem findAt?_eq (signs : Signs) (kind : Kind) (text : List Char) (pos : Nat) :
    findAt? (signs.get kind) kind text pos = some (signs.findFrom? kind text pos) := by
  cases hdrop : Text.drop? pos text with
  | none => simp only [findAt?, findFrom?, hdrop, Option.bind_none]
  | some cs =>
      obtain ⟨pre, rfl, rfl⟩ := Text.drop?_eq_some_iff.mp hdrop
      rw [findAt?_size_append, findFrom?_eq]

/-- What stands before a directive and its body are cut out at its place. -/
theorem slices_of_find? {pre cs : List Char} {pos : Nat} {hit : Hit} (htext : text = pre ++ cs)
    (hpos : pos = Text.size pre) (h : (signs.get kind).find? cs = some hit) :
    let o := signs.place kind pos hit
    Text.slice? pos o.start text = some hit.before ∧
      Text.slice? o.bodyStart o.bodyStop text = some hit.body := by
  intro o
  have hcs := Markers.eq_of_find? h
  constructor
  · apply Text.slice?_eq_some (htext.trans (congrArg _ hcs)) hpos
    rw [← hpos]
    rfl
  · have hbody : text = (pre ++ (hit.before ++ (signs.get kind).opening)) ++
        (hit.body ++ ((signs.get kind).closing ++ hit.behind)) := by
      rw [htext, hcs]
      simp only [List.append_assoc]
    apply Text.slice?_eq_some hbody
    · simp only [o, place, hpos, Text.size_append, Nat.add_assoc]
    · simp only [o, place, hpos, Text.size_append, Nat.add_assoc]

/-- The scan of a text advances behind each directive that is found, to a place where the text can
be cut. -/
theorem advances_of_find? {pre cs : List Char} {pos : Nat} {hit : Hit} (htext : text = pre ++ cs)
    (hpos : pos = Text.size pre) (h : (signs.get kind).find? cs = some hit) :
    let o := signs.place kind pos hit
    (pos < o.stop ∧ o.stop ≤ Text.size text) ∧
      ∃ before, cs = before ++ hit.behind ∧ text = (pre ++ before) ++ hit.behind ∧
        o.stop = Text.size (pre ++ before) := by
  intro o
  have hfound : signs.findFrom? kind text pos = some o := by
    rw [htext, hpos, findFrom?_eq, ← hpos]
    exact occurrence?_eq_some_iff.mpr ⟨hit, h, rfl⟩
  obtain ⟨before, hcs, hstop⟩ := exists_append_behind h pos
  refine ⟨stop_of_findFrom? hfound, before, hcs, ?_, ?_⟩
  · rw [htext, hcs, List.append_assoc]
  · rw [hstop, hpos, Text.size_append]

/-- What is left of a text is erased as it would be by itself. -/
theorem eraseFrom?_eq {pre cs : List Char} {pos : Nat} (htext : text = pre ++ cs)
    (hpos : pos = Text.size pre) :
    eraseFrom? (signs.get .silent) text pos = some ((signs.get .silent).erase cs) := by
  fun_induction Markers.erase (signs.get .silent) cs generalizing pre pos with
  | case1 cs hnone =>
      rw [eraseFrom?, htext, hpos, findAt?_size_append, occurrence?_eq_none_iff.mpr hnone]
      exact Text.drop?_size_append pre cs
  | case2 cs hit hfind hlt ih =>
      obtain ⟨hslice, -⟩ := slices_of_find? htext hpos hfind
      obtain ⟨hadvance, before, -, htext', hstop⟩ := advances_of_find? htext hpos hfind
      have hrest := ih htext' hstop
      have hsearch : findAt? (signs.get .silent) .silent text pos =
          some (some (signs.place .silent pos hit)) := by
        rw [htext, hpos, findAt?_size_append, occurrence?_eq_some_iff.mpr ⟨hit, hfind, rfl⟩]
      rw [eraseFrom?, hsearch]
      simp only [Option.bind_eq_bind, Option.bind_some, hslice, dif_pos hadvance, hrest]

/-- The text that is scanned is always defined. -/
theorem preprocess?_eq (signs : Signs) (source : List Char) :
    signs.preprocess? source = some (signs.preprocess source) := by
  rw [preprocess?, matcher?_eq]
  exact eraseFrom?_eq (List.nil_append _).symm rfl

end Signs

/-! ## Reading and dividing -/

namespace Directive

variable {text : List Char}

theorem malformed?_eq (source : List Char) (offset : Nat) (problem : Problem) :
    malformed? source offset problem = some (malformed source offset problem) := by
  rw [malformed?, Place.ofByte?_eq]
  rfl

theorem resolve?_eq (registry : Registry) (source : List Char) (start : Nat)
    (names : List (String × Nat)) :
    resolve? registry source start names = some (resolve registry source start names) := by
  induction names with
  | nil => rfl
  | cons entry rest ih =>
      obtain ⟨name, offset⟩ := entry
      rw [resolve?, resolve]
      cases registry.get? name with
      | none =>
          rw [Place.ofByte?_eq]
          rfl
      | some filter =>
          rw [ih]
          cases resolve registry source start rest <;> rfl

theorem output?_eq (registry : Registry) (source : List Char) (d : Directive) :
    output? registry source d.bodyStart d.body = some (d.output registry source) := by
  rw [output?, Pipeline.parse?, Parser.whole?_eq, output, Pipeline.parse]
  cases Parser.start d.body >>= Parser.pipeline.toEnd with
  | error e =>
      simp only [Option.bind_eq_bind, Option.bind_some, malformed?_eq]
  | ok pipeline =>
      simp only [Option.bind_eq_bind, Option.bind_some, resolve?_eq]
      cases resolve registry source d.bodyStart pipeline.filters <;> rfl

theorem statement?_eq (syntaxMode : Bool) (source : List Char) (o : Occurrence) (d : Directive)
    (hstart : o.start = d.start) (hbody : o.bodyStart = d.bodyStart) :
    statement? syntaxMode source o d.body = some (d.statement syntaxMode source) := by
  simp only [statement?, statement, hstart, hbody]
  split
  next => rfl
  split
  next =>
    rw [Place.ofByte?_eq]
    rfl
  have hparse : (if syntaxMode then Statement.parse? else Statement.parseRaw?) (unescaped d.body) =
      some (if syntaxMode then Statement.parse (unescaped d.body)
        else Statement.parseRaw (unescaped d.body)) := by
    cases syntaxMode with
    | true => exact Statement.parse?_eq _
    | false => exact Statement.parseRaw?_eq _
  simp only [hparse, Option.bind_eq_bind, Option.bind_some, malformed?_eq]
  cases if syntaxMode then Statement.parse (unescaped d.body)
    else Statement.parseRaw (unescaped d.body) <;> rfl

/-- A directive that was found is read as it is divided off. -/
theorem readAt?_eq {signs : Signs} {kind : Kind} {pre cs : List Char} {pos : Nat} {hit : Hit}
    (dialect : Dialect) (htext : text = pre ++ cs) (hpos : pos = Text.size pre)
    (h : (signs.get kind).find? cs = some hit) :
    readAt? dialect text (signs.place kind pos hit) =
      some ((signs.directive kind pos hit).read dialect text) := by
  obtain ⟨-, hbody⟩ := Signs.slices_of_find? htext hpos h
  simp only [readAt?, hbody, Option.bind_eq_bind, Option.bind_some]
  cases kind with
  | silent => rfl
  | comment => rfl
  | output =>
      have houtput := output?_eq dialect.registry text (signs.directive .output pos hit)
      exact congrArg (Option.bind · _) houtput
  | statement =>
      exact statement?_eq dialect.syntaxMode text _ (signs.directive .statement pos hit) rfl rfl
  | blockEnd =>
      rw [Place.ofByte?_eq]
      simp only [read, Signs.directive, Signs.place]
      split <;> rfl

end Directive

theorem Piece.readAll_next (dialect : Dialect) (source before : List Char) (d : Directive)
    (pieces : List Piece) :
    readAll dialect source (ofText before ++ directive d :: pieces) =
      (d.read dialect source).bind fun segment =>
        (readAll dialect source pieces).map fun rest =>
          Segment.ofText before ++ (segment.toList ++ rest) := by
  have hcons : readAll dialect source (directive d :: pieces) =
      (d.read dialect source).bind fun segment =>
        (readAll dialect source pieces).map fun rest => segment.toList ++ rest := by
    simp only [readAll, read]
    cases d.read dialect source with
    | error e => rfl
    | ok segment => cases readAll dialect source pieces <;> rfl
  cases before with
  | nil => exact hcons
  | cons c cs =>
      rw [ofText, List.singleton_append, readAll, hcons]
      cases d.read dialect source with
      | error e => rfl
      | ok segment => cases readAll dialect source pieces <;> rfl

theorem Segment.between?_eq {text before middle behind : List Char} {start stop : Nat}
    (htext : text = before ++ (middle ++ behind)) (hstart : start = Text.size before)
    (hstop : stop = Text.size before + Text.size middle) :
    between? text start stop = some (ofText middle) := by
  rw [between?, Text.slice?_eq_some htext hstart hstop, hstart, hstop]
  cases middle with
  | nil => exact if_neg (Nat.lt_irrefl _)
  | cons c cs => exact if_pos (Nat.lt_add_of_pos_right (Text.size_pos (List.cons_ne_nil c cs)))

theorem Memories.refresh?_eq {signs : Signs} {text pre cs : List Char} {pos : Nat}
    (htext : text = pre ++ cs) (hpos : pos = Text.size pre) (memories : Memories) :
    memories.refresh? signs text pos = some (memories.refresh signs pos cs) := by
  have hentry : ∀ entry : Kind × Memory,
      (entry.2.refresh? signs entry.1 text pos).map (entry.1, ·) =
        pure (entry.1, if entry.2.isStale pos then
          Memory.ofSearch (signs.occurrence? entry.1 pos cs) else entry.2) := by
    intro entry
    rw [Memory.refresh?, htext, hpos, Signs.findAt?_size_append]
    split <;> rfl
  rw [refresh?, funext hentry, List.mapM_pure]
  rfl

namespace Signs

variable {signs : Signs} {dialect : Dialect} {text : List Char}

theorem next?_refresh_eq_argmin {pre cs : List Char} {pos : Nat} {memories : Memories}
    (htext : text = pre ++ cs) (hpos : pos = Text.size pre)
    (hright : memories.Right signs pos cs) :
    (memories.refresh signs pos cs).next? =
      (Kind.all.filterMap (signs.findFrom? · text pos)).argmin Occurrence.start := by
  rw [hright.next?_refresh, earliest?_eq_argmin, htext, hpos]
  simp only [findFrom?_eq]

theorem scanFrom?_eq {pre cs : List Char} {pos : Nat} {memories : Memories}
    (htext : text = pre ++ cs) (hpos : pos = Text.size pre)
    (hright : memories.Right signs pos cs) :
    signs.scanFrom? dialect text pos memories =
      some (Piece.readAll dialect text (signs.exhaustivePieces text pos)) := by
  -- The exhaustive division goes on at the same bytes, but has no memories to generalize.
  fun_induction signs.exhaustivePieces text pos generalizing pre cs memories with
  | case1 pos hnone =>
      have hnext := next?_refresh_eq_argmin htext hpos hright
      have hdrop : Text.drop pos text = cs := by rw [htext, hpos, Text.drop_size_append]
      have hrest : Segment.between? text pos (Text.size text) = some (Segment.ofText cs) := by
        have hall : text = pre ++ (cs ++ []) := by rw [htext, List.append_nil]
        apply Segment.between?_eq hall hpos
        rw [htext, Text.size_append]
      rw [scanFrom?, Memories.refresh?_eq htext hpos]
      simp only [Option.bind_eq_bind, Option.bind_some, hnext, hnone, hdrop, hrest]
      cases cs <;> rfl
  | case2 pos o hsome ih =>
      have hnext := (next?_refresh_eq_argmin htext hpos hright).trans hsome
      obtain ⟨kind, hit, hfirst, rfl⟩ := next_of_earliest? (hright.next?_refresh.symm.trans hnext)
      have hread := Directive.readAt?_eq dialect htext hpos hfirst.found
      have hbefore : Segment.between? text pos (signs.place kind pos hit).start =
          some (Segment.ofText hit.before) := by
        apply Segment.between?_eq (htext.trans (congrArg _ (Markers.eq_of_find? hfirst.found))) hpos
        rw [← hpos]
        rfl
      obtain ⟨htake, -⟩ := around_of_find? hfirst.found pos
      have hpiece := ofOccurrence_of_find? pre hfirst.found ((Nat.zero_add _).trans hpos.symm)
      have hdrop : Text.drop pos text = cs := by rw [htext, hpos, Text.drop_size_append]
      obtain ⟨hadvance, before, hcs, htext', hstop⟩ := advances_of_find? htext hpos hfirst.found
      -- What was searched for at the old place is still right behind the directive.
      have hright' : (memories.refresh signs pos cs).Right signs (signs.place kind pos hit).stop
          hit.behind := by
        rw [hstop, Text.size_append, ← hpos]
        apply Memories.Right.advance
        rw [← hcs]
        exact hright.refresh
      rw [scanFrom?, Memories.refresh?_eq htext hpos]
      simp only [Option.bind_eq_bind, Option.bind_some, hnext, hbefore, hread, dif_pos hadvance,
        ih htext' hstop hright']
      rw [hdrop, htake, htext, hpiece, Piece.readAll_next]
      cases (signs.directive kind pos hit).read dialect (pre ++ cs) <;> rfl

/-- The segments of a text are always defined. -/
theorem scan?_eq (signs : Signs) (dialect : Dialect) (text : List Char) :
    signs.scan? dialect text = some (signs.scan dialect text) := by
  have hscan : signs.scan? dialect text =
      some (Piece.readAll dialect text (signs.exhaustivePieces text 0)) :=
    scanFrom?_eq (List.nil_append text).symm rfl Memories.right_initial
  rw [hscan, scan, pieces_eq_freshPieces]
  exact congrArg (fun pieces => some (Piece.readAll dialect text pieces))
    (freshPiecesFrom_eq_exhaustivePieces [] (Nat.le_refl _)).symm

end Signs

end Stencil
