import Stencil.Segment

/-! # Scanning

A text is divided from left to right: of the directives of all kinds that start at or behind the
current place the first one is taken, and the scan goes on behind it. `pieces` remembers for each
kind the next directive and searches again only when the scan has passed its start;
`freshPieces` searches for all kinds at each place.
-/

namespace Stencil

/-- Where a directive stands in a text, in bytes. -/
structure Occurrence where
  kind : Kind
  start : Nat
  bodyStart : Nat
  bodyStop : Nat
  stop : Nat

namespace Signs

/-- The next directive of a kind in a text that starts at byte `pos`. -/
def occurrence? (signs : Signs) (kind : Kind) (pos : Nat) (cs : List Char) :
    Option Occurrence :=
  let m := signs.get kind
  (m.find? cs).map fun hit =>
    let start := pos + Text.size hit.before
    let bodyStart := start + Text.size m.opening
    let bodyStop := bodyStart + Text.size hit.body
    ⟨kind, start, bodyStart, bodyStop, bodyStop + Text.size m.closing⟩

/-- The next directive of a kind at or behind byte `offset`; none if that byte lies inside a
character or past the end. -/
def findFrom? (signs : Signs) (kind : Kind) (source : List Char) (offset : Nat) :
    Option Occurrence :=
  (Text.drop? offset source).bind (signs.occurrence? kind offset)

end Signs

/-- What is known about the next directive of a kind. -/
inductive Memory where
  | unsearched
  | found (o : Occurrence)
  | exhausted

namespace Memory

/-- Whether a search is due at byte `pos`: there was none yet, or the directive that it found
starts before `pos`. -/
def isStale (pos : Nat) : Memory → Bool
  | unsearched => true
  | found o => o.start < pos
  | exhausted => false

/-- The memory of a search that had the given result. -/
def ofSearch : Option Occurrence → Memory
  | some o => found o
  | none => exhausted

/-- The directive that is remembered. -/
def occurrence? : Memory → Option Occurrence
  | found o => some o
  | _ => none

end Memory

/-- The directive with the least start; of several the first. -/
def earliest? : List Occurrence → Option Occurrence
  | [] => none
  | o :: rest =>
    match earliest? rest with
    | none => some o
    | some best => if best.start < o.start then some best else some o

/-- What is known about each kind, in the order of kinds. -/
abbrev Memories := List (Kind × Memory)

namespace Memories

/-- The memories before the first search. -/
def initial : Memories := Kind.all.map (·, .unsearched)

/-- Searches again where that is due; `cs` is the text from byte `pos` on. -/
def refresh (signs : Signs) (pos : Nat) (cs : List Char) (memories : Memories) : Memories :=
  memories.map fun (kind, memory) =>
    (kind, if memory.isStale pos then .ofSearch (signs.occurrence? kind pos cs) else memory)

/-- The first of the remembered directives. -/
def next? (memories : Memories) : Option Occurrence :=
  earliest? (memories.filterMap fun (_, memory) => memory.occurrence?)

end Memories

namespace Piece

/-- A text as a piece; the empty text is none. -/
def ofText : List Char → List Piece
  | [] => []
  | c :: cs => [text (c :: cs)]

/-- The directive of an occurrence in the text `cs`, which starts at byte `pos`. -/
def ofOccurrence (pos : Nat) (cs : List Char) (o : Occurrence) : Piece :=
  directive
    { kind := o.kind
      start := o.start
      bodyStart := o.bodyStart
      body := Text.take (o.bodyStop - o.bodyStart) (Text.drop (o.bodyStart - pos) cs)
      stop := o.stop }

end Piece

namespace Signs

/-- The pieces of the text `cs`, which starts at byte `pos`, with memories of earlier searches.
The first argument bounds the number of directives. -/
def piecesFrom (signs : Signs) : Nat → Nat → List Char → Memories → List Piece
  | 0, _, cs, _ => Piece.ofText cs
  | bound + 1, pos, cs, memories =>
    let memories := memories.refresh signs pos cs
    match memories.next? with
    | none => Piece.ofText cs
    | some o =>
      Piece.ofText (Text.take (o.start - pos) cs) ++
        Piece.ofOccurrence pos cs o ::
          piecesFrom signs bound o.stop (Text.drop (o.stop - pos) cs) memories

/-- The pieces of a text. A directive has at least one character, so there are no more
directives than characters. -/
def pieces (signs : Signs) (source : List Char) : List Piece :=
  signs.piecesFrom source.length 0 source .initial

/-- The pieces of the text `cs`, which starts at byte `pos`, found without any memory. The first
argument bounds the number of directives. -/
def freshPiecesFrom (signs : Signs) : Nat → Nat → List Char → List Piece
  | 0, _, cs => Piece.ofText cs
  | bound + 1, pos, cs =>
    match earliest? (Kind.all.filterMap (signs.occurrence? · pos cs)) with
    | none => Piece.ofText cs
    | some o =>
      Piece.ofText (Text.take (o.start - pos) cs) ++
        Piece.ofOccurrence pos cs o ::
          freshPiecesFrom signs bound o.stop (Text.drop (o.stop - pos) cs)

/-- The pieces of a text, found by a new search for all kinds at each place. -/
def freshPieces (signs : Signs) (source : List Char) : List Piece :=
  signs.freshPiecesFrom source.length 0 source

/-- Reads the segments of a text. -/
def scan (signs : Signs) (dialect : Dialect) (source : List Char) :
    Except Diagnostic (List Segment) :=
  Piece.readAll dialect source (signs.pieces source)

end Signs

/-- A text without its line breaks. -/
def stripLineBreaks (source : List Char) : List Char :=
  source.filter fun c => c ≠ '\n' && c ≠ '\r'

/-- A text without the directives between the given markers. -/
def Markers.erase (m : Markers) (cs : List Char) : List Char :=
  match h : m.find? cs with
  | none => cs
  | some hit =>
    have : hit.behind.length < cs.length := m.length_behind_lt h
    hit.before ++ m.erase hit.behind
termination_by cs.length

/-- The text that is scanned for a template: without line breaks, and without silent comments,
which may stand anywhere, even inside other directives. -/
def Signs.preprocess (signs : Signs) (source : List Char) : List Char :=
  signs.silent.erase (stripLineBreaks source)

end Stencil
