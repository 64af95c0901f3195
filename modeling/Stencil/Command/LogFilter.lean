import Stencil.Decimal.Reading
import Stencil.Event
import Stencil.Pattern.Reading
import Stencil.Text.Blank
import Stencil.Text.Letter
import Stencil.Text.Numeral

/-! # Filters for log messages

A log filter is a list of rules with commas between them, such as `warn,tplstr=debug`. The most
specific rule whose target starts the target of a message decides whether the message is shown.
-/

namespace Stencil.Command

/-- A rule: the messages to which it applies, and the greatest rank of severity that it shows. A
rule `inSpan` applies to messages within spans, of which there are none. -/
structure LogRule where
  target : Option (List Char)
  fields : List (List Char)
  inSpan : Bool
  level : Nat

namespace LogRule

/-- The rank that a word or a digit names; zero shows nothing. -/
def level? (cs : List Char) : Option Nat :=
  let digits := match cs with
    | '+' :: rest => rest
    | rest => rest
  if !digits.isEmpty && digits.all Decimal.isDigit then
    let n := Decimal.natOfDigits digits
    if n ≤ 5 then some n else none
  else
    let word := String.ofList (cs.map Char.toUpper)
    if word = "OFF" then some 0
    else (Severity.all.find? (·.label = word)).map Severity.rank

/-- The part of a text from one byte up to another, if it can be cut there. -/
def cut? (source : List Char) (start stop : Nat) : Option (List Char) := do
  let rest ← Text.drop? start source
  let part := Text.take (stop - start) rest
  if start + Text.size part = stop then some part else none

/-- The level that starts at a byte of a rule; without one the rule shows everything. -/
def levelAt? (source : List Char) (start : Nat) : Option Nat :=
  match Text.drop? start source with
  | none => none
  | some [] => some 5
  | some cs => level? cs

/-- The level behind the brackets of a rule, which end at byte `pos`. -/
def levelBehind? (source : List Char) (pos : Nat) : List Char → Option Nat
  | [] => some 5
  | '=' :: _ => levelAt? source (pos + 1)
  | _ => none

/-- Whether a text is the value of a field: a number or a pattern. -/
def isFieldValue (cs : List Char) : Bool :=
  (Decimal.float? cs).isSome || Pattern.isPattern cs

/-- Reads a field: its name, and whether it has a value. What follows a second equals sign does
not count. -/
def field? (cs : List Char) : Option (List Char × Bool) :=
  match cs.span (· ≠ '=') with
  | ([], []) => none
  | (name, []) => some (name, false)
  | (name, _ :: rest) =>
    if isFieldValue (rest.takeWhile (· ≠ '=')) then some (name, true) else none

/-- Reads a rule from the field behind its opening brace, which starts at byte `pos`. -/
def fromField? (source : List Char) (target : Option (List Char)) (named : Bool) (pos : Nat)
    (cs : List Char) : Option LogRule :=
  match cs.span (· ≠ '\x7d') with
  | (scanned, '\x7d' :: ']' :: rest) => do
    let stop := pos + Text.size scanned
    let (name, hasValue) ← field? (← cut? source pos stop)
    let level ← levelBehind? source (stop + 2) rest
    some ⟨target, [name], named || hasValue, level⟩
  | _ => none

/-- Reads a rule from the span behind its opening bracket, which starts at byte `pos`. -/
def fromSpan? (source : List Char) (target : Option (List Char)) (pos : Nat) (cs : List Char) :
    Option LogRule :=
  match cs.span fun c => c ≠ ']' && c ≠ '\x7b' with
  | (scanned, c :: rest) => do
    let stop := pos + Text.size scanned
    let name ← cut? source pos stop
    if c = ']' then
      let level ← levelBehind? source (stop + 1) rest
      some ⟨target, [], true, level⟩
    else fromField? source target (!name.isEmpty) (stop + 1) rest
  | _ => none

/-- Whether a rule can start with a character, brackets apart. -/
def isStart (c : Char) : Bool :=
  c = '-' || c = ':' || c = '_' || Text.isLetter c || Text.isNumeral c

/-- A rule of a single word, which is a level, if it names one, and a target otherwise. -/
def ofWord (word : List Char) : LogRule :=
  match level? word with
  | some level => ⟨none, [], false, level⟩
  | none => ⟨some word, [], false, 5⟩

/-- Reads a rule. The rule is searched for its signs without the blanks around it, but the bytes
at which they are found are bytes of the whole text. So a word keeps the blanks around it, and
blanks before any other rule move its parts. -/
def parse? (source : List Char) : Option LogRule :=
  match Text.trim source with
  | [] => none
  | '[' :: rest => fromSpan? source none 1 rest
  | c :: cs =>
    if !isStart c then none
    else
      match (c :: cs).span fun c => c ≠ '=' && c ≠ '[' with
      | (_, []) => some (ofWord source)
      | (scanned, sign :: rest) => do
        let stop := Text.size scanned
        let target ← cut? source 0 stop
        if sign = '[' then fromSpan? source (some target) (stop + 1) rest
        else (levelAt? source (stop + 1)).map (⟨some target, [], false, ·⟩)

/-- Whether a rule concerns the messages of a target. -/
def concerns (rule : LogRule) (target : List Char) : Bool :=
  !rule.inSpan && rule.fields.all (· = "message".toList) &&
    (rule.target.all (·.isPrefixOf target))

/-- How specific a rule is: by its target, then by its fields. -/
def weight (rule : LogRule) : Nat × Nat :=
  (match rule.target with
    | some target => target.length + 1
    | none => 0, rule.fields.length)

/-- Whether a rule yields to one that comes later. -/
def yields (rule later : LogRule) : Bool :=
  rule.weight.1 < later.weight.1 ||
    (rule.weight.1 = later.weight.1 && rule.weight.2 ≤ later.weight.2)

end LogRule

/-- Rules in the order in which they are written. -/
abbrev LogFilter := List LogRule

namespace LogFilter

/-- The parts of a filter between its commas, empty ones left out. -/
def parts (source : String) : List (List Char) :=
  (source.toList.splitOn ',').filter (!·.isEmpty)

/-- Rules as a filter; without any rule only errors are shown. -/
def ofRules (rules : List LogRule) : LogFilter :=
  if rules.isEmpty then [⟨none, [], false, Severity.error.rank⟩] else rules

/-- Reads a filter, if all of its rules can be read. -/
def parse? (source : String) : Option LogFilter :=
  ((parts source).mapM LogRule.parse?).map ofRules

/-- Reads a filter and leaves out the rules that cannot be read. -/
def parseLoose (source : String) : LogFilter := ofRules ((parts source).filterMap LogRule.parse?)

/-- The most specific of the rules that concern a target, and of several the last. -/
def decisive? (filter : LogFilter) (target : List Char) : Option LogRule :=
  (filter.filter (·.concerns target)).foldl
    (fun best rule =>
      match best with
      | none => some rule
      | some b => if b.yields rule then some rule else some b)
    none

/-- Whether a message of a target is shown. -/
def shows (filter : LogFilter) (target : String) (severity : Severity) : Bool :=
  (filter.decisive? target.toList).any fun rule => severity.rank ≤ rule.level

end LogFilter

end Stencil.Command
