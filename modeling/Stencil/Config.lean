import Stencil.Marker
import Stencil.Toml.Document
import Stencil.Value.Basic

/-! # Configurations

The settings of a template engine and how they are read from a document. Every setting may be
left out; unknown settings are ignored; a setting of the wrong type makes the whole document
invalid.
-/

namespace Stencil

/-- The settings of a template engine. -/
structure Config where
  syntaxMode : Bool
  cache : Bool
  logLevel : String
  signs : Signs

/-- The settings that are used where no others are set. -/
def Config.standard : Config :=
  { syntaxMode := false, cache := false, logLevel := "info", signs := .standard }

/-- What a document format does with more elements than a fixed row has. -/
inductive Surplus where
  | refused
  | ignored
deriving DecidableEq, Repr

namespace Markers

/-- Reads a pair of markers from an array of two strings. -/
def ofValue? (surplus : Surplus) : Value → Option Markers
  | .array (.string opening :: .string closing :: rest) =>
    if rest.isEmpty || surplus = .ignored then ofTexts? opening.toList closing.toList else none
  | _ => none

end Markers

/-- The fields of a record in a document: an object as it is, and an array as the fields with
the given names in order. -/
def recordFields? (surplus : Surplus) (names : List String) :
    Value → Option (List (String × Value))
  | .object fields => some fields
  | .array items =>
    if items.length ≤ names.length || surplus = .ignored then some (names.zip items) else none
  | _ => none

/-- Reads a field of a record; a field that is left out keeps its value. -/
def readField (fields : List (String × Value)) (name : String) (read : Value → Option α)
    (default : α) : Option α :=
  match fields.lookup name with
  | none => some default
  | some v => read v

namespace Signs

/-- The kinds of directives in the order in which a row of markers lists them. -/
def listed : List Kind := [.output, .statement, .blockEnd, .comment, .silent]

/-- Reads the markers of some kinds; the others keep their markers. -/
def ofValue? (surplus : Surplus) (v : Value) : Option Signs := do
  let fields ← recordFields? surplus (listed.map Kind.label) v
  listed.foldlM
    (fun signs kind => do
      let m ← readField fields kind.label (Markers.ofValue? surplus) (signs.get kind)
      some (signs.set kind m))
    standard

end Signs

namespace Value

/-- The truth value that a value is. -/
def bool? : Value → Option Bool
  | bool b => some b
  | _ => none

/-- The string that a value is. -/
def string? : Value → Option String
  | string s => some s
  | _ => none

end Value

namespace Config

/-- Reads a configuration from a document. -/
def ofValue? (surplus : Surplus) (v : Value) : Option Config := do
  let fields ← recordFields? surplus ["syntax", "cache", "log_level", "signs"] v
  let syntaxMode ← readField fields "syntax" Value.bool? standard.syntaxMode
  let cache ← readField fields "cache" Value.bool? standard.cache
  let logLevel ← readField fields "log_level" Value.string? standard.logLevel
  let signs ← readField fields "signs" (Signs.ofValue? surplus) standard.signs
  some { syntaxMode, cache, logLevel, signs }

/-- Reads a configuration from a TOML document. -/
def ofToml? (cs : List Char) : Option Config := (Toml.parse cs).bind (ofValue? .ignored)

end Config

/-- Why a configuration file is not usable. -/
inductive ConfigError where
  | unreadable
  | invalid
deriving DecidableEq, Repr

namespace ConfigError

/-- The word with which the message about an unusable file starts. -/
def verb : ConfigError → String
  | unreadable => "读取"
  | invalid => "解析"

end ConfigError

/-- Reads a configuration from the text of a file, if there is such a file. -/
def Config.load : Option String → Except ConfigError Config
  | none => .error .unreadable
  | some content =>
    match ofToml? content.toList with
    | some config => .ok config
    | none => .error .invalid

end Stencil
