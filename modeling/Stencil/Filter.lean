import Stencil.Text.Basic
import Stencil.Text.Case
import Stencil.Text.Quoted

/-! # Filters

A filter maps a text to a text. Filters are registered under names; a template is compiled with
the filters that are registered at that time.
-/

namespace Stencil

/-- A filter. -/
abbrev Filter := List Char → List Char

namespace Filter

/-- Whether a character may stand in the name of an entity. -/
def isEntityChar (c : Char) : Bool := c.isAlphanum || c = '_'

/-- Whether a text, which stands behind an ampersand, goes on with the name of an entity and a
semicolon. -/
def startsEntity (cs : List Char) : Bool :=
  match cs.takeWhile isEntityChar, cs.dropWhile isEntityChar with
  | _ :: _, ';' :: _ => true
  | _, _ => false

/-- Writes the four characters that have a meaning in HTML as entities; an ampersand that starts
an entity stays as it is. -/
def escape : Filter
  | [] => []
  | c :: cs =>
    (if c = '&' then (if startsEntity cs then ['&'] else "&amp;".toList)
      else if c = '<' then "&lt;".toList
      else if c = '>' then "&gt;".toList
      else if c = '"' then "&quot;".toList
      else [c]) ++ escape cs

end Filter

/-- Filters by name, the names in increasing order. -/
structure Registry where
  entries : List (String × Filter)

namespace Registry

/-- The registry without filters. -/
def empty : Registry := ⟨[]⟩

/-- Puts a filter among others with increasing names. -/
def insertEntry (name : String) (filter : Filter) :
    List (String × Filter) → List (String × Filter)
  | [] => [(name, filter)]
  | (other, f) :: rest =>
    if name < other then (name, filter) :: (other, f) :: rest
    else if name = other then (name, filter) :: rest
    else (other, f) :: insertEntry name filter rest

/-- Registers a filter; one of the same name is replaced. -/
def insert (registry : Registry) (name : String) (filter : Filter) : Registry :=
  ⟨insertEntry name filter registry.entries⟩

/-- The filter of a name. -/
def get? (registry : Registry) (name : String) : Option Filter := registry.entries.lookup name

/-- Whether a name has a filter. -/
def contains (registry : Registry) (name : String) : Bool := (registry.get? name).isSome

/-- The names of all filters, in increasing order. -/
def names (registry : Registry) : List String := registry.entries.map (·.1)

/-- Registers the filters that every template may use. -/
def addBuiltin (registry : Registry) : Registry :=
  (((registry.insert "upper" Text.upper).insert "lower" Text.lower).insert "reverse"
    List.reverse).insert "escape" Filter.escape

/-- The registry of the filters that every template may use. -/
def builtin : Registry := empty.addBuiltin

/-- A summary of a registry: the names of its filters in quotes. -/
def summary (registry : Registry) : String :=
  let quoted := registry.names.map fun name => String.ofList (Text.reveal name.toList)
  "FilterRegistry \x7b filters: [" ++ String.intercalate ", " quoted ++ "] \x7d"

end Registry

end Stencil
