import Stencil.Toml.Scalar
import Stencil.Toml.Table

/-! # Documents in TOML

Values, and the lines of a document: assignments, headers of tables, comments and blank lines.
-/

namespace Stencil.Toml

open Stencil.Text (Reader)

/-- The elements of an array behind its opening bracket or a comma; the first argument bounds
their number. A comma may stand behind the last one. -/
def items? (value : Reader Value) : Nat → Reader (List Value)
  | 0, _ => none
  | bound + 1, cs =>
    match skipAll cs with
    | ']' :: rest => some ([], rest)
    | start => do
      let (v, rest) ← value start
      match skipAll rest with
      | ',' :: rest => do
        let (vs, rest) ← items? value bound rest
        some (v :: vs, rest)
      | ']' :: rest => some ([v], rest)
      | _ => none

/-- A key, an equals sign and a value. -/
def assignment? (value : Reader Value) : Reader (List String × Value) := fun cs => do
  let (path, rest) ← key? maxKeyParts cs
  let rest ← past? '=' rest
  let (v, rest) ← value (skipSpace rest)
  some ((path, v), rest)

/-- The assignments of an inline table behind its opening brace or a comma; the first argument
bounds their number. -/
def inline? (value : Reader Value) : Nat → Entries → Reader Entries
  | 0, _, _ => none
  | bound + 1, entries, cs => do
    let ((path, v), rest) ← assignment? value (skipSpace cs)
    let (_, entries) ← Entries.assignAlong path v .defined entries
    match skipSpace rest with
    | ',' :: rest => inline? value bound entries rest
    | '\x7d' :: rest => some (entries, rest)
    | _ => none

/-- A value that holds no other values. -/
def simple? : Reader Value := fun cs =>
  match cs with
  | '"' :: _ => (string? cs).map fun (s, rest) => (.string (String.ofList s), rest)
  | '\'' :: _ => (string? cs).map fun (s, rest) => (.string (String.ofList s), rest)
  | _ => scalar? cs

/-- A value with at most the given number of arrays and inline tables around one another. -/
def value? : Nat → Reader Value
  | 0, cs => simple? cs
  | depth + 1, '[' :: rest =>
    (items? (value? depth) (rest.length + 1) rest).map fun (vs, rest) => (.array vs, rest)
  | depth + 1, '\x7b' :: rest =>
    match skipSpace rest with
    | '\x7d' :: rest => some (.object [], rest)
    | rest =>
      (inline? (value? depth) (rest.length + 1) [] rest).map fun (es, rest) =>
        (es.toValue, rest)
  | _ + 1, cs => simple? cs

/-- The number of arrays and inline tables that may lie around one another. -/
def maxDepth : Nat := 79

/-- A document under construction: its entries and the header of the current table. -/
structure Draft where
  entries : Entries
  header : List String

namespace Draft

/-- Changes the entries of a document. -/
def change (d : Draft) (path : List String) (c : Entries.Change) : Option Draft := do
  let (_, entries) ← Entries.within c path .defined d.entries
  some { d with entries }

/-- Takes in a header; `repeated` if it adds a table to others with the same header. -/
def open? (d : Draft) (repeated : Bool) (path : List String) : Option Draft := do
  let key ← path.getLast?
  let d ← d.change path.dropLast (if repeated then Entries.append key else Entries.define key)
  some { d with header := path }

/-- Takes in an assignment. -/
def assign? (d : Draft) (path : List String) (v : Value) : Option Draft :=
  d.change d.header (Entries.assignAlong path v)

end Draft

/-- A header behind its opening brackets: its key and what follows the closing brackets. -/
def header? (closing : List Char) : Reader (List String) := fun cs => do
  let (path, rest) ← key? maxKeyParts cs
  let rest ← Text.after? closing rest
  some (path, rest)

/-- Takes in a line that is neither blank nor a comment. -/
def line? (d : Draft) (cs : List Char) : Option (Draft × List Char) :=
  match cs with
  | '[' :: '[' :: rest => do
    let (path, rest) ← header? [']', ']'] rest
    let d ← d.open? true path
    some (d, rest)
  | '[' :: rest => do
    let (path, rest) ← header? [']'] rest
    let d ← d.open? false path
    some (d, rest)
  | _ => do
    let ((path, v), rest) ← assignment? (value? maxDepth) cs
    let d ← d.assign? path v
    some (d, rest)

/-- Takes in all lines of a text; the first argument bounds their number. -/
def lines? : Nat → Draft → List Char → Option Draft
  | 0, _, _ => none
  | bound + 1, d, cs =>
    match skipAll cs with
    | [] => some d
    | start => do
      let (d, rest) ← line? d start
      let rest ← lineEnd? rest
      lines? bound d rest

/-- The value of a document, which may start with a byte order mark. -/
def parse (cs : List Char) : Option Value :=
  let body := match cs with
    | '\ufeff' :: rest => rest
    | cs => cs
  (lines? (body.length + 1) ⟨[], []⟩ body).map (·.entries.toValue)

end Stencil.Toml
