import Stencil.Config
import Stencil.Digest
import Stencil.Event
import Stencil.Render
import Stencil.Scan

/-! # The engine

An engine compiles templates under fixed markers and with the filters registered so far. It may
keep compiled templates in a cache under the digest of their source; registering a filter
empties the cache.
-/

namespace Stencil

/-- A compiled template: its segments and the tree built from them. -/
structure Compiled where
  segments : List Segment
  nodes : List Node

namespace Compiled

/-- Compiles the source of a template. -/
def ofSource (signs : Signs) (dialect : Dialect) (source : List Char) :
    Except Diagnostic Compiled := do
  let text := signs.preprocess source
  let segments ← signs.scan dialect text
  match Node.ofSegments segments with
  | .error e => .error (e.problem.diagnostic text e.offset)
  | .ok nodes => .ok ⟨segments, nodes⟩

/-- The text of a compiled template with given data. -/
def render (c : Compiled) (data : Value) : Except Diagnostic (List Char) :=
  (renderNodes c.nodes data).mapError .ofFault

end Compiled

/-- A compiled template that an engine has made. Templates made by different compilations differ
in their number. -/
structure Template where
  number : Nat
  compiled : Compiled

/-- Templates by the digest of their source, the newest first. -/
structure Cache where
  entries : List (List Char × Template)

namespace Cache

/-- The cache without templates. -/
def empty : Cache := ⟨[]⟩

/-- The template under a digest. -/
def get? (cache : Cache) (digest : List Char) : Option Template := cache.entries.lookup digest

/-- Keeps a template under a digest in place of any other. -/
def insert (cache : Cache) (digest : List Char) (template : Template) : Cache :=
  ⟨(digest, template) :: cache.entries.filter (·.1 ≠ digest)⟩

/-- The number of templates in the cache. -/
def size (cache : Cache) : Nat := cache.entries.length

end Cache

/-- The state of an engine. `made` counts the templates that it has compiled. -/
structure Engine where
  signs : Signs
  syntaxMode : Bool
  registry : Registry
  cache : Option Cache
  made : Nat

/-- What a use of an engine gives: the result, the engine behind it, and the events on the way. -/
structure Use (α : Type) where
  result : α
  engine : Engine
  events : List Event

namespace Engine

/-- The engine of a configuration, with the built-in filters. -/
def ofConfig (config : Config) : Engine :=
  { signs := config.signs
    syntaxMode := config.syntaxMode
    registry := .builtin
    cache := if config.cache then some .empty else none
    made := 0 }

/-- The dialect of templates at present. -/
def dialect (e : Engine) : Dialect := ⟨e.registry, e.syntaxMode⟩

/-- Registers a filter and empties the cache, whose templates may use an older one. -/
def register (e : Engine) (name : String) (filter : Filter) : Engine :=
  { e with registry := e.registry.insert name filter, cache := e.cache.map fun _ => .empty }

/-- Empties the cache. -/
def clearCache (e : Engine) : Engine := { e with cache := e.cache.map fun _ => .empty }

/-- Puts a template into the cache under the digest of a source. -/
def cacheTemplate (e : Engine) (source : List Char) (template : Template) : Engine :=
  { e with cache := e.cache.map (·.insert (Digest.ofText source) template) }

/-- The template in the cache under the digest of a source. -/
def cached? (e : Engine) (source : List Char) : Option Template :=
  e.cache.bind (·.get? (Digest.ofText source))

/-- The events of reading the directives of a text. -/
def readEvents (e : Engine) (text : List Char) : List Event :=
  (Piece.visited e.dialect text (e.signs.pieces text)).map fun d =>
    .directive d.kind d.start d.stop

/-- The segments of a source. -/
def scan (e : Engine) (source : List Char) : Use (Except Diagnostic (List Segment)) :=
  let text := e.signs.preprocess source
  ⟨e.signs.scan e.dialect text, e, e.readEvents text⟩

/-- Compiles a source without looking into the cache, and keeps the template there. -/
def compileFresh (e : Engine) (source : List Char) : Use (Except Diagnostic Template) :=
  let events := e.readEvents (e.signs.preprocess source)
  match Compiled.ofSource e.signs e.dialect source with
  | .error d => ⟨.error d, e, events⟩
  | .ok compiled =>
    let template : Template := ⟨e.made, compiled⟩
    { result := .ok template
      engine := { e with made := e.made + 1 }.cacheTemplate source template
      events := events ++ [.compiled compiled.segments.length] }

/-- The template of a source, from the cache if it is there. -/
def prepare (e : Engine) (source : List Char) : Use (Except Diagnostic Template) :=
  match e.cached? source with
  | some template => ⟨.ok template, e, [.cacheHit (Digest.ofText source)]⟩
  | none => e.compileFresh source

/-- The text of a source with given data. -/
def render (e : Engine) (source : List Char) (data : Value) :
    Use (Except Diagnostic (List Char)) :=
  let prepared := e.prepare source
  { prepared with result := prepared.result.bind (·.compiled.render data) }

/-- The text of a source with given data, or nothing; a failure is an event. -/
def compile (e : Engine) (source : List Char) (data : Value) : Use (Option (List Char)) :=
  let rendered := e.render source data
  match rendered.result with
  | .ok text => { rendered with result := some text }
  | .error d =>
    { rendered with
      result := none
      events := rendered.events ++ [.failed d, .failureDetails] }

end Engine

/-- The text of a source under the standard configuration, or nothing. -/
def renderOnce (source : List Char) (data : Value) : Option (List Char) :=
  ((Engine.ofConfig .standard).compile source data).result

end Stencil
