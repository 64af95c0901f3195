import Stencil.Engine

/-! # Sessions

A row of calls to one engine. A session holds on to the templates that it was given and numbers
them in the order in which it first met each of them.
-/

namespace Stencil

/-- A call to an engine. -/
inductive Call where
  | register (name : String) (filter : Filter)
  | prepare (source : List Char)
  | scan (source : List Char)
  | render (source : List Char) (data : Value)
  | compile (source : List Char) (data : Value)
  | renderHeld (held : Nat) (data : Value)
  | heldSegments (held : Nat)
  | cacheHas (source : List Char)
  | cacheInsert (source : List Char) (held : Nat)
  | cacheClear
  | describe (name : String)

/-- The answer to a call. -/
inductive Answer where
  | names (names : List String)
  | held (number : Nat)
  | segments (segments : List Segment)
  | text (content : List Char)
  | maybeText (content : Option (List Char))
  | cacheHolds (holds : Option Bool)
  | done
  | description (syntaxMode : Bool) (signs : Signs) (names : List String) (contains : Bool)
  | failed (diagnostic : Diagnostic)
  | noTemplate

/-- An engine and the templates that were obtained from it. -/
structure Session where
  engine : Engine
  held : List Template

namespace Session

/-- The session of a configuration before its first call. -/
def ofConfig (config : Config) : Session := ⟨Engine.ofConfig config, []⟩

/-- The number of a template, which is held from now on. -/
def hold (s : Session) (template : Template) : Nat × Session :=
  match s.held.findIdx? (·.number = template.number) with
  | some index => (index, s)
  | none => (s.held.length, { s with held := s.held ++ [template] })

/-- Answers with a result, or with the diagnostic in its place. -/
def answer (f : α → Answer) : Except Diagnostic α → Answer
  | .ok a => f a
  | .error d => .failed d

/-- The answer to a call, the session behind it, and the events on the way. Nothing can be put
into a cache that is off. -/
def call (s : Session) : Call → Answer × Session × List Event
  | .register name filter =>
    let engine := s.engine.register name filter
    (.names engine.registry.names, { s with engine }, [])
  | .prepare source =>
    let use := s.engine.prepare source
    let s := { s with engine := use.engine }
    match use.result with
    | .error d => (.failed d, s, use.events)
    | .ok template =>
      let (number, s) := s.hold template
      (.held number, s, use.events)
  | .scan source =>
    let use := s.engine.scan source
    (answer .segments use.result, { s with engine := use.engine }, use.events)
  | .render source data =>
    let use := s.engine.render source data
    (answer .text use.result, { s with engine := use.engine }, use.events)
  | .compile source data =>
    let use := s.engine.compile source data
    (.maybeText use.result, { s with engine := use.engine }, use.events)
  | .renderHeld held data =>
    match s.held[held]? with
    | none => (.noTemplate, s, [])
    | some template => (answer .text (template.compiled.render data), s, [])
  | .heldSegments held =>
    match s.held[held]? with
    | none => (.noTemplate, s, [])
    | some template => (.segments template.compiled.segments, s, [])
  | .cacheHas source =>
    (.cacheHolds (s.engine.cache.map fun _ => (s.engine.cached? source).isSome), s, [])
  | .cacheInsert source held =>
    match s.engine.cache, s.held[held]? with
    | some _, some template =>
      (.done, { s with engine := s.engine.cacheTemplate source template }, [])
    | _, _ => (.noTemplate, s, [])
  | .cacheClear => (.done, { s with engine := s.engine.clearCache }, [])
  | .describe name =>
    let e := s.engine
    (.description e.syntaxMode e.signs e.registry.names (e.registry.contains name), s, [])

end Session

end Stencil
