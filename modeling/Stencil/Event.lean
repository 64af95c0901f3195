import Stencil.Diagnostic
import Stencil.Marker

/-! # Log events

What the engine tells about its work, from severe to detailed.
-/

namespace Stencil

/-- How severe an event is. -/
inductive Severity where
  | error
  | warn
  | info
  | debug
  | trace
deriving DecidableEq, Repr

namespace Severity

/-- The place of a severity, the most severe first. -/
def rank : Severity → Nat
  | error => 1
  | warn => 2
  | info => 3
  | debug => 4
  | trace => 5

/-- The name of a severity in capitals. -/
def label : Severity → String
  | error => "ERROR"
  | warn => "WARN"
  | info => "INFO"
  | debug => "DEBUG"
  | trace => "TRACE"

/-- All severities. -/
def all : List Severity := [error, warn, info, debug, trace]

end Severity

/-- An event of the engine. -/
inductive Event where
  /-- A directive that is read, from its first byte to the byte behind it. -/
  | directive (kind : Kind) (start stop : Nat)
  /-- A template that was compiled to the given number of segments. -/
  | compiled (segments : Nat)
  /-- A template that was found in the cache under a digest. -/
  | cacheHit (digest : List Char)
  /-- A template that could not be compiled or rendered. -/
  | failed (diagnostic : Diagnostic)
  /-- The details of the failure before. -/
  | failureDetails

namespace Event

/-- The severity of an event. -/
def severity : Event → Severity
  | directive _ _ _ => .trace
  | compiled _ => .debug
  | cacheHit _ => .debug
  | failed _ => .warn
  | failureDetails => .debug

/-- The text of an event. -/
def message : Event → String
  | directive _ _ _ => "指令"
  | compiled segments => "模板编译完成：" ++ toString segments ++ " 个片段"
  | cacheHit digest => "模板缓存命中：" ++ String.ofList (digest.take 12)
  | failed d =>
    "模板" ++ (if d.isCompile then "编译" else "渲染") ++ "失败：" ++ d.message
  | failureDetails => "模板失败详情"

/-- Events that are at least as severe as a given severity. -/
def atLeast (bound : Severity) (events : List Event) : List Event :=
  events.filter fun e => e.severity.rank ≤ bound.rank

end Event

end Stencil
