import Stencil.Fault
import Stencil.Text.Basic

/-! # Diagnostics

What is reported about a template that cannot be compiled or rendered. All but evaluation faults
point at a place of the template, which is shown as a column and an excerpt with a caret.
-/

namespace Stencil

/-- A place of a template: its column, counted in characters from one, and two lines with the
text around it and a caret below. -/
structure Place where
  column : Nat
  excerpt : String

namespace Place

/-- The number of characters that start before a byte. -/
def charsBefore : Nat → List Char → Nat
  | _, [] => 0
  | 0, _ :: _ => 0
  | offset + 1, c :: cs => charsBefore (offset + 1 - c.utf8Size) cs + 1

/-- The number of characters shown on each side of a place. -/
def radius : Nat := 24

/-- The first line of an excerpt: the characters around the one with a given index, with an
ellipsis on each side where some are left out. -/
def window (source : List Char) (index : Nat) : List Char :=
  let first := index - radius
  let last := min (index + radius) source.length
  (if 0 < first then ['…'] else []) ++ (source.drop first).take (last - first)
    ++ (if last < source.length then ['…'] else [])

/-- The number of characters before the caret. -/
def caret (index : Nat) : Nat :=
  let first := index - radius
  (if 0 < first then 1 else 0) + (index - first)

/-- The excerpt around the place with a given index. -/
def excerptAt (source : List Char) (index : Nat) : List Char :=
  "  | ".toList ++ window source index ++ "\n  | ".toList ++ List.replicate (caret index) ' '
    ++ "^\n".toList

/-- The place of a byte. A byte inside a character stands for the character behind it, and a
byte past the end for the end. -/
def ofByte (source : List Char) (offset : Nat) : Place :=
  let index := charsBefore offset source
  ⟨index + 1, String.ofList (excerptAt source index)⟩

end Place

/-- Why a template is not compiled or not rendered. -/
inductive Diagnostic where
  /-- A filter that is not registered. -/
  | unknownFilter (name : String) (place : Place)
  /-- A directive that cannot be read, or a block too deep. -/
  | malformed (text : String) (hint : Option String) (place : Place)
  /-- Blocks that are not paired. -/
  | unbalanced (text : String) (place : Place)
  /-- The end of a block where the syntax mode is off. -/
  | blockEndOutside (place : Place)
  /-- A fault of evaluation. -/
  | failed (text : String)

namespace Diagnostic

/-- The diagnostic of a fault. -/
def ofFault (fault : Fault) : Diagnostic := failed fault.message

/-- Whether the template was not even compiled. -/
def isCompile : Diagnostic → Bool
  | failed _ => false
  | _ => true

/-- The place that is pointed at. -/
def place? : Diagnostic → Option Place
  | unknownFilter _ place => some place
  | malformed _ _ place => some place
  | unbalanced _ place => some place
  | blockEndOutside place => some place
  | failed _ => none

/-- The report about a place: the kind, the column, the excerpt, the text and a hint. -/
def report (kind : String) (place : Place) (text : String) (hint : Option String) : String :=
  "tpl " ++ kind ++ "\n  → 第 " ++ toString place.column ++ " 列\n\n" ++ place.excerpt
    ++ "  错误：" ++ text
    ++ (match hint with
      | some hint => "\n  提示：" ++ hint
      | none => "")

/-- The full text of a diagnostic. -/
def message : Diagnostic → String
  | unknownFilter name place => report "未知过滤器" place ("没有 " ++ name ++ " 过滤器") none
  | malformed text hint place => report "语法错误" place text hint
  | unbalanced text place => report "块结构错误" place text none
  | blockEndOutside place =>
    report "块结束标记错误" place "语法模式未开启时不能使用块结束标记"
      (some "在配置中设置 syntax = true")
  | failed text => "tpl 运行错误\n  错误：" ++ text

end Diagnostic

end Stencil
