import Stencil.Decimal.Layout
import Stencil.Expr.Token
import Stencil.Text.Quoted

/-! # Problems of expressions and statements

The causes for which a text is no expression, pipeline or statement, and their wording.
-/

namespace Stencil

/-- The number of brackets and unary operators that may lie around one another. -/
def maxDepth : Nat := 128

/-- The number of operators that an expression may have. -/
def maxOperators : Nat := 256

/-- Why a text is not accepted. -/
inductive Problem where
  | unclosedString
  | strayChar (c : Char)
  | missingExpression
  | misplaced (kind : Token.Kind)
  | trailing (kind : Token.Kind)
  | tooDeep
  | tooLong
  | missingParen
  | missingBracket
  | memberNameExpected
  | memberNameMissing
  | filterNameExpected
  | filterNameMissing
  | bindingWithoutEquals
  | elseWithCondition
  | missingCondition (keyword : String)

/-- A problem and the byte at which it shows. -/
structure ParseError where
  problem : Problem
  pos : Nat

/-- The same problem in a text that starts `offset` bytes earlier. -/
def ParseError.shift (e : ParseError) (offset : Nat) : ParseError :=
  { e with pos := e.pos + offset }

/-- How a message shows a token. -/
def Token.Kind.shown : Token.Kind → String
  | name id => "'" ++ id ++ "'"
  | number x => String.ofList (Decimal.Style.plain.float x)
  | string s => String.ofList (Text.reveal s.toList)
  | bool true => "'true'"
  | bool false => "'false'"
  | null => "'null'"
  | sign s => "'" ++ s.spelling ++ "'"

/-- The wording of a problem. -/
def Problem.message : Problem → String
  | unclosedString => "未闭合的字符串"
  | strayChar c => "无法识别的字符 '" ++ String.ofList [c] ++ "'"
  | missingExpression => "缺少表达式"
  | misplaced kind => "此处不能出现 " ++ kind.shown
  | trailing kind => "多余的内容：" ++ kind.shown
  | tooDeep => "表达式嵌套过深（最多 " ++ toString maxDepth ++ " 层）"
  | tooLong => "表达式过长（最多 " ++ toString maxOperators ++ " 个运算）"
  | missingParen => "缺少 ')'"
  | missingBracket => "缺少 ']'"
  | memberNameExpected => "'.' 之后应为属性名"
  | memberNameMissing => "'.' 之后缺少属性名"
  | filterNameExpected => "'|' 之后应为过滤器名"
  | filterNameMissing => "'|' 之后缺少过滤器名"
  | bindingWithoutEquals => "let 绑定缺少 '='"
  | elseWithCondition => "else 之后不能跟条件，请使用 elif"
  | missingCondition keyword => keyword ++ " 之后缺少表达式"

/-- The wording of the problem. -/
def ParseError.message (e : ParseError) : String := e.problem.message

end Stencil
