/-! # Tokens

The words of the expression language. A token remembers the byte at which it starts.
-/

namespace Stencil

/-- Tokens with a fixed spelling. -/
inductive Sign where
  | dot
  | leftParen
  | rightParen
  | leftBracket
  | rightBracket
  | pipe
  | or
  | and
  | bang
  | assign
  | eq
  | notEq
  | strictEq
  | strictNotEq
  | lt
  | le
  | gt
  | ge
  | plus
  | minus
  | star
  | slash
  | percent
deriving DecidableEq, Repr

namespace Sign

/-- The spelling of a sign. -/
def spelling : Sign → String
  | dot => "."
  | leftParen => "("
  | rightParen => ")"
  | leftBracket => "["
  | rightBracket => "]"
  | pipe => "|"
  | or => "||"
  | and => "&&"
  | bang => "!"
  | assign => "="
  | eq => "=="
  | notEq => "!="
  | strictEq => "==="
  | strictNotEq => "!=="
  | lt => "<"
  | le => "<="
  | gt => ">"
  | ge => ">="
  | plus => "+"
  | minus => "-"
  | star => "*"
  | slash => "/"
  | percent => "%"

/-- All signs, the longer spellings first. -/
def all : List Sign :=
  [strictEq, strictNotEq,
    or, and, eq, notEq, le, ge,
    dot, leftParen, rightParen, leftBracket, rightBracket, pipe, bang, assign, lt, gt,
    plus, minus, star, slash, percent]

/-- The longest sign at the start of a text. -/
def read? (cs : List Char) : Option Sign :=
  all.find? fun sign => sign.spelling.toList.isPrefixOf cs

end Sign

namespace Token

/-- What a token is. -/
inductive Kind where
  | name (id : String)
  | number (x : Float)
  | string (s : String)
  | bool (b : Bool)
  | null
  | sign (s : Sign)

/-- The kind of a word: three words are constants and all others names. -/
def Kind.ofWord (word : List Char) : Kind :=
  if word = "true".toList then bool true
  else if word = "false".toList then bool false
  else if word = "null".toList then null
  else name (String.ofList word)

end Token

/-- A token and the byte at which it starts. -/
structure Token where
  kind : Token.Kind
  pos : Nat

end Stencil
