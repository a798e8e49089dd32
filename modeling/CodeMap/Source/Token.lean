/-
Tokens of a source text. Lines and indentation are tokens too: a logical line ends with a
`newline`, and a change of indentation gives one `indent` or some `dedent` tokens.
-/

import CodeMap.Source.Identifier
import CodeMap.Source.Literal

namespace CodeMap.Source

/-- A place in a source text: the line from one, the column from zero in bytes of UTF-8. -/
structure Position where
  line : Nat
  column : Nat
deriving DecidableEq, Repr

namespace Position

/-- The start of a text. -/
def start : Position := ⟨1, 0⟩

/-- The place after one more character. -/
def after (position : Position) (c : Char) : Position :=
  if c = '\n' then ⟨position.line + 1, 0⟩
  else ⟨position.line, position.column + c.utf8Size⟩

/-- The place after some more characters. -/
def afterAll (position : Position) (cs : List Char) : Position :=
  cs.foldl after position

end Position

/-- A text between quotes as it stands in the source, its escapes not read. -/
structure Quotation where
  raw : Bool
  bytes : Bool
  format : Bool
  body : List Char
deriving DecidableEq, Repr

inductive Lexeme where
  | name (id : Identifier)
  | keyword (word : String)
  | number (value : Literal)
  | quotation (text : Quotation)
  | mark (symbol : String)
  | newline
  | indent
  | dedent
  | endOfText
deriving DecidableEq, Repr

structure Token where
  lexeme : Lexeme
  position : Position
deriving DecidableEq, Repr

/-- The reserved words. -/
def keywords : List String :=
  ["False", "None", "True", "and", "as", "assert", "async", "await", "break", "class", "continue",
    "def", "del", "elif", "else", "except", "finally", "for", "from", "global", "if", "import",
    "in", "is", "lambda", "nonlocal", "not", "or", "pass", "raise", "return", "try", "while",
    "with", "yield"]

/-- The operators and delimiters, longer ones first. -/
def marks : List String :=
  ["**=", "//=", ">>=", "<<=", "...",
    "!=", "%=", "&=", "**", "*=", "+=", "-=", "->", "//", "/=", ":=", "<<", "<=", "==", ">=",
    ">>", "@=", "^=", "|=",
    "%", "&", "(", ")", "*", "+", ",", "-", ".", "/", ":", ";", "<", "=", ">", "@", "[", "]", "^",
    "\x7b", "|", "\x7d", "~"]

end CodeMap.Source
