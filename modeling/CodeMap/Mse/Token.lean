/-
Tokens of model files: the two parentheses and the words between them.

A comment starts at two semicolons and ends before the line feed. Blanks and parentheses end a
word; nothing else does, so a quoted text with a blank in it is several words.
-/

import CodeMap.Text.Blank

namespace CodeMap.Mse

inductive Token where
  | opening
  | closing
  | atom (text : String)
deriving DecidableEq, Repr

namespace Token

/-- The text of a token. -/
def text : Token → String
  | .opening => "("
  | .closing => ")"
  | .atom text => text

/-- The token with the given text. -/
def ofText (text : String) : Token :=
  if text = "(" then .opening else if text = ")" then .closing else .atom text

/-- Removes the comments; `inside` tells that a comment is open. -/
def withoutComments (inside : Bool) : List Char → List Char
  | [] => []
  | c :: rest =>
    if inside then
      if c = '\n' then c :: withoutComments false rest else withoutComments true rest
    else
      match c, rest with
      | ';', ';' :: rest => withoutComments true rest
      | c, rest => c :: withoutComments false rest

/-- The word that ends here, if there is one; its characters come last first. -/
def wordBefore : List Char → List Token
  | [] => []
  | c :: cs => [.atom (String.ofList (c :: cs).reverse)]

/-- The tokens of a text without comments, `word` being the open word, last character first. -/
def scan (word : List Char) : List Char → List Token
  | [] => wordBefore word
  | c :: rest =>
    if c = '(' then wordBefore word ++ .opening :: scan [] rest
    else if c = ')' then wordBefore word ++ .closing :: scan [] rest
    else if Text.isBlank c then wordBefore word ++ scan [] rest
    else scan (c :: word) rest

/-- The tokens of a text. -/
def ofChars (cs : List Char) : List Token :=
  scan [] (withoutComments false cs)

end Token

/-- The tokens of a text. -/
def tokens (text : String) : List Token :=
  Token.ofChars text.toList

end CodeMap.Mse
