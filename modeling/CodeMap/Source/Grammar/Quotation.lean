/-
Quotations side by side: texts, bytes and texts with fields.

A field stands between braces: an expression, perhaps an equals sign, a conversion behind an
exclamation mark and a format behind a colon, which can hold fields itself. A doubled brace is a
brace. The expression ends at the first character that ends it outside brackets and quotes; it
holds neither a backslash nor a number sign. Of a text with fields only the fields are kept.
-/

import CodeMap.Source.Escape
import CodeMap.Source.Grammar.Rule
import CodeMap.Source.Lexer

namespace CodeMap.Source

namespace Quotation

/-- Where the reading of the text between fields stands. -/
inductive Place where
  | plain
  /-- Behind a backslash. -/
  | escaped
  /-- Behind the letter that announces the name of a character. -/
  | beforeName
  /-- Inside the name of a character. -/
  | inName
deriving DecidableEq

/-- The text before the next field or the end, whether a doubled brace ends it, and the rest.
`inner` tells that the text is a format, in which braces are not doubled. -/
def plainPart (raw inner : Bool) (place : Place) : List Char → Option (List Char × Bool × List Char)
  | [] => some ([], false, [])
  | c :: rest =>
    let onward (next : Place) :=
      (plainPart raw inner next rest).map fun found => (c :: found.1, found.2)
    if place = .inName then onward (if c = '\x7d' then .plain else .inName)
    else if place = .beforeName then onward (if c = '\x7b' then .inName else .plain)
    else if place = .escaped && c = 'N' then onward .beforeName
    else if place = .plain && c = '\\' && !raw && !rest.isEmpty then onward .escaped
    else if c = '\x7b' || c = '\x7d' then
      if !inner && rest.head? = some c then some ([c], true, rest.tail)
      else if !inner && c = '\x7d' then none
      else some ([], false, c :: rest)
    else onward .plain

/-- The characters of the expression of a field and the rest, which starts with the character that
ends it. `quote` is the open quote and whether it is a triple one, `brackets` are the closing
brackets to come, and `skip` characters are known to belong to the expression. -/
def expressionPart (quote : Option (Char × Bool)) (brackets : List Char) (skip : Nat) :
    List Char → Option (List Char × List Char)
  | [] => none
  | c :: rest =>
    let onward (quote : Option (Char × Bool)) (brackets : List Char) (skip : Nat) :=
      (expressionPart quote brackets skip rest).map fun found => (c :: found.1, found.2)
    match skip, quote with
    | skip + 1, quote => onward quote brackets skip
    | 0, some (q, triple) =>
      if c = '\\' then none
      else if c ≠ q then onward quote brackets 0
      else if !triple then onward none brackets 0
      else if [q, q].isPrefixOf rest then onward none brackets 2
      else onward quote brackets 0
    | 0, none =>
      if c = '\\' || c = '#' then none
      else if c = '\'' || c = '"' then
        if [c, c].isPrefixOf rest then onward (some (c, true)) brackets 2
        else onward (some (c, false)) brackets 0
      else
        match Scan.closing? c with
        | some close =>
          if Scan.bracketLimit ≤ brackets.length then none else onward none (close :: brackets) 0
        | none =>
          if brackets.isEmpty && ['!', '=', '<', '>'].contains c && rest.head? = some '=' then
            onward none brackets 1
          else if brackets.isEmpty && ['!', ':', '=', '\x7d'].contains c then some ([], c :: rest)
          else if [')', ']', '\x7d'].contains c then
            if brackets.head? = some c then onward none brackets.tail 0 else none
          else onward none brackets 0

/-- The blanks that can stand before a conversion. -/
def isFieldBlank (c : Char) : Bool :=
  Scan.isSpace c || c = '\n' || c = '\r' || c = '\x0b'

/-- The rest after an equals sign and the blanks behind it. -/
def afterEcho : List Char → List Char
  | '=' :: rest => rest.dropWhile isFieldBlank
  | rest => rest

/-- The rest after a conversion. -/
def afterConversion : List Char → Option (List Char)
  | '!' :: c :: rest => if ['s', 'r', 'a'].contains c then some rest else none
  | rest => some rest

/-- The field behind an opening brace and the rest; `format` reads a format. -/
def field (g : Grammar) (format : List Char → Option (List Tree × List Char)) (cs : List Char) :
    Option (Tree × List Char) := do
  let (expression, rest) ← expressionPart none [] 0 cs
  if expression.all fun c => Scan.isSpace c || c = '\n' then none
  else
    let tokens ← tokensOfLines? ('(' :: expression ++ [')', '\n'])
    let (value, _) ← g.starExpressions.run tokens
    match ← afterConversion (afterEcho rest) with
    | '\x7d' :: rest => return (.compound .formattedValue [value], rest)
    | ':' :: rest =>
      match ← format rest with
      | (parts, '\x7d' :: rest) =>
        return (.compound .formattedValue [value, .compound .joinedStr parts], rest)
      | _ => none
    | _ => none

/-- The fields of a text and what is left: nothing, or a closing brace if the text is a format.
Formats are read at the levels one and two; those at level two hold no fields. -/
def fields (g : Grammar) (raw : Bool) : Nat → Nat → List Char → Option (List Tree × List Char)
  | 0, _, _ => none
  | bound + 1, level, cs => do
    let (text, doubled, rest) ← plainPart raw (level ≠ 0) .plain cs
    let _ ← Escape.text? raw text
    if doubled then fields g raw bound level rest
    else
      match rest with
      | '\x7b' :: rest =>
        if 2 ≤ level then none
        else
          let (first, rest) ← field g (fields g raw bound (level + 1)) rest
          let (others, rest) ← fields g raw bound level rest
          return (first :: others, rest)
      | rest => return ([], rest)

/-- The fields of a quotation; one without fields must have readable escapes. -/
def parts (g : Grammar) (quotation : Quotation) : Option (List Tree) := do
  if quotation.format then
    let (found, rest) ← fields g quotation.raw (quotation.body.length + 1) 0 quotation.body
    if rest.isEmpty then return found else none
  else
    let _ ← Escape.text? quotation.raw quotation.body
    return []

/-- The tree of quotations side by side. -/
def tree (g : Grammar) (quotations : List Quotation) : Option Tree := do
  if quotations.all (·.bytes) then
    let bytes ← quotations.mapM fun quotation => Escape.bytes? quotation.raw quotation.body
    return .constant (.bytes bytes.flatten)
  else if quotations.any (·.bytes) then none
  else if quotations.any (·.format) then
    let found ← quotations.mapM (parts g)
    return .compound .joinedStr found.flatten
  else
    let texts ← quotations.mapM fun quotation => Escape.text? quotation.raw quotation.body
    return .constant (.text (String.ofList texts.flatten))

end Quotation

namespace Grammar

/-- The next quotation. -/
def quotation : Parser Quotation := do
  match ← Parser.peek with
  | .quotation text =>
    Parser.advance
    return text
  | _ => failure

/-- A quotation follows. -/
def atQuotation : Parser Bool := do
  match ← Parser.peek with
  | .quotation _ => return true
  | _ => return false

/-- Quotations side by side. -/
def quotations (g : Grammar) : Parser Tree := do
  let first ← quotation
  let others ← Parser.whileMore atQuotation quotation g.bound
  match Quotation.tree g (first :: others) with
  | some tree => return tree
  | none => failure

end Grammar

end CodeMap.Source
