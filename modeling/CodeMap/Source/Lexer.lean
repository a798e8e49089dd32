/-
From characters to tokens.

`tokensOfLines?` gives the tokens of a text or nothing if it has none. A line end inside brackets,
after a backslash or in a line without code is no token. The indentation of a line is compared
with that of the open blocks twice, a tab once counting up to the next multiple of eight and once
counting one, so that lines whose order depends on the width of a tab are refused.

Names are taken as they are written. That they be brought to the normal form NFKC is left out, so
two spellings of a name that differ in the composition or the width of characters are different
names here.

The scan is a loop over `step`, which reads at least one character or ends the text.
-/

import CodeMap.Source.Numeral

namespace CodeMap.Source

/-- The width of an indentation, with wide and with narrow tabs. -/
structure Width where
  wide : Nat
  narrow : Nat
deriving DecidableEq, Repr

/-- The state of a scan. -/
structure Scan where
  rest : List Char
  position : Position := .start
  /-- A line starts here. -/
  atLineStart : Bool := true
  /-- The indentations of the open blocks, innermost first. -/
  blocks : List Width := []
  /-- The open brackets, innermost first. -/
  brackets : List Char := []

namespace Scan

/-- The most brackets that may be open. -/
def bracketLimit : Nat := 200

/-- The most blocks that may be open. -/
def blockLimit : Nat := 99

/-- Reads `count` characters. -/
def skip (scan : Scan) (count : Nat) : Scan :=
  { scan with
    rest := scan.rest.drop count
    position := scan.position.afterAll (scan.rest.take count) }

/-- Reads the characters while they satisfy `p`. -/
def skipWhile (scan : Scan) (p : Char → Bool) : Scan :=
  scan.skip (scan.rest.takeWhile p).length

def isSpace (c : Char) : Bool :=
  c = ' ' || c = '\t' || c = '\x0c'

/-! ### Indentation -/

/-- Measures the blanks at the start of a line: the number of characters and their width. A
backslash before the line end continues the line, and the width before the first one that stands
behind a blank counts for the whole line. -/
def indentation (width held : Width) (count : Nat) : List Char → Option (Nat × Width)
  | ' ' :: rest => indentation ⟨width.wide + 1, width.narrow + 1⟩ held (count + 1) rest
  | '\t' :: rest => indentation ⟨(width.wide / 8 + 1) * 8, width.narrow + 1⟩ held (count + 1) rest
  | '\x0c' :: rest => indentation ⟨0, 0⟩ held (count + 1) rest
  | '\\' :: '\n' :: c :: rest =>
    let held := if held.wide = 0 then ⟨width.wide, width.wide⟩ else held
    indentation width held (count + 2) (c :: rest)
  | '\\' :: _ => none
  | _ => some (count, if held.wide = 0 then width else held)

/-- Closes the blocks that are deeper than `width`: how many, and those that stay open. -/
def closeBlocks (width : Width) : List Width → Nat × List Width
  | [] => (0, [])
  | block :: outer =>
    if width.wide < block.wide then
      let (count, left) := closeBlocks width outer
      (count + 1, left)
    else (0, block :: outer)

/-- The tokens for the indentation `width` of a line with code, and the blocks then open. -/
def enterLine (width : Width) (position : Position) (blocks : List Width) :
    Option (List Token × List Width) :=
  let current := blocks.head?.getD ⟨0, 0⟩
  if width.wide = current.wide then
    if width.narrow = current.narrow then some ([], blocks) else none
  else if current.wide < width.wide then
    if blockLimit ≤ blocks.length || width.narrow ≤ current.narrow then none
    else some ([⟨.indent, position⟩], width :: blocks)
  else
    let (count, left) := closeBlocks width blocks
    if width = left.head?.getD ⟨0, 0⟩ then
      some (List.replicate count ⟨.dedent, position⟩, left)
    else none

/-! ### Quotations -/

/-- The body of a quotation: what stands before its closing quotes. A backslash keeps the next
character from ending the quotation; a line end breaks a quotation with single quotes. -/
def quotationBody (quote : Char) (triple : Bool) : List Char → Option (List Char)
  | [] => none
  | '\\' :: c :: rest => (quotationBody quote triple rest).map fun body => '\\' :: c :: body
  | c :: rest =>
    if c = quote && (!triple || [quote, quote].isPrefixOf rest) then some []
    else if c = '\\' || (c = '\n' && !triple) then none
    else (quotationBody quote triple rest).map (c :: ·)

/-- The letters that may stand before a quote. -/
def quotationLetters : List String :=
  ["", "b", "u", "r", "f", "br", "rb", "fr", "rf"]

/-- The letters before the quote at the start of `cs`, in lower case. -/
def lettersBeforeQuote (cs : List Char) : Option (List Char) :=
  let letters := cs.takeWhile Char.isAlpha
  let lower := letters.map Char.toLower
  let quoted := (cs.drop letters.length).head?.any fun c => c = '"' || c = '\''
  if quoted && quotationLetters.contains (String.ofList lower) then some lower else none

/-- The quotation after its letters and the number of its characters. -/
def quotation (letters : List Char) : List Char → Option (Quotation × Nat)
  | [] => none
  | quote :: rest => do
    let triple := [quote, quote].isPrefixOf rest
    let body ← quotationBody quote triple (if triple then rest.drop 2 else rest)
    let quotes := if triple then 6 else 2
    return (⟨letters.contains 'r', letters.contains 'b', letters.contains 'f', body⟩,
      body.length + quotes)

/-! ### Steps -/

/-- A token at the present place, which takes `count` characters. -/
def take (scan : Scan) (lexeme : Lexeme) (count : Nat) : List Token × Scan :=
  ([⟨lexeme, scan.position⟩], scan.skip count)

/-- The closing bracket for an opening one. -/
def closing? : Char → Option Char
  | '(' => some ')'
  | '[' => some ']'
  | '\x7b' => some '\x7d'
  | _ => none

/-- Keeps track of the brackets: they must match, and only so many may be open. -/
def bracket (scan : Scan) (c : Char) : Option Scan :=
  match closing? c with
  | some close =>
    if bracketLimit ≤ scan.brackets.length then none
    else some { scan with brackets := close :: scan.brackets }
  | none =>
    if c = ')' || c = ']' || c = '\x7d' then
      match scan.brackets with
      | close :: outer => if c = close then some { scan with brackets := outer } else none
      | [] => none
    else some scan

/-- The word at the start of the rest: a reserved word or a name. -/
def word (scan : Scan) : Option (List Token × Scan) := do
  let cs := scan.rest.takeWhile Numeral.isWordChar
  let text := String.ofList cs
  if keywords.contains text then return scan.take (.keyword text) cs.length
  else return scan.take (.name (← Identifier.ofChars? cs)) cs.length

/-- The operator or delimiter at the start of the rest. -/
def mark (scan : Scan) (c : Char) : Option (List Token × Scan) := do
  let symbol ← marks.find? fun symbol => symbol.toList.isPrefixOf scan.rest
  let tracked ← scan.bracket c
  return tracked.take (.mark symbol) symbol.length

/-- The token at the present place, where no blank stands. -/
def token (scan : Scan) (c : Char) (rest : List Char) : Option (List Token × Scan) :=
  match lettersBeforeQuote scan.rest with
  | some letters => do
    let (text, count) ← quotation letters (scan.rest.drop letters.length)
    return scan.take (.quotation text) (letters.length + count)
  | none =>
    if c.isDigit || (c = '.' && rest.head?.any Char.isDigit) then do
      let window := scan.rest.takeWhile Numeral.isNumeralChar
      let (value, rest) ← Numeral.read window
      return scan.take (.number value) (window.length - rest.length)
    else if Numeral.isWordChar c then scan.word
    else scan.mark c

/-- The next token of a line, or the end of the line or of the text. `silent` tells that the line
holds no code. -/
def withinLine (silent : Bool) (scan : Scan) : Option (List Token × Option Scan) :=
  let scan := scan.skipWhile isSpace
  let scan := if scan.rest.head? = some '#' then scan.skipWhile (· ≠ '\n') else scan
  match scan.rest with
  | [] => if scan.brackets.isEmpty then some ([⟨.endOfText, scan.position⟩], none) else none
  | '\n' :: _ =>
    let next := { scan.skip 1 with atLineStart := true }
    if silent || !scan.brackets.isEmpty then some ([], some next)
    else some ([⟨.newline, scan.position⟩], some next)
  | '\\' :: '\n' :: _ :: _ => some ([], some (scan.skip 2))
  | '\\' :: _ => none
  | c :: rest => (scan.token c rest).map fun found => (found.1, some found.2)

/-- The next tokens and the scan after them, which is absent at the end of the text. -/
def step (scan : Scan) : Option (List Token × Option Scan) :=
  if scan.atLineStart then do
    let (count, width) ← indentation ⟨0, 0⟩ ⟨0, 0⟩ 0 scan.rest
    let scan := { scan.skip count with atLineStart := false }
    let silent := scan.rest.head?.any fun c => c = '#' || c = '\n'
    let (tokens, blocks) ←
      if silent || !scan.brackets.isEmpty then some ([], scan.blocks)
      else enterLine width scan.position scan.blocks
    let (more, next) ← { scan with blocks := blocks }.withinLine silent
    return (tokens ++ more, next)
  else scan.withinLine false

/-- The tokens of at most `bound` steps from here on, which must reach the end of the text. -/
def tokensWithin : Nat → Scan → Option (List Token)
  | 0, _ => none
  | bound + 1, scan => do
    match ← scan.step with
    | (tokens, none) => return tokens
    | (tokens, some next) => return tokens ++ (← tokensWithin bound next)

/-- All tokens from here on. Every step but the last reads a character. -/
def tokens (scan : Scan) : Option (List Token) :=
  scan.tokensWithin (scan.rest.length + 1)

end Scan

/-- The tokens of a text whose line ends are line feeds. -/
def tokensOfLines? (cs : List Char) : Option (List Token) :=
  if cs.contains '\x00' then none else ({ rest := cs } : Scan).tokens

/-- A line feed at the end unless there is one. -/
def endLine (cs : List Char) : List Char :=
  if cs.getLast? = some '\n' then cs else cs ++ ['\n']

end CodeMap.Source
