/-
Parsers on token lists.

A parser takes tokens off a list or fails. Failing takes nothing, so alternatives start where the
first one started. Loops are bounded by a number that their callers have at hand.
-/

import CodeMap.Source.Token

namespace CodeMap.Source

/-- A parser of `α`. -/
abbrev Parser (α : Type) := StateT (List Token) Option α

namespace Parser

variable {α : Type}

/-- The next lexeme, which is not taken. -/
def peek : Parser Lexeme := do
  match ← get with
  | token :: _ => return token.lexeme
  | [] => return .endOfText

/-- The lexeme after the next one. -/
def peekSecond : Parser Lexeme := do
  match ← get with
  | _ :: token :: _ => return token.lexeme
  | _ => return .endOfText

/-- The place of the next token. -/
def position : Parser Position := do
  match ← get with
  | token :: _ => return token.position
  | [] => return .start

/-- Takes the next token. -/
def advance : Parser Unit := modify List.tail

/-- Takes the next token if it is `lexeme`. -/
def accept (lexeme : Lexeme) : Parser Bool := do
  if (← peek) = lexeme then
    advance
    return true
  else return false

/-- Takes the next token, which must be `lexeme`. -/
def expect (lexeme : Lexeme) : Parser Unit := do
  if (← peek) = lexeme then advance else failure

def acceptMark (symbol : String) : Parser Bool := accept (.mark symbol)

def mark (symbol : String) : Parser Unit := expect (.mark symbol)

def acceptKeyword (word : String) : Parser Bool := accept (.keyword word)

def keyword (word : String) : Parser Unit := expect (.keyword word)

/-- The next token is the mark `symbol`. -/
def atMark (symbol : String) : Parser Bool := return (← peek) = .mark symbol

/-- The next token is the reserved word `word`. -/
def atKeyword (word : String) : Parser Bool := return (← peek) = .keyword word

/-- A name. -/
def identifier : Parser Identifier := do
  match ← peek with
  | .name id =>
    advance
    return id
  | _ => failure

/-- What `parser` reads if it can read something. -/
def optional (parser : Parser α) : Parser (Option α) := do
  try
    return some (← parser)
  catch _ => return none

/-- Reads with `parser` if `here` holds. -/
def when (here : Bool) (parser : Parser α) : Parser (Option α) :=
  if here then some <$> parser else return none

/-- Reads items while `more` finds another one to follow. -/
def whileMore (more : Parser Bool) (item : Parser α) : Nat → Parser (List α)
  | 0 => return []
  | bound + 1 => do
    if ← more then
      let first ← item
      return first :: (← whileMore more item bound)
    else return []

/-- The items after a first one, each behind a comma, and whether a comma comes last. -/
def afterCommas (item : Parser α) : Nat → Parser (List α × Bool)
  | 0 => return ([], false)
  | bound + 1 => do
    if ← acceptMark "," then
      match ← optional item with
      | some first =>
        let (items, comma) ← afterCommas item bound
        return (first :: items, comma)
      | none => return ([], true)
    else return ([], false)

/-- One or more items with commas between them, and whether a comma comes last. -/
def commaList (bound : Nat) (item : Parser α) : Parser (List α × Bool) := do
  let first ← item
  let (items, comma) ← afterCommas item bound
  return (first :: items, comma)

end Parser

end CodeMap.Source
