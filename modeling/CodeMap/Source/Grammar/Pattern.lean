/-
Patterns of a match statement.

A captured name is no expression, so it leaves no tree; what a pattern is compared with does.
-/

import CodeMap.Source.Grammar.Quotation

namespace CodeMap.Source.Grammar

/-! ### Names and literals -/

/-- The name at the start of a pattern is no capture: an attribute, a class or a keyword of a
class follows. -/
def atNameTail : Parser Bool := do
  match ← Parser.peek with
  | .mark "." => return true
  | .mark "(" => return true
  | .mark "=" => return true
  | _ => return false

/-- A name that a pattern binds. -/
def capture : Parser Unit := do
  let id ← Parser.identifier
  if id.text = "_" || (← atNameTail) then failure

/-- Reads the attributes behind `tree`. -/
def dotted (tree : Tree) : Nat → Parser Tree
  | 0 => return tree
  | bound + 1 => do
    if ← Parser.acceptMark "." then
      let attr ← Parser.identifier
      dotted (.attribute tree attr) bound
    else return tree

/-- A number; tells whether it is imaginary. -/
def plainNumber : Parser Bool := do
  match ← Parser.peek with
  | .number (.imaginary _) =>
    Parser.advance
    return true
  | .number _ =>
    Parser.advance
    return false
  | _ => failure

/-- A number with a sign, or a sum of a real and an imaginary one. -/
def signedNumber : Parser Unit := do
  let _ ← Parser.acceptMark "-"
  let imaginary ← plainNumber
  let plus ← Parser.acceptMark "+"
  let joined ← if plus then pure true else Parser.acceptMark "-"
  if joined then
    if imaginary then failure
    if !(← plainNumber) then failure

/-- A literal to compare with. -/
def literalPattern (g : Grammar) : Parser (List Tree) := do
  match ← Parser.peek with
  | .quotation _ => return [← g.quotations]
  | .keyword "None" =>
    Parser.advance
    return []
  | .keyword "True" =>
    Parser.advance
    return []
  | .keyword "False" =>
    Parser.advance
    return []
  | _ =>
    signedNumber
    return []

/-! ### Closed patterns -/

/-- A pattern among others, perhaps a star with a name; tells whether it has a star. -/
def sequenceItem (g : Grammar) : Parser (Tree × Bool) := do
  if ← Parser.acceptMark "*" then
    let id ← Parser.identifier
    if id.text ≠ "_" && (← atNameTail) then failure
    return (.group [], true)
  else return (← g.parse .pattern, false)

/-- Patterns between parentheses: one in parentheses, or a sequence. -/
def parenthesizedPattern (g : Grammar) : Parser Tree := do
  Parser.mark "("
  if ← Parser.acceptMark ")" then return .group []
  let (items, comma) ← g.commaList g.sequenceItem
  Parser.mark ")"
  match items, comma with
  | [(_, true)], false => failure
  | [(item, false)], false => return item
  | items, _ => return .group (items.map Prod.fst)

/-- Patterns between square brackets. -/
def bracketedPattern (g : Grammar) : Parser Tree := do
  Parser.mark "["
  if ← Parser.acceptMark "]" then return .group []
  let (items, _) ← g.commaList g.sequenceItem
  Parser.mark "]"
  return .group (items.map Prod.fst)

/-- A key of a mapping: a literal or an attribute. -/
def mappingKey (g : Grammar) : Parser (List Tree) := do
  match ← Parser.peek with
  | .name id =>
    Parser.advance
    if !(← Parser.atMark ".") then failure
    return [← dotted (.name id) g.bound]
  | _ => g.literalPattern

/-- An entry of a mapping: its key and its pattern. -/
def mappingEntry (g : Grammar) : Parser (List Tree × Tree) := do
  let key ← g.mappingKey
  Parser.mark ":"
  return (key, ← g.parse .pattern)

/-- A pattern between braces. The name for what is left stands last. -/
def mappingPattern (g : Grammar) : Parser Tree := do
  Parser.mark "\x7b"
  let entries ← entriesFrom g.bound
  if ← Parser.acceptMark "**" then
    capture
    let _ ← Parser.acceptMark ","
  Parser.mark "\x7d"
  return .group (entries.flatMap Prod.fst ++ entries.map Prod.snd)
where
  entriesFrom : Nat → Parser (List (List Tree × Tree))
    | 0 => return []
    | bound + 1 => do
      if (← Parser.atMark "\x7d") || (← Parser.atMark "**") then return []
      let first ← g.mappingEntry
      if ← Parser.acceptMark "," then return first :: (← entriesFrom bound)
      else if ← Parser.atMark "\x7d" then return [first]
      else failure

/-- The patterns of a class, those by place before those by name. `named` tells that one by name
has been read. -/
def classPatterns (g : Grammar) (named : Bool) : Nat → Parser (List Tree)
  | 0 => return []
  | bound + 1 => do
    if ← Parser.atMark ")" then return []
    let byName ← do
      match ← Parser.peek, ← Parser.peekSecond with
      | .name _, .mark "=" =>
        Parser.advance
        Parser.advance
        pure true
      | _, _ => pure false
    if named && !byName then failure
    let first ← g.parse .pattern
    if ← Parser.acceptMark "," then return first :: (← g.classPatterns byName bound)
    else if ← Parser.atMark ")" then return [first]
    else failure

/-- A pattern that starts with a name: a capture, a value or a class. -/
def namePattern (g : Grammar) (id : Identifier) : Parser Tree := do
  Parser.advance
  if id.text = "_" then return .group []
  let tree ← dotted (.name id) g.bound
  match ← Parser.peek, tree with
  | .mark "(", tree =>
    Parser.advance
    let patterns ← g.classPatterns false (g.bound + 1)
    Parser.mark ")"
    return .group (tree :: patterns)
  | .mark "=", _ => failure
  | _, .name _ => return .group []
  | _, tree => return .group [tree]

/-- A pattern that needs no parentheses. -/
def closedPattern (g : Grammar) : Parser Tree := do
  match ← Parser.peek with
  | .name id => g.namePattern id
  | .mark "(" => g.parenthesizedPattern
  | .mark "[" => g.bracketedPattern
  | .mark "\x7b" => g.mappingPattern
  | _ => return .group (← g.literalPattern)

/-- Alternatives, perhaps with a name for what is matched. -/
def singlePattern (g : Grammar) : Parser Tree := do
  let first ← g.closedPattern
  let others ← Parser.whileMore (Parser.acceptMark "|") g.closedPattern g.bound
  if ← Parser.acceptKeyword "as" then capture
  return .group (first :: others)

/-- The patterns of a case: one pattern, or a sequence without brackets. -/
def casePatterns (g : Grammar) : Parser Tree := do
  let (items, comma) ← g.commaList g.sequenceItem
  match items, comma with
  | [(_, true)], false => failure
  | items, _ => return .group (items.map Prod.fst)

end CodeMap.Source.Grammar
