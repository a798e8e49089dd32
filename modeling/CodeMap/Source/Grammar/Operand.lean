/-
Operands: names, literals, displays, and the calls, attributes and subscripts built on them.
-/

import CodeMap.Source.Grammar.Quotation
import CodeMap.Source.Grammar.Target

namespace CodeMap.Source.Grammar

/-! ### Comprehensions -/

/-- A clause of a comprehension follows. -/
def atFor : Parser Bool := do
  match ← Parser.peek, ← Parser.peekSecond with
  | .keyword "for", _ => return true
  | .keyword "async", .keyword "for" => return true
  | _, _ => return false

/-- A clause of a comprehension: targets, source and conditions. -/
def forClause (g : Grammar) : Parser Tree := do
  let _ ← Parser.acceptKeyword "async"
  Parser.keyword "for"
  let targets ← g.targets
  Parser.keyword "in"
  let source ← g.disjunction
  let conditions ← Parser.whileMore (Parser.acceptKeyword "if") g.disjunction g.bound
  return .group (targets :: source :: conditions)

/-- The clauses of a comprehension. -/
def forClauses (g : Grammar) : Parser (List Tree) :=
  Parser.whileMore atFor g.forClause g.bound

/-! ### Displays -/

/-- A tree that opens with a star and can stand only among others. -/
def isStarred : Tree → Bool
  | .compound .starred _ => true
  | _ => false

/-- What stands between parentheses. -/
def parenthesized (g : Grammar) : Parser Tree := do
  Parser.mark "("
  if ← Parser.acceptMark ")" then return .compound .tuple []
  if ← Parser.atKeyword "yield" then
    let tree ← g.yieldExpression
    Parser.mark ")"
    return tree
  let (items, comma) ← g.commaList g.displayItem
  match items, comma with
  | [item], false =>
    if isStarred item then failure
    if ← atFor then
      let clauses ← g.forClauses
      Parser.mark ")"
      return .compound .generatorExp (item :: clauses)
    Parser.mark ")"
    return item
  | items, _ =>
    Parser.mark ")"
    return .compound .tuple items

/-- What stands between square brackets. -/
def bracketed (g : Grammar) : Parser Tree := do
  Parser.mark "["
  if ← Parser.acceptMark "]" then return .compound .list []
  let (items, comma) ← g.commaList g.displayItem
  match items, comma with
  | [item], false =>
    if ← atFor then
      if isStarred item then failure
      let clauses ← g.forClauses
      Parser.mark "]"
      return .compound .listComp (item :: clauses)
    Parser.mark "]"
    return .compound .list [item]
  | items, _ =>
    Parser.mark "]"
    return .compound .list items

/-- An entry of a dictionary: a key, if there is one, and a value. -/
def dictEntry (g : Grammar) : Parser (Option Tree × Tree) := do
  if ← Parser.acceptMark "**" then return (none, ← g.bitwise)
  else
    let key ← g.expression
    Parser.mark ":"
    return (some key, ← g.expression)

/-- A dictionary: all keys come before all values. -/
def dictOf (entries : List (Option Tree × Tree)) : Tree :=
  .compound .dict (entries.filterMap Prod.fst ++ entries.map Prod.snd)

/-- The rest of a dictionary after its first entry. -/
def dictFrom (g : Grammar) (first : Option Tree × Tree) : Parser Tree := do
  let (others, _) ← Parser.afterCommas g.dictEntry g.bound
  Parser.mark "\x7d"
  return dictOf (first :: others)

/-- What stands between braces. -/
def braced (g : Grammar) : Parser Tree := do
  Parser.mark "\x7b"
  if ← Parser.acceptMark "\x7d" then return .compound .dict []
  if ← Parser.atMark "**" then
    let first ← g.dictEntry
    return ← g.dictFrom first
  let walrus ← atWalrus
  let item ← g.displayItem
  if !walrus && !isStarred item then
    if ← Parser.acceptMark ":" then
      let value ← g.expression
      if ← atFor then
        let clauses ← g.forClauses
        Parser.mark "\x7d"
        return .compound .dictComp (item :: value :: clauses)
      return ← g.dictFrom (some item, value)
  if ← atFor then
    if isStarred item then failure
    let clauses ← g.forClauses
    Parser.mark "\x7d"
    return .compound .setComp (item :: clauses)
  let (others, _) ← Parser.afterCommas g.displayItem g.bound
  Parser.mark "\x7d"
  return .compound .set (item :: others)

/-- A name, a literal or a display. -/
def atom (g : Grammar) : Parser Tree := do
  match ← Parser.peek with
  | .name id =>
    Parser.advance
    return .name id
  | .number value =>
    Parser.advance
    return .constant value
  | .quotation _ => g.quotations
  | .keyword "None" =>
    Parser.advance
    return .constant .none
  | .keyword "True" =>
    Parser.advance
    return .constant .true
  | .keyword "False" =>
    Parser.advance
    return .constant .false
  | .mark "..." =>
    Parser.advance
    return .constant .ellipsis
  | .mark "(" => g.parenthesized
  | .mark "[" => g.bracketed
  | .mark "\x7b" => g.braced
  | _ => failure

/-! ### Calls -/

/-- The arguments of a call that have been read. -/
structure Arguments where
  places : List Tree := []
  names : List Tree := []
  /-- A double star has been read, behind which no star may stand. -/
  doubleStarred : Bool := false

/-- An argument given by name follows. -/
def atNamedArgument : Parser Bool := do
  match ← Parser.peek, ← Parser.peekSecond with
  | .name _, .mark "=" => return true
  | _, _ => return false

/-- Reads one more argument. -/
def argument (g : Grammar) (known : Arguments) : Parser Arguments := do
  if ← Parser.acceptMark "**" then
    return { known with names := known.names ++ [← g.expression], doubleStarred := true }
  else if ← Parser.acceptMark "*" then
    if known.doubleStarred then failure
    return { known with places := known.places ++ [.compound .starred [← g.expression]] }
  else if ← atNamedArgument then
    Parser.advance
    Parser.advance
    return { known with names := known.names ++ [← g.expression] }
  else
    if !known.names.isEmpty then failure
    return { known with places := known.places ++ [← g.namedExpression] }

/-- Reads arguments up to a closing parenthesis, which is not taken. -/
def argumentsFrom (g : Grammar) (known : Arguments) : Nat → Parser Arguments
  | 0 => failure
  | bound + 1 => do
    if ← Parser.atMark ")" then return known
    let known ← g.argument known
    if ← Parser.acceptMark "," then g.argumentsFrom known bound
    else return known

/-- The arguments between parentheses. If `bare` holds, a single argument may be a comprehension
without parentheses of its own. -/
def arguments (g : Grammar) (bare : Bool) : Parser Arguments := do
  Parser.mark "("
  let known ← g.argumentsFrom {} (g.bound + 1)
  if ← atFor then
    match known.places, known.names with
    | [item], [] =>
      if !bare || isStarred item then failure
      let clauses ← g.forClauses
      Parser.mark ")"
      return { places := [.compound .generatorExp (item :: clauses)] }
    | _, _ => failure
  Parser.mark ")"
  return known

/-! ### Subscripts -/

/-- An end of a slice, absent before a colon, a comma or a closing bracket. -/
def sliceEnd (g : Grammar) : Parser (Option Tree) := do
  match ← Parser.peek with
  | .mark ":" => return none
  | .mark "," => return none
  | .mark "]" => return none
  | _ => some <$> g.expression

/-- What follows the first end of a slice. -/
def sliceFrom (g : Grammar) (first : Option Tree) : Parser Tree := do
  Parser.mark ":"
  let second ← g.sliceEnd
  let third ← if ← Parser.acceptMark ":" then g.sliceEnd else pure none
  return .compound .slice (first.toList ++ second.toList ++ third.toList)

/-- One item of a subscript. -/
def subscriptItem (g : Grammar) : Parser Tree := do
  if ← Parser.acceptMark "*" then return .compound .starred [← g.expression]
  else if ← Parser.atMark ":" then g.sliceFrom none
  else if ← atWalrus then g.namedExpression
  else
    let first ← g.expression
    if ← Parser.atMark ":" then g.sliceFrom (some first) else return first

/-- What stands between the square brackets of a subscript. -/
def subscript (g : Grammar) : Parser Tree := do
  let (items, comma) ← g.commaList g.subscriptItem
  match items, comma with
  | [item], false => return if isStarred item then .compound .tuple [item] else item
  | items, _ => return .compound .tuple items

/-! ### Primaries -/

/-- Reads the attributes, calls and subscripts behind `tree`. -/
def trailers (g : Grammar) (tree : Tree) : Nat → Parser Tree
  | 0 => return tree
  | bound + 1 => do
    match ← Parser.peek with
    | .mark "." =>
      Parser.advance
      let attr ← Parser.identifier
      g.trailers (.attribute tree attr) bound
    | .mark "(" =>
      let found ← g.arguments true
      g.trailers (.call tree found.places found.names) bound
    | .mark "[" =>
      Parser.advance
      let index ← g.subscript
      Parser.mark "]"
      g.trailers (.subscript tree index) bound
    | _ => return tree

/-- An operand with its attributes, calls and subscripts. -/
def primary (g : Grammar) : Parser Tree := do
  let first ← g.atom
  g.trailers first g.bound

end CodeMap.Source.Grammar
