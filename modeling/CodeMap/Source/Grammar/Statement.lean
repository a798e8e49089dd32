/-
Statements.

A simple statement stands on a line, perhaps with others; a compound one has blocks that depend on
a colon. An assignment stands at its first target, a class at the word `class` and a function at
the word `def`, whatever decorators precede it.
-/

import CodeMap.Source.Grammar.Expression
import CodeMap.Source.Grammar.Pattern

namespace CodeMap.Source.Grammar

/-! ### Simple statements -/

/-- The operators of an assignment that reads its target. -/
def updateOperators : List String :=
  ["+=", "-=", "*=", "@=", "/=", "%=", "&=", "|=", "^=", "<<=", ">>=", "**=", "//="]

/-- Reads the right sides of an assignment: all but the last are targets too. The trees come last
first. -/
def assignedValues (g : Grammar) (known : List Tree) : Nat → Parser (List Tree × Tree)
  | 0 => failure
  | bound + 1 => do
    if ← Parser.atKeyword "yield" then return (known.reverse, ← g.yieldExpression)
    else
      let tree ← g.expressionList
      if ← Parser.acceptMark "=" then
        if tree.isTarget true then g.assignedValues (tree :: known) bound else failure
      else return (known.reverse, tree)

/-- An assignment or an expression that stands alone. -/
def expressionStatement (g : Grammar) : Parser Tree := do
  let position ← Parser.position
  if ← Parser.atKeyword "yield" then return .group [← g.yieldExpression]
  let tree ← g.expressionList
  if ← Parser.acceptMark "=" then
    if !tree.isTarget true then failure
    let (targets, value) ← g.assignedValues [tree] (g.bound + 1)
    return .assign position targets value
  else if ← Parser.acceptMark ":" then
    if !tree.isSingleTarget then failure
    let hint ← g.expression
    if ← Parser.acceptMark "=" then return .group [tree, hint, ← g.assigned]
    else return .group [tree, hint]
  else if ← acceptOneOf updateOperators then
    if !tree.isSingleTarget then failure
    return .group [tree, ← g.assigned]
  else return .group [tree]

/-- Names with full stops between them. -/
def dottedName (g : Grammar) : Parser DottedName := do
  let first ← Parser.identifier
  let others ← Parser.whileMore (Parser.acceptMark ".") Parser.identifier g.bound
  return ⟨first, others⟩

/-- The name behind `as`, if there is one. -/
def asName : Parser (Option Identifier) := do
  if ← Parser.acceptKeyword "as" then some <$> Parser.identifier else return none

/-- An import of modules. -/
def importStatement (g : Grammar) : Parser Tree := do
  Parser.keyword "import"
  let (aliases, comma) ← g.commaList do
    let name ← g.dottedName
    return ⟨.dotted name, ← asName⟩
  if comma then failure
  return .importNames aliases

/-- One name that is imported from a module. -/
def importedName : Parser Alias := do
  let id ← Parser.identifier
  return ⟨.dotted ⟨id, []⟩, ← asName⟩

/-- The names that are imported from a module. -/
def importedNames (g : Grammar) : Parser (List Alias) := do
  if ← Parser.acceptMark "*" then return [⟨.all, none⟩]
  else if ← Parser.acceptMark "(" then
    let (aliases, _) ← g.commaList importedName
    Parser.mark ")"
    return aliases
  else
    let (aliases, comma) ← g.commaList importedName
    if comma then failure
    return aliases

/-- An import from a module, which may be named relative to the present one by dots alone. -/
def fromStatement (g : Grammar) : Parser Tree := do
  Parser.keyword "from"
  let dots ← Parser.whileMore (acceptOneOf [".", "..."]) (pure ()) g.bound
  let name ←
    if !dots.isEmpty && (← Parser.atKeyword "import") then pure none else some <$> g.dottedName
  Parser.keyword "import"
  return .importFrom name (← g.importedNames)

/-- The names of a `global` or `nonlocal` statement. -/
def nameList (g : Grammar) : Parser Tree := do
  Parser.advance
  let (_, comma) ← g.commaList Parser.identifier
  if comma then failure
  return .group []

/-- The end of a simple statement follows. -/
def atStatementEnd : Parser Bool := do
  match ← Parser.peek with
  | .newline => return true
  | .mark ";" => return true
  | _ => return false

/-- A simple statement. -/
def simpleStatement (g : Grammar) : Parser Tree := do
  match ← Parser.peek with
  | .keyword "pass" => alone
  | .keyword "break" => alone
  | .keyword "continue" => alone
  | .keyword "import" => g.importStatement
  | .keyword "from" => g.fromStatement
  | .keyword "global" => g.nameList
  | .keyword "nonlocal" => g.nameList
  | .keyword "return" =>
    Parser.advance
    if ← atStatementEnd then return .group [] else return .group [← g.starExpressions]
  | .keyword "raise" =>
    Parser.advance
    if ← atStatementEnd then return .group []
    let raised ← g.expression
    if ← Parser.acceptKeyword "from" then return .group [raised, ← g.expression]
    else return .group [raised]
  | .keyword "assert" =>
    Parser.advance
    let test ← g.expression
    if ← Parser.acceptMark "," then return .group [test, ← g.expression]
    else return .group [test]
  | .keyword "del" =>
    Parser.advance
    let tree ← g.starExpressions
    if tree.isDeletable then return .group [tree] else failure
  | _ => g.expressionStatement
where
  alone : Parser Tree := do
    Parser.advance
    return .group []

/-- The simple statements of a line. -/
def statementLine (g : Grammar) : Nat → Parser (List Tree)
  | 0 => failure
  | bound + 1 => do
    let first ← g.simpleStatement
    if ← Parser.acceptMark ";" then
      if ← Parser.accept .newline then return [first]
      else return first :: (← g.statementLine bound)
    else
      Parser.expect .newline
      return [first]

/-! ### Compound statements -/

/-- A colon and the block behind it. -/
def body (g : Grammar) : Parser (List Tree) := do
  Parser.mark ":"
  g.block

/-- The block behind `word`, if it is there. -/
def bodyAfter (g : Grammar) (word : String) : Parser (List Tree) := do
  if ← Parser.acceptKeyword word then g.body else return []

/-- Conditions and their blocks, the alternative included. -/
def ifStatement (g : Grammar) : Parser Tree := do
  Parser.keyword "if"
  let test ← g.namedExpression
  let body ← g.body
  let others ← Parser.whileMore (Parser.acceptKeyword "elif") branch g.bound
  let last ← g.bodyAfter "else"
  return .group (test :: body ++ others.flatten ++ last)
where
  branch : Parser (List Tree) := do
    let test ← g.namedExpression
    return test :: (← g.body)

def whileStatement (g : Grammar) : Parser Tree := do
  Parser.keyword "while"
  let test ← g.namedExpression
  let body ← g.body
  return .group (test :: body ++ (← g.bodyAfter "else"))

def forStatement (g : Grammar) : Parser Tree := do
  Parser.keyword "for"
  let targets ← g.targets
  Parser.keyword "in"
  let source ← g.starExpressions
  let body ← g.body
  return .group (targets :: source :: body ++ (← g.bodyAfter "else"))

/-- An item of a `with` statement: an expression and perhaps a target. -/
def withItem (g : Grammar) : Parser Tree := do
  let value ← g.expression
  if ← Parser.acceptKeyword "as" then return .group [value, ← g.target] else return value

/-- Items between parentheses, up to the colon. -/
def parenthesizedItems (g : Grammar) : Parser (List Tree) := do
  Parser.mark "("
  let (items, _) ← g.commaList g.withItem
  Parser.mark ")"
  if ← Parser.atMark ":" then return items else failure

def withStatement (g : Grammar) : Parser Tree := do
  Parser.keyword "with"
  let items ←
    match ← Parser.optional g.parenthesizedItems with
    | some items => pure items
    | none => do
      let (items, comma) ← g.commaList g.withItem
      if comma then failure else pure items
  return .group (items ++ (← g.body))

/-- A handler behind the word `except`; `star` tells that a star follows it. -/
def handler (g : Grammar) (star : Bool) : Parser Tree := do
  if star then Parser.mark "*"
  else if ← Parser.atMark ":" then return .group (← g.body)
  let kind ← g.expression
  let _ ← asName
  return .group (kind :: (← g.body))

def tryStatement (g : Grammar) : Parser Tree := do
  Parser.keyword "try"
  let body ← g.body
  let star ← do
    match ← Parser.peek, ← Parser.peekSecond with
    | .keyword "except", .mark "*" => pure true
    | _, _ => pure false
  let handlers ← Parser.whileMore (Parser.acceptKeyword "except") (g.handler star) g.bound
  if handlers.isEmpty then
    Parser.keyword "finally"
    return .group (body ++ (← g.body))
  else
    let otherwise ← g.bodyAfter "else"
    return .group (body ++ handlers ++ otherwise ++ (← g.bodyAfter "finally"))

/-! ### Definitions -/

/-- A class behind its decorators. -/
def classDefinition (g : Grammar) (decorators : List Tree) : Parser Tree := do
  let position ← Parser.position
  Parser.keyword "class"
  let name ← Parser.identifier
  let bases ← if ← Parser.atMark "(" then g.arguments false else pure {}
  let body ← g.body
  return .classDef position name (bases.places ++ bases.names ++ body ++ decorators)

/-- A function behind its decorators; an asynchronous one is no definition. -/
def functionDefinition (g : Grammar) (decorators : List Tree) (async : Bool) : Parser Tree := do
  let position ← Parser.position
  Parser.keyword "def"
  let name ← Parser.identifier
  Parser.mark "("
  let signature ← g.signature true ")"
  Parser.mark ")"
  let returns ← if ← Parser.acceptMark "->" then some <$> g.expression else pure none
  let body ← g.body
  let rest := body ++ decorators ++ returns.toList
  return if async then .group (signature.parts ++ rest)
    else .functionDef position name signature.positional signature.plain (signature.after ++ rest)

/-- A decorator. -/
def decorator (g : Grammar) : Parser Tree := do
  let tree ← g.namedExpression
  Parser.expect .newline
  return tree

/-- A definition behind its decorators. -/
def decorated (g : Grammar) : Parser Tree := do
  let decorators ← Parser.whileMore (Parser.acceptMark "@") g.decorator g.bound
  match ← Parser.peek with
  | .keyword "class" => g.classDefinition decorators
  | .keyword "def" => g.functionDefinition decorators false
  | _ =>
    Parser.keyword "async"
    g.functionDefinition decorators true

/-- What follows the word `async`. -/
def asyncStatement (g : Grammar) : Parser Tree := do
  Parser.keyword "async"
  match ← Parser.peek with
  | .keyword "def" => g.functionDefinition [] true
  | .keyword "for" => g.forStatement
  | _ => g.withStatement

/-! ### Match statements -/

/-- Takes the name `text`, which is reserved in its place only. -/
def acceptWord (text : String) : Parser Bool := do
  match ← Parser.peek with
  | .name id =>
    if id.text = text then
      Parser.advance
      return true
    else return false
  | _ => return false

/-- The head of a match statement, its line end included: what is matched. -/
def matchHead (g : Grammar) : Parser Tree := do
  if !(← acceptWord "match") then failure
  let (items, comma) ← g.commaList g.displayItem
  let subject ←
    match items, comma with
    | [item], false => if isStarred item then failure else pure item
    | items, _ => pure (.compound .tuple items)
  Parser.mark ":"
  Parser.expect .newline
  return subject

/-- A case behind its word. -/
def caseBlock (g : Grammar) : Parser Tree := do
  let pattern ← g.casePatterns
  let guarded ← if ← Parser.acceptKeyword "if" then some <$> g.namedExpression else pure none
  return .group (pattern :: guarded.toList ++ (← g.body))

/-- The cases of a match statement. -/
def matchCases (g : Grammar) (subject : Tree) : Parser Tree := do
  Parser.expect .indent
  let cases ← Parser.whileMore (acceptWord "case") g.caseBlock g.bound
  if cases.isEmpty then failure
  Parser.expect .dedent
  return .group (subject :: cases)

/-! ### Blocks -/

/-- A statement, or the simple statements of a line. -/
def statement (g : Grammar) : Parser (List Tree) := do
  match ← Parser.peek with
  | .keyword "if" => one g.ifStatement
  | .keyword "while" => one g.whileStatement
  | .keyword "for" => one g.forStatement
  | .keyword "with" => one g.withStatement
  | .keyword "try" => one g.tryStatement
  | .keyword "class" => one (g.classDefinition [])
  | .keyword "def" => one (g.functionDefinition [] false)
  | .keyword "async" => one g.asyncStatement
  | .mark "@" => one g.decorated
  | .name _ =>
    match ← Parser.optional g.matchHead with
    | some subject => one (g.matchCases subject)
    | none => g.statementLine (g.bound + 1)
  | _ => g.statementLine (g.bound + 1)
where
  one (parser : Parser Tree) : Parser (List Tree) := do
    return [← parser]

/-- Another statement of a block follows. -/
def atStatement : Parser Bool := do
  match ← Parser.peek with
  | .dedent => return false
  | .endOfText => return false
  | _ => return true

/-- Statements up to the end of their block. -/
def statements (g : Grammar) : Parser (List Tree) := do
  return (← Parser.whileMore atStatement g.statement g.bound).flatten

/-- The statements that depend on a colon: a block of lines or the rest of the line. -/
def dependent (g : Grammar) : Parser (List Tree) := do
  if ← Parser.accept .newline then
    Parser.expect .indent
    let found ← g.statements
    Parser.expect .dedent
    return found
  else g.statementLine (g.bound + 1)

end CodeMap.Source.Grammar
