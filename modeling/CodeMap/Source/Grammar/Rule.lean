/-
The rules of the grammar that refer to each other.

Every rule is written against a `Grammar`, which gives the parsers of all rules, so no rule calls
itself. `Source.Parse` ties the rules together.
-/

import CodeMap.Source.Grammar.Parser
import CodeMap.Source.Tree

namespace CodeMap.Source

/-- A rule that others refer to, with the type of what it reads. -/
inductive Rule : Type → Type where
  /-- An expression without a comma. -/
  | expression : Rule Tree
  /-- Operands joined by `or` and `and`. -/
  | disjunction : Rule Tree
  /-- A comparison, perhaps negated. -/
  | inversion : Rule Tree
  /-- Operands joined by arithmetic and bitwise operators. -/
  | bitwise : Rule Tree
  /-- An operand with a sign, or a power. -/
  | factor : Rule Tree
  /-- Expressions with commas between them, a star before some. -/
  | starExpressions : Rule Tree
  /-- A pattern without a comma. -/
  | pattern : Rule Tree
  /-- The statements that depend on a colon. -/
  | block : Rule (List Tree)

/-- The parsers of the rules, and a bound for the number of tokens that are left. -/
structure Grammar where
  bound : Nat
  parse : {α : Type} → Rule α → Parser α

namespace Grammar

def expression (g : Grammar) : Parser Tree := g.parse .expression

def disjunction (g : Grammar) : Parser Tree := g.parse .disjunction

def bitwise (g : Grammar) : Parser Tree := g.parse .bitwise

def starExpressions (g : Grammar) : Parser Tree := g.parse .starExpressions

def block (g : Grammar) : Parser (List Tree) := g.parse .block

/-- Items with commas between them. -/
def commaList {α : Type} (g : Grammar) (item : Parser α) : Parser (List α × Bool) :=
  Parser.commaList g.bound item

/-- A starred operand. -/
def starred (g : Grammar) : Parser Tree := do
  Parser.mark "*"
  return .compound .starred [← g.bitwise]

/-- An assignment with the result of an expression follows. -/
def atWalrus : Parser Bool := do
  match ← Parser.peek, ← Parser.peekSecond with
  | .name _, .mark ":=" => return true
  | _, _ => return false

/-- An expression or an assignment with its result. -/
def namedExpression (g : Grammar) : Parser Tree := do
  if ← atWalrus then
    let id ← Parser.identifier
    Parser.mark ":="
    return .compound .namedExpr [.name id, ← g.expression]
  else g.expression

/-- An item of a display: an expression, an assignment with its result or a starred operand. -/
def displayItem (g : Grammar) : Parser Tree := do
  if ← Parser.atMark "*" then g.starred else g.namedExpression

/-- One item stands for itself, several or one with a comma for a tuple. -/
def tupleOf : List Tree × Bool → Tree
  | ([item], false) => item
  | (items, _) => .compound .tuple items

/-- A `yield` with what it yields. -/
def yieldExpression (g : Grammar) : Parser Tree := do
  Parser.keyword "yield"
  if ← Parser.acceptKeyword "from" then
    return .compound .yieldFrom [← g.expression]
  else
    let value ← Parser.optional g.starExpressions
    return .compound .yield value.toList

end Grammar

end CodeMap.Source
