/-
Expressions: operators, comparisons, conditions and lambda expressions.
-/

import CodeMap.Source.Grammar.Operand
import CodeMap.Source.Grammar.Signature

namespace CodeMap.Source.Grammar

/-! ### Arithmetic and bitwise operators -/

/-- An operand of a power, perhaps awaited. -/
def awaited (g : Grammar) : Parser Tree := do
  if ← Parser.acceptKeyword "await" then return .compound .await [← g.primary]
  else g.primary

/-- A power. -/
def power (g : Grammar) : Parser Tree := do
  let base ← g.awaited
  if ← Parser.acceptMark "**" then return .compound .binOp [base, ← g.parse .factor]
  else return base

/-- An operand with a sign, or a power. -/
def factor (g : Grammar) : Parser Tree := do
  match ← Parser.peek with
  | .mark "+" => signed
  | .mark "-" => signed
  | .mark "~" => signed
  | _ => g.power
where
  signed : Parser Tree := do
    Parser.advance
    return .compound .unaryOp [← g.parse .factor]

/-- Takes one of the operators. -/
def acceptOneOf : List String → Parser Bool
  | [] => return false
  | symbol :: symbols => do
    if ← Parser.acceptMark symbol then return true else acceptOneOf symbols

/-- Operands joined by operators of one strength, from left to right. -/
def leftToRight (g : Grammar) (operators : List String) (operand : Parser Tree) : Parser Tree := do
  let first ← operand
  let others ← Parser.whileMore (acceptOneOf operators) operand g.bound
  return others.foldl (fun left right => .compound .binOp [left, right]) first

/-- Operands joined by arithmetic and bitwise operators. -/
def bitwiseOperands (g : Grammar) : Parser Tree :=
  let term := g.leftToRight ["*", "/", "//", "%", "@"] g.factor
  let sum := g.leftToRight ["+", "-"] term
  let shift := g.leftToRight ["<<", ">>"] sum
  let conjunction := g.leftToRight ["&"] shift
  let exclusive := g.leftToRight ["^"] conjunction
  g.leftToRight ["|"] exclusive

/-! ### Comparisons and logic -/

/-- Takes an operator of comparison. -/
def acceptComparison : Parser Bool := do
  match ← Parser.peek, ← Parser.peekSecond with
  | .keyword "not", .keyword "in" =>
    Parser.advance
    Parser.advance
    return true
  | .keyword "is", .keyword "not" =>
    Parser.advance
    Parser.advance
    return true
  | .keyword "is", _ =>
    Parser.advance
    return true
  | .keyword "in", _ =>
    Parser.advance
    return true
  | _, _ => acceptOneOf ["==", "!=", "<=", "<", ">=", ">"]

/-- A chain of comparisons. -/
def comparison (g : Grammar) : Parser Tree := do
  let first ← g.bitwiseOperands
  let others ← Parser.whileMore acceptComparison g.bitwiseOperands g.bound
  return if others.isEmpty then first else .compound .compare (first :: others)

/-- A comparison, perhaps negated. -/
def negatable (g : Grammar) : Parser Tree := do
  if ← Parser.acceptKeyword "not" then return .compound .unaryOp [← g.parse .inversion]
  else g.comparison

/-- Operands joined by a logical operator. -/
def logical (g : Grammar) (word : String) (operand : Parser Tree) : Parser Tree := do
  let first ← operand
  let others ← Parser.whileMore (Parser.acceptKeyword word) operand g.bound
  return if others.isEmpty then first else .compound .boolOp (first :: others)

/-- Operands joined by `or` and `and`. -/
def alternatives (g : Grammar) : Parser Tree :=
  g.logical "or" (g.logical "and" g.negatable)

/-! ### Expressions -/

/-- A lambda expression: its parameters and its body. -/
def lambda (g : Grammar) : Parser Tree := do
  Parser.keyword "lambda"
  let signature ← g.signature false ":"
  Parser.mark ":"
  return .compound .lambda (signature.parts ++ [← g.expression])

/-- An expression without a comma: a lambda expression, a condition or what they are made of. -/
def singleExpression (g : Grammar) : Parser Tree := do
  if ← Parser.atKeyword "lambda" then g.lambda
  else
    let tree ← g.alternatives
    if ← Parser.acceptKeyword "if" then
      let condition ← g.alternatives
      Parser.keyword "else"
      return .compound .ifExp [condition, tree, ← g.expression]
    else return tree

/-- An expression, perhaps with a star. -/
def starExpression (g : Grammar) : Parser Tree := do
  if ← Parser.atMark "*" then g.starred else g.expression

/-- Expressions with commas between them, a star before some. -/
def expressionList (g : Grammar) : Parser Tree := do
  return tupleOf (← g.commaList g.starExpression)

/-- The right side of an assignment. -/
def assigned (g : Grammar) : Parser Tree := do
  if ← Parser.atKeyword "yield" then g.yieldExpression else g.starExpressions

end CodeMap.Source.Grammar
