/-
Source texts to trees.

`grammarOf n` unfolds the rules of the grammar `n` times. Between two uses of rules at one place a
token is read at most once in two steps, so twice the length of the text is enough; `module?` and
`expression?` supply it.
-/

import CodeMap.Source.Grammar.Statement
import CodeMap.Text.Lines

namespace CodeMap.Source

/-- The parser of a rule in a grammar. -/
def Rule.parser (g : Grammar) : {α : Type} → Rule α → Parser α
  | _, .expression => g.singleExpression
  | _, .disjunction => g.alternatives
  | _, .inversion => g.negatable
  | _, .bitwise => g.bitwiseOperands
  | _, .factor => g.factor
  | _, .starExpressions => g.expressionList
  | _, .pattern => g.singlePattern
  | _, .block => g.dependent

/-- The parser of a rule with the rules unfolded `n` times. -/
def Rule.unfolded : Nat → {α : Type} → Rule α → Parser α
  | 0, _, _ => failure
  | n + 1, _, rule => rule.parser ⟨n, Rule.unfolded n⟩

/-- The grammar with the rules unfolded `n` times. -/
def grammarOf (n : Nat) : Grammar := ⟨n, Rule.unfolded n⟩

/-- The depth of unfolding that a text can need. -/
def depthFor (cs : List Char) : Nat := 2 * cs.length + 16

/-- The statements of a source text, or nothing if it is no module. -/
def module? (source : String) : Option (List Tree) := do
  let cs := endLine (Text.unifyLineEnds source.toList)
  let tokens ← tokensOfLines? cs
  let (trees, rest) ← (grammarOf (depthFor cs)).statements.run tokens
  if rest.head?.any fun token => token.lexeme = .endOfText then return trees else none

/-- Expressions with commas between them and nothing else. -/
def Grammar.expressionsOnly (g : Grammar) : Parser Tree := do
  let tree ← Grammar.tupleOf <$> g.commaList g.expression
  let _ ← Parser.whileMore (Parser.accept .newline) (pure ()) g.bound
  Parser.expect .endOfText
  return tree

/-- The expression that is a whole text, or nothing if the text is none. -/
def expression? (source : String) : Option Tree := do
  let cs := Text.unifyLineEnds source.toList
  let tokens ← tokensOfLines? cs
  let (tree, _) ← (grammarOf (depthFor cs)).expressionsOnly.run tokens
  return tree

end CodeMap.Source
