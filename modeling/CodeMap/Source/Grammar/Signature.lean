/-
The parameters of functions and of lambda expressions.

Parameters that are given by place only end with a slash, those that are given by name only follow
a star. Behind a parameter with a default no parameter lacks one, the star apart.
-/

import CodeMap.Source.Grammar.Rule

namespace CodeMap.Source

/-- The parameters and their defaults. -/
structure Signature where
  positional : List Tree := []
  plain : List Tree := []
  variadic : List Tree := []
  named : List Tree := []
  namedDefaults : List Tree := []
  namedVariadic : List Tree := []
  defaults : List Tree := []
  /-- A star has been read. -/
  starred : Bool := false

namespace Signature

/-- What stands behind the plain parameters, in visiting order. -/
def after (signature : Signature) : List Tree :=
  signature.variadic ++ signature.named ++ signature.namedDefaults ++ signature.namedVariadic ++
    signature.defaults

/-- All parameters and defaults in visiting order. -/
def parts (signature : Signature) : List Tree :=
  signature.positional ++ signature.plain ++ signature.after

end Signature

namespace Grammar

/-- A parameter; `annotated` tells that it may have an annotation, `starAnnotated` that the
annotation may have a star. -/
def parameter (g : Grammar) (annotated starAnnotated : Bool) : Parser Tree := do
  let id ← Parser.identifier
  if annotated then
    if ← Parser.acceptMark ":" then
      if starAnnotated then
        if ← Parser.atMark "*" then return .typedParam id (← g.starred)
      return .typedParam id (← g.expression)
  return .param id

/-- The default of a parameter. -/
def parameterDefault (g : Grammar) : Parser (Option Tree) := do
  if ← Parser.acceptMark "=" then some <$> g.expression else return none

/-- Reads one more parameter or separator. -/
def signatureItem (g : Grammar) (annotated : Bool) (known : Signature) : Parser Signature := do
  if ← Parser.acceptMark "/" then
    if known.starred || !known.positional.isEmpty || known.plain.isEmpty then failure
    return { known with positional := known.plain, plain := [] }
  else if ← Parser.acceptMark "**" then
    return { known with namedVariadic := [← g.parameter annotated false] }
  else if ← Parser.acceptMark "*" then
    if known.starred then failure
    if ← Parser.atMark "," then
      match ← Parser.peekSecond with
      | .name _ => return { known with starred := true }
      | _ => failure
    else
      return { known with starred := true, variadic := [← g.parameter annotated true] }
  else
    let param ← g.parameter annotated false
    let default ← g.parameterDefault
    if known.starred then
      return { known with
        named := known.named ++ [param]
        namedDefaults := known.namedDefaults ++ default.toList }
    else
      if default.isNone && !known.defaults.isEmpty then failure
      return { known with
        plain := known.plain ++ [param]
        defaults := known.defaults ++ default.toList }

/-- Reads parameters up to the mark `close`, which is not taken. -/
def signatureFrom (g : Grammar) (annotated : Bool) (close : String) (known : Signature) :
    Nat → Parser Signature
  | 0 => failure
  | bound + 1 => do
    if ← Parser.atMark close then return known
    if !known.namedVariadic.isEmpty then failure
    let known ← g.signatureItem annotated known
    if ← Parser.acceptMark "," then g.signatureFrom annotated close known bound
    else if ← Parser.atMark close then return known
    else failure

/-- The parameters up to the mark `close`. -/
def signature (g : Grammar) (annotated : Bool) (close : String) : Parser Signature :=
  g.signatureFrom annotated close {} (g.bound + 1)

end Grammar

end CodeMap.Source
