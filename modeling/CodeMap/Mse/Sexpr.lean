/-
Nested lists of words, the shape of a model file.

`Sexpr.read` takes one expression off a token list, `Sexpr.readAll` takes all. Reading fails at a
closing parenthesis with nothing open and at the end of the tokens with something open. A limit on
the depth of recursion is left out: lists are read however deep they nest.
`Sexpr.tokens` writes an expression back, and `Sexpr.shown` is how messages show it.
-/

import CodeMap.Mse.Token
import CodeMap.Text.Quoted

namespace CodeMap.Mse

/-- A word or a list of expressions. -/
inductive Sexpr where
  | atom (text : String)
  | list (items : List Sexpr)
deriving Repr, Inhabited

/-- Why a token list is no expression. -/
inductive SexprFault where
  | unexpectedEnd
  | unexpectedClosing
deriving DecidableEq, Repr

def SexprFault.message : SexprFault → String
  | .unexpectedEnd => "Unexpected EOF while reading"
  | .unexpectedClosing => "Unexpected )"

namespace Sexpr

mutual

/-- The tokens of an expression. -/
def tokens : Sexpr → List Token
  | .atom text => [.atom text]
  | .list items => .opening :: (tokensOfList items ++ [.closing])

/-- The tokens of expressions one after the other. -/
def tokensOfList : List Sexpr → List Token
  | [] => []
  | item :: items => item.tokens ++ tokensOfList items

end

mutual

/-- An expression as messages show it. -/
def shown : Sexpr → String
  | .atom text => Text.quoted text
  | .list items => "[" ++ ", ".intercalate (shownEach items) ++ "]"

/-- Each expression as messages show it. -/
def shownEach : List Sexpr → List String
  | [] => []
  | item :: items => item.shown :: shownEach items

end

/-- Reads on with the lists in `stack` open, the innermost first, each with its last item first.
The second component is what is left of the tokens. -/
def readWithin : List (List Sexpr) → List Token → Except SexprFault Sexpr × List Token
  | _, [] => (.error .unexpectedEnd, [])
  | stack, .opening :: rest => readWithin ([] :: stack) rest
  | [], .closing :: rest => (.error .unexpectedClosing, rest)
  | [], .atom text :: rest => (.ok (.atom text), rest)
  | [items], .closing :: rest => (.ok (.list items.reverse), rest)
  | items :: outer :: stack, .closing :: rest =>
    readWithin ((.list items.reverse :: outer) :: stack) rest
  | items :: stack, .atom text :: rest => readWithin ((.atom text :: items) :: stack) rest

/-- Takes one expression off the tokens. -/
def read (tokens : List Token) : Except SexprFault Sexpr × List Token :=
  readWithin [] tokens

theorem readWithin_length_lt (stack : List (List Sexpr)) (token : Token) (rest : List Token) :
    (readWithin stack (token :: rest)).2.length < (token :: rest).length := by
  induction rest generalizing stack token with
  | nil =>
    match stack, token with
    | stack, .opening => simp [readWithin]
    | [], .closing => simp [readWithin]
    | [], .atom _ => simp [readWithin]
    | [_], .closing => simp [readWithin]
    | _ :: _ :: _, .closing => simp [readWithin]
    | _ :: _, .atom _ => simp [readWithin]
  | cons next rest ih =>
    match stack, token with
    | stack, .opening => exact Nat.lt_succ_of_lt (ih ([] :: stack) next)
    | [], .closing => simp [readWithin]
    | [], .atom _ => simp [readWithin]
    | [_], .closing => simp [readWithin]
    | items :: outer :: stack, .closing =>
      exact Nat.lt_succ_of_lt (ih ((.list items.reverse :: outer) :: stack) next)
    | items :: stack, .atom text => exact Nat.lt_succ_of_lt (ih ((.atom text :: items) :: stack) next)

/-- All expressions of a token list. -/
def readAll : List Token → Except SexprFault (List Sexpr)
  | [] => .ok []
  | token :: rest =>
    have := readWithin_length_lt [] token rest
    match _read : readWithin [] (token :: rest) with
    | (.error fault, _) => .error fault
    | (.ok item, left) => do
      let items ← readAll left
      return item :: items
termination_by tokens => tokens.length
decreasing_by
  rw [_read] at this
  exact this

end Sexpr

/-- All expressions of a text. -/
def sexprs (text : String) : Except SexprFault (List Sexpr) :=
  Sexpr.readAll (tokens text)

end CodeMap.Mse
