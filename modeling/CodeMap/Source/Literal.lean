/-
Literal values of a source text and how messages show them.

A text is shown as it is; bytes are shown quoted; numbers are shown with the fewest digits that
identify them. A whole number of more than 4300 digits has no shown form.
-/

import CodeMap.Decimal.Shortest
import CodeMap.Text.Quoted

namespace CodeMap.Source

/-- The value of a literal. A surrogate in a text is kept as its escape. -/
inductive Literal where
  | none
  | true
  | false
  | ellipsis
  | integer (value : Nat)
  | float (value : Binary64)
  | imaginary (value : Binary64)
  | text (value : String)
  | bytes (value : List UInt8)
deriving DecidableEq, Repr

/-- The largest number of digits of a whole number that is shown. -/
def digitLimit : Nat := 4300

/-- A byte that stands for itself between quotes. -/
def isPlainByte (c : Char) : Bool :=
  ' ' ≤ c && c ≤ '~'

/-- The literal as messages show it, if it has a shown form. -/
def Literal.shown? : Literal → Option String
  | .none => some "None"
  | .true => some "True"
  | .false => some "False"
  | .ellipsis => some "Ellipsis"
  | .integer value => if value < Nat.pow 10 digitLimit then some (toString value) else Option.none
  | .float value => some (Decimal.render ".0" value)
  | .imaginary value => some (Decimal.render "" value ++ "j")
  | .text value => some value
  | .bytes value =>
    let chars := value.map fun b => Char.ofNat b.toNat
    some ("b" ++ String.ofList (Text.quotedWith isPlainByte chars))

end CodeMap.Source
