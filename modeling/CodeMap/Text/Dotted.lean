/-
Dotted names: texts that full stops divide into parts.
-/

import CodeMap.Text.Lines

namespace CodeMap.Text.Dotted

/-- The text holds a full stop. -/
def isDotted (name : String) : Bool :=
  name.toList.contains '.'

/-- The parts of a name, at least one. -/
def parts (name : String) : List String :=
  (splitAt '.' name.toList).map String.ofList

/-- The part before the first full stop. -/
def first (name : String) : String :=
  String.ofList (name.toList.takeWhile (· ≠ '.'))

/-- What follows the first full stop. -/
def afterFirst (name : String) : String :=
  String.ofList ((name.toList.dropWhile (· ≠ '.')).drop 1)

/-- The part after the last full stop. -/
def last (name : String) : String :=
  String.ofList (name.toList.reverse.takeWhile (· ≠ '.')).reverse

end CodeMap.Text.Dotted
