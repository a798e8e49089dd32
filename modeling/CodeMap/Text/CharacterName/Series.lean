/-
Series of names of characters with successive code points.

A series gives the code point of its first character and the names of all in lines, with commas
between them. A name starts with a digit, which tells how many words it shares with the start of
the name before it; these are left out.
-/

import CodeMap.Text.Lines

namespace CodeMap.Text.CharacterName

structure Series where
  start : Nat
  lines : List String
deriving DecidableEq, Repr

/-- The words of a name. -/
abbrev Words := List (List Char)

/-- The words of an entry of a series, given the words of the name before it. -/
def entryWords (before : Words) : List Char → Words
  | shared :: rest => before.take (shared.toNat - '0'.toNat) ++ splitAt ' ' rest
  | [] => []

/-- The place of a name among entries, given the words of the name before them. -/
def entryIndex? (name : Words) (before : Words) : List (List Char) → Option Nat
  | [] => none
  | entry :: rest =>
    let words := entryWords before entry
    if words = name then some 0 else (entryIndex? name words rest).map (· + 1)

/-- The code point of a name in a series. -/
def Series.find? (series : Series) (name : Words) : Option Nat :=
  let entries := series.lines.flatMap fun line => splitAt ',' line.toList
  (entryIndex? name [] entries).map (series.start + ·)

end CodeMap.Text.CharacterName
