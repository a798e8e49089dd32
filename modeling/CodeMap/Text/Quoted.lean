/-
Quoted texts: how a text is shown inside a message.

A text stands between single quotes, or between double quotes if it holds a single quote and no
double one. The backslash, the quote in use, tab, line feed and carriage return have short
escapes, every other character that is not shown has the escape of its code point with two, four
or eight hexadecimal digits.
-/

import CodeMap.Text.Printable

namespace CodeMap.Text

/-- The hexadecimal digits of `n`, lower case, with leading zeros up to `width`. -/
def hexDigits (width n : Nat) : List Char :=
  let digits := Nat.toDigits 16 n
  List.replicate (width - digits.length) '0' ++ digits

/-- The escape of a code point: `\x` below 256, `\u` below 65536, `\U` above. -/
def codePointEscape (n : Nat) : List Char :=
  if n < 0x100 then '\\' :: 'x' :: hexDigits 2 n
  else if n < 0x10000 then '\\' :: 'u' :: hexDigits 4 n
  else '\\' :: 'U' :: hexDigits 8 n

/-- One character between the quotes `quote`; `shown` tells what stands for itself. -/
def quotedChar (shown : Char → Bool) (quote c : Char) : List Char :=
  if c = quote || c = '\\' then ['\\', c]
  else if c = '\t' then ['\\', 't']
  else if c = '\n' then ['\\', 'n']
  else if c = '\r' then ['\\', 'r']
  else if shown c then [c]
  else codePointEscape c.toNat

/-- The quote for a text: single, unless only a double one avoids an escape. -/
def quoteFor (cs : List Char) : Char :=
  if cs.contains '\'' && !cs.contains '"' then '"' else '\''

/-- A text between its quotes. -/
def quotedWith (shown : Char → Bool) (cs : List Char) : List Char :=
  let quote := quoteFor cs
  quote :: (cs.flatMap (quotedChar shown quote) ++ [quote])

/-- A text as messages show it. -/
def quoted (text : String) : String :=
  String.ofList (quotedWith isPrintable text.toList)

/-- A list of texts as messages show it. -/
def quotedList (texts : List String) : String :=
  "[" ++ ", ".intercalate (texts.map quoted) ++ "]"

/-- A set of texts, listed in ascending order, as messages show it. -/
def quotedSet (texts : List String) : String :=
  if texts.isEmpty then "set()"
  else "\x7b" ++ ", ".intercalate (texts.map quoted) ++ "\x7d"

end CodeMap.Text
