/-
Numerals of a source text: whole numbers in four bases, decimal fractions with an exponent, and
imaginary numbers. Low lines may stand between digits.

A numeral must not run into a word, except that some reserved words may follow it directly.
-/

import CodeMap.Source.Token

namespace CodeMap.Source.Numeral

/-- The character can belong to a word. -/
def isWordChar (c : Char) : Bool :=
  c.isAlphanum || c = '_' || 128 ≤ c.toNat

/-- The character can belong to a numeral or to a word that follows it. -/
def isNumeralChar (c : Char) : Bool :=
  isWordChar c || c = '.' || c = '+' || c = '-'

/-- The text opens with `word`, and the word ends there. -/
def opensWithWord (word cs : List Char) : Bool :=
  word.isPrefixOf cs && !((cs.drop word.length).head?.any isWordChar)

/-- A numeral may end before `cs`. -/
def mayEndBefore : List Char → Bool
  | [] => true
  | c :: rest =>
    !isWordChar c ||
      ["and", "else", "for", "or", "not"].any (fun word => opensWithWord word.toList (c :: rest)) ||
      (c = 'i' && rest.head?.any fun d => d = 'f' || d = 'n' || d = 's')

/-- The digits at the start of `cs`, single low lines between them dropped, and the rest. -/
def digitRun (isDigit : Char → Bool) : List Char → Option (List Char × List Char)
  | [] => some ([], [])
  | '_' :: c :: rest =>
    if isDigit c then (digitRun isDigit rest).map fun run => (c :: run.1, run.2) else none
  | c :: rest =>
    if c = '_' then none
    else if isDigit c then (digitRun isDigit rest).map fun run => (c :: run.1, run.2)
    else some ([], c :: rest)

def digitValue (c : Char) : Nat :=
  if c.isDigit then c.toNat - '0'.toNat else c.toLower.toNat - 'a'.toNat + 10

def valueOf (base : Nat) (digits : List Char) : Nat :=
  digits.foldl (fun value c => value * base + digitValue c) 0

def isHexDigit (c : Char) : Bool :=
  c.isDigit || ('a' ≤ c.toLower && c.toLower ≤ 'f')

def isOctalDigit (c : Char) : Bool :=
  '0' ≤ c && c < '8'

def isBinaryDigit (c : Char) : Bool :=
  c = '0' || c = '1'

/-- A whole number after the mark of its base. -/
def based (base : Nat) (isDigit : Char → Bool) (cs : List Char) : Option (Literal × List Char) := do
  let (digits, rest) ← digitRun isDigit cs
  if digits.isEmpty || !mayEndBefore rest then none
  else return (.integer (valueOf base digits), rest)

/-- A decimal numeral without base: its digits before and after the point and its exponent. -/
structure Parts where
  whole : List Char
  fraction : List Char := []
  exponent : Int := 0
  /-- A point or an exponent has been read. -/
  isFloat : Bool := false

def Parts.value (parts : Parts) : Binary64 :=
  Binary64.ofDecimal (valueOf 10 (parts.whole ++ parts.fraction))
    (parts.exponent - parts.fraction.length)

/-- The end of a numeral: an imaginary mark or nothing. A whole number other than zero does not
start with a zero, and has a bounded number of digits. -/
def finish (parts : Parts) (rest : List Char) : Option (Literal × List Char) :=
  match rest with
  | c :: after =>
    if c = 'j' || c = 'J' then
      if mayEndBefore after then some (.imaginary parts.value, after) else none
    else plain
  | [] => plain
where
  plain : Option (Literal × List Char) :=
    if !mayEndBefore rest then none
    else if parts.isFloat then some (.float parts.value, rest)
    else if parts.whole.all (· = '0') then some (.integer 0, rest)
    else if parts.whole.head? = some '0' || digitLimit < parts.whole.length then none
    else some (.integer (valueOf 10 parts.whole), rest)

/-- An exponent if there is one. An `e` that no digit follows belongs to the next word. -/
def withExponent (parts : Parts) (cs : List Char) : Option (Literal × List Char) :=
  match cs with
  | e :: sign :: rest =>
    if !(e = 'e' || e = 'E') then finish parts cs
    else if sign.isDigit then read 1 (sign :: rest)
    else if sign = '+' || sign = '-' then
      if rest.head?.any Char.isDigit then read (if sign = '-' then -1 else 1) rest else none
    else finish parts cs
  | _ => finish parts cs
where
  read (sign : Int) (digits : List Char) : Option (Literal × List Char) := do
    let (digits, rest) ← digitRun Char.isDigit digits
    finish { parts with exponent := sign * valueOf 10 digits, isFloat := true } rest

/-- The digits after a point, if any, and what follows them. -/
def withFraction (whole cs : List Char) : Option (Literal × List Char) := do
  let (fraction, rest) ←
    if cs.head?.any Char.isDigit then digitRun Char.isDigit cs else some ([], cs)
  withExponent { whole := whole, fraction := fraction, isFloat := true } rest

/-- A numeral of base ten. -/
def decimal (cs : List Char) : Option (Literal × List Char) := do
  let (whole, rest) ← digitRun Char.isDigit cs
  match rest with
  | '.' :: rest => withFraction whole rest
  | rest => withExponent { whole := whole } rest

/-- The numeral at the start of `cs`, which starts with a digit or with a point and a digit. -/
def read : List Char → Option (Literal × List Char)
  | '.' :: rest => withFraction [] rest
  | '0' :: c :: rest =>
    if c = 'x' || c = 'X' then based 16 isHexDigit rest
    else if c = 'o' || c = 'O' then based 8 isOctalDigit rest
    else if c = 'b' || c = 'B' then based 2 isBinaryDigit rest
    else decimal ('0' :: c :: rest)
  | cs => decimal cs

end CodeMap.Source.Numeral
