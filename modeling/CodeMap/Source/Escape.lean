/-
Escapes in quotations.

`text?` and `bytes?` read the body of a quotation. A backslash before a line end removes both. A
backslash before any character that starts no escape stands for itself.
-/

import CodeMap.Source.Numeral
import CodeMap.Text.CharacterName

namespace CodeMap.Source.Escape

/-- The character of an escape of one letter. -/
def single? : Char → Option Char
  | '\\' => some '\\'
  | '\'' => some '\''
  | '"' => some '"'
  | 'a' => some '\x07'
  | 'b' => some '\x08'
  | 'f' => some '\x0c'
  | 'n' => some '\n'
  | 'r' => some '\r'
  | 't' => some '\t'
  | 'v' => some '\x0b'
  | _ => none

/-- The characters for a code point. A surrogate is no character and keeps its escape. -/
def ofCodePoint? (n : Nat) : Option (List Char) :=
  if 0xD800 ≤ n && n < 0xE000 then some (Text.codePointEscape n)
  else if n ≤ 0x10FFFF then some [Char.ofNat n]
  else none

/-- The value of the first `count` characters, all of them hexadecimal digits. -/
def hexValue? (count : Nat) (cs : List Char) : Option Nat :=
  let digits := cs.take count
  if digits.length = count && digits.all Numeral.isHexDigit then
    some (Numeral.valueOf 16 digits)
  else none

/-- The number of octal digits at the start of `cs`, three at most. -/
def octalCount (cs : List Char) : Nat :=
  ((cs.take 3).takeWhile Numeral.isOctalDigit).length

/-- The escape whose letter is `c` and that goes on with `rest`: its characters and how many of
`rest` it takes. -/
def read (c : Char) (rest : List Char) : Option (List Char × Nat) :=
  match single? c with
  | some d => some ([d], 0)
  | none =>
    if c = '\n' then some ([], 0)
    else if Numeral.isOctalDigit c then
      let count := octalCount (c :: rest)
      some ([Char.ofNat (Numeral.valueOf 8 ((c :: rest).take count))], count - 1)
    else if c = 'x' then hex 2
    else if c = 'u' then hex 4
    else if c = 'U' then hex 8
    else if c = 'N' then named
    else some (['\\', c], 0)
where
  hex (count : Nat) : Option (List Char × Nat) := do
    let found ← ofCodePoint? (← hexValue? count rest)
    return (found, count)
  named : Option (List Char × Nat) :=
    match rest with
    | '\x7b' :: rest => do
      let name := rest.takeWhile (· ≠ '\x7d')
      if name.length = rest.length then none
      else return ([← Text.CharacterName.lookup? (String.ofList name)], name.length + 2)
    | _ => none

/-- Reads the escapes of a text, `skip` characters belonging to an escape that has been read. -/
def textFrom (skip : Nat) : List Char → Option (List Char)
  | [] => some []
  | c :: rest =>
    match skip with
    | skip + 1 => textFrom skip rest
    | 0 =>
      match c, rest with
      | '\\', d :: more => do
        let (found, taken) ← read d more
        let later ← textFrom (taken + 1) (d :: more)
        return found ++ later
      | c, rest => (textFrom 0 rest).map (c :: ·)

/-- The text of a body. -/
def text? (raw : Bool) (body : List Char) : Option (List Char) :=
  if raw then some body else textFrom 0 body

/-- The escape of a byte. -/
def readByte (c : Char) (rest : List Char) : Option (List Nat × Nat) :=
  match single? c with
  | some d => some ([d.toNat], 0)
  | none =>
    if c = '\n' then some ([], 0)
    else if Numeral.isOctalDigit c then
      let count := octalCount (c :: rest)
      some ([Numeral.valueOf 8 ((c :: rest).take count) % 256], count - 1)
    else if c = 'x' then do
      return ([← hexValue? 2 rest], 2)
    else some (['\\'.toNat, c.toNat], 0)

/-- Reads the escapes of bytes, `skip` characters belonging to an escape that has been read. -/
def bytesFrom (skip : Nat) : List Char → Option (List Nat)
  | [] => some []
  | c :: rest =>
    match skip with
    | skip + 1 => bytesFrom skip rest
    | 0 =>
      match c, rest with
      | '\\', d :: more => do
        let (found, taken) ← readByte d more
        let later ← bytesFrom (taken + 1) (d :: more)
        return found ++ later
      | c, rest => (bytesFrom 0 rest).map (c.toNat :: ·)

/-- The bytes of a body, which holds characters of one byte only. -/
def bytes? (raw : Bool) (body : List Char) : Option (List UInt8) :=
  if body.any fun c => 128 ≤ c.toNat then none
  else
    (if raw then some (body.map Char.toNat) else bytesFrom 0 body).map (·.map Nat.toUInt8)

end CodeMap.Source.Escape
