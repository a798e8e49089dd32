/-
Names of characters that follow a rule: ideographs are named by their code points, syllables of
Hangul by the letters they are made of, and variation selectors by their numbers.
-/

import CodeMap.Text.CharRange
import CodeMap.Text.Quoted

namespace CodeMap.Text.CharacterName

/-! ### Ideographs -/

/-- The unified ideographs. -/
def unifiedIdeographs : CharRanges :=
  [(0x3400, 0x4DBF), (0x4E00, 0x9FFF), (0x20000, 0x2A6DF), (0x2A700, 0x2B738), (0x2B740, 0x2B81D),
    (0x2B820, 0x2CEA1), (0x2CEB0, 0x2EBE0), (0x30000, 0x3134A)]

/-- The compatibility ideographs. -/
def compatibilityIdeographs : CharRanges :=
  [(0xF900, 0xFA6D), (0xFA70, 0xFAD9), (0x2F800, 0x2FA1D)]

/-- The value of an upper case hexadecimal digit. -/
def hexDigit? (c : Char) : Option Nat :=
  if '0' ≤ c && c ≤ '9' then some (c.toNat - '0'.toNat)
  else if 'A' ≤ c && c ≤ 'F' then some (c.toNat - 'A'.toNat + 10)
  else none

/-- The value of four or five upper case hexadecimal digits. -/
def codePoint? (digits : List Char) : Option Nat :=
  if digits.length = 4 || digits.length = 5 then
    digits.foldlM (fun value c => (hexDigit? c).map (value * 16 + ·)) 0
  else none

/-- What stands behind a start of a name. -/
def after? (start : String) (name : List Char) : Option (List Char) :=
  if start.toList.isPrefixOf name then some (name.drop start.length) else none

/-- The character with the code point `value`, if the ranges hold it. -/
def among? (ranges : CharRanges) (value : Nat) : Option Char :=
  some (Char.ofNat value) |>.filter fun c => c.toNat = value && ranges.holds c

/-- A unified ideograph by its name, which has capital letters only. -/
def unifiedIdeograph? (name : List Char) : Option Char := do
  among? unifiedIdeographs (← codePoint? (← after? "CJK UNIFIED IDEOGRAPH-" name))

/-- A compatibility ideograph by its name in capital letters. -/
def compatibilityIdeograph? (name : List Char) : Option Char := do
  let digits ← after? "CJK COMPATIBILITY IDEOGRAPH-" name
  if digits.head? = some '0' then none
  else among? compatibilityIdeographs (← codePoint? digits)

/-! ### Syllables -/

def firstConsonants : List String :=
  ["G", "GG", "N", "D", "DD", "R", "M", "B", "BB", "S", "SS", "", "J", "JJ", "C", "K", "T", "P",
    "H"]

def vowels : List String :=
  ["A", "AE", "YA", "YAE", "EO", "E", "YEO", "YE", "O", "WA", "WAE", "OE", "YO", "U", "WEO", "WE",
    "WI", "YU", "EU", "YI", "I"]

def lastConsonants : List String :=
  ["", "G", "GG", "GS", "N", "NJ", "NH", "D", "L", "LG", "LM", "LB", "LS", "LT", "LP", "LH", "M",
    "B", "BS", "S", "SS", "NG", "J", "C", "K", "T", "P", "H"]

/-- The letter can belong to a vowel. -/
def isVowelLetter (c : Char) : Bool :=
  "AEIOUWY".toList.contains c

/-- A syllable by its name, which has capital letters only. -/
def syllable? (name : List Char) : Option Char := do
  let letters ← after? "HANGUL SYLLABLE " name
  let first := letters.takeWhile (!isVowelLetter ·)
  let rest := letters.dropWhile (!isVowelLetter ·)
  let first ← firstConsonants.idxOf? (String.ofList first)
  let vowel ← vowels.idxOf? (String.ofList (rest.takeWhile isVowelLetter))
  let last ← lastConsonants.idxOf? (String.ofList (rest.dropWhile isVowelLetter))
  return Char.ofNat
    (0xAC00 + (first * vowels.length + vowel) * lastConsonants.length + last)

/-! ### Selectors -/

/-- A variation selector by its abbreviation. -/
def selector? (name : List Char) : Option Char := do
  let digits ← after? "VS" name
  let number ← digits.foldlM (fun value c =>
    if c.isDigit then some (value * 10 + (c.toNat - '0'.toNat)) else none) 0
  if digits.isEmpty || digits.head? = some '0' || 256 < number then none
  else if number ≤ 16 then return Char.ofNat (0xFE00 + number - 1)
  else return Char.ofNat (0xE0100 + number - 17)

end CodeMap.Text.CharacterName
