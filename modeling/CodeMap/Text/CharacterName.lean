/-
Characters by their names in Unicode.

Small letters count as capital ones, except in the names of unified ideographs and of syllables of
Hangul. The names are listed in series, save those that follow a rule.
-/

import CodeMap.Text.CharacterName.Alias
import CodeMap.Text.CharacterName.Alphabets
import CodeMap.Text.CharacterName.AncientScripts
import CodeMap.Text.CharacterName.Ideograph
import CodeMap.Text.CharacterName.Pictographs
import CodeMap.Text.CharacterName.Syllabaries
import CodeMap.Text.CharacterName.Symbols

namespace CodeMap.Text.CharacterName

/-- All series of names. -/
def allSeries : List Series :=
  alphabets ++ symbols ++ syllabaries ++ ancientScripts ++ pictographs

/-- A character by its name in a series. -/
def listed? (name : List Char) : Option Char :=
  let words := splitAt ' ' name
  (allSeries.findSome? (·.find? words)).map Char.ofNat

/-- The character with the given name. -/
def lookup? (name : String) : Option Char :=
  let exact := name.toList
  let upper := exact.map Char.toUpper
  unifiedIdeograph? exact <|> syllable? exact <|> compatibilityIdeograph? upper <|>
    selector? upper <|> (aliases.lookup (String.ofList upper)).map Char.ofNat <|> listed? upper

end CodeMap.Text.CharacterName
