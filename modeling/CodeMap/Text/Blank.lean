/-
Blanks: the white space of Unicode, the information separators among it, and the removal of
blanks from the ends of a text.
-/

import CodeMap.Text.CharRange

namespace CodeMap.Text

/-- The code points of white space: the controls from tab to carriage return, the information
separators, the space, the next-line control and the spaces and separators of other scripts. -/
def blankRanges : CharRanges :=
  [(0x09, 0x0D), (0x1C, 0x20), (0x85, 0x85), (0xA0, 0xA0), (0x1680, 0x1680), (0x2000, 0x200A),
    (0x2028, 0x2029), (0x202F, 0x202F), (0x205F, 0x205F), (0x3000, 0x3000)]

/-- White space. -/
def isBlank (c : Char) : Bool :=
  blankRanges.holds c

/-- Drops what satisfies `drop` from both ends. -/
def trimBy (drop : Char → Bool) (cs : List Char) : List Char :=
  ((cs.dropWhile drop).reverse.dropWhile drop).reverse

/-- Drops the blanks from both ends. -/
def trim (cs : List Char) : List Char :=
  trimBy isBlank cs

end CodeMap.Text
