/-
Line ends. A text file may end its lines with a line feed, a carriage return or both;
`unifyLineEnds` leaves line feeds only. `lines` cuts a text at its line feeds.
-/

namespace CodeMap.Text

/-- Every line end becomes one line feed. -/
def unifyLineEnds : List Char → List Char
  | [] => []
  | '\r' :: '\n' :: rest => '\n' :: unifyLineEnds rest
  | c :: rest => (if c = '\r' then '\n' else c) :: unifyLineEnds rest

/-- The parts of `cs` between the characters `mark`, the empty ones included. -/
def splitAt (mark : Char) : List Char → List (List Char)
  | [] => [[]]
  | c :: rest =>
    match splitAt mark rest with
    | [] => [[c]]
    | part :: parts => if c = mark then [] :: part :: parts else (c :: part) :: parts

/-- The lines of a text. A line feed ends a line, so none follows the last one. -/
def lines (cs : List Char) : List (List Char) :=
  match cs.getLast? with
  | some '\n' => (splitAt '\n' cs).dropLast
  | some _ => splitAt '\n' cs
  | none => []

end CodeMap.Text
