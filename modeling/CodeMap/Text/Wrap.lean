/-
Wrapping: a text is cut into words and runs of spaces, and as many of these pieces as fit make a
line.

Spaces that a line would start with are dropped, except on the first line, and so is the last
piece of a line if it holds nothing else. A piece that is wider than a line is cut, and its first
part fills the line that is being made. That part is empty if the line is full already, and then
it is the last piece of the line.
-/

namespace CodeMap.Text

/-- A space. -/
def isSpace (c : Char) : Bool := c = ' '

/-- The words of a text and the runs of spaces between them. -/
def pieces : List Char → List (List Char)
  | [] => []
  | c :: rest =>
    match pieces rest with
    | (d :: piece) :: more =>
      if isSpace c = isSpace d then (c :: d :: piece) :: more else [c] :: (d :: piece) :: more
    | others => [c] :: others

/-- The pieces that fit into `room`, and the others. -/
def fitting (room : Nat) : List (List Char) → List (List Char) × List (List Char)
  | [] => ([], [])
  | piece :: rest =>
    if piece.length ≤ room then
      let (taken, left) := fitting (room - piece.length) rest
      (piece :: taken, left)
    else ([], piece :: rest)

/-- Drops the spaces that a line would start with. -/
def dropLeading : List (List Char) → List (List Char)
  | piece :: rest => if piece.all isSpace then rest else piece :: rest
  | [] => []

/-- Drops the last piece of a line if it holds nothing else. -/
def dropTrailing (line : List (List Char)) : List (List Char) :=
  match line.getLast? with
  | some piece => if piece.all isSpace then line.dropLast else line
  | none => line

/-- The pieces of the next line and those that are left. -/
def nextLine (width : Nat) (todo : List (List Char)) : List (List Char) × List (List Char) :=
  let (taken, left) := fitting width todo
  match left with
  | piece :: rest =>
    if width < piece.length then
      let room := if width = 0 then 1 else width - taken.flatten.length
      (taken ++ [piece.take room], piece.drop room :: rest)
    else (taken, left)
  | [] => (taken, left)

/-- The lines of the pieces `todo`, at most `bound` of them; `started` if there are lines before
them. -/
def wrapPieces (width : Nat) : Nat → Bool → List (List Char) → List (List Char)
  | 0, _, _ => []
  | _ + 1, _, [] => []
  | bound + 1, started, todo =>
    let (line, left) := nextLine width (if started then dropLeading todo else todo)
    match dropTrailing line with
    | [] => wrapPieces width bound started left
    | line => line.flatten :: wrapPieces width bound true left

/-- The lines of a text. Every line takes a character or drops a piece. -/
def wrap (width : Nat) (cs : List Char) : List (List Char) :=
  wrapPieces width (2 * cs.length + 1) false (pieces cs)

/-- The lines of a text as one text. -/
def filled (width : Nat) (text : String) : String :=
  "\n".intercalate ((wrap width text.toList).map String.ofList)

end CodeMap.Text
