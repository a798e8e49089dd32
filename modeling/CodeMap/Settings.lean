/-
Settings: a text file of lines `key = value`.

Blanks around a line, a key and a value do not count. Empty lines and lines that start with a
number sign are passed over. A key given again keeps its place and takes the last value. A line
that is neither passed over nor holds an equals sign makes the whole file invalid.

A file is read in pieces, and its lines are entered as they come in. So a line without an equals
sign is reported before bytes that are no text in a later piece.
-/

import CodeMap.Table
import CodeMap.Text.Blank
import CodeMap.Text.Lines
import CodeMap.Text.Pieces

namespace CodeMap.Settings

/-- Why a settings file cannot be read. -/
inductive Fault where
  | encoding (fault : Text.Utf8.Fault)
  | noEqualsSign
deriving DecidableEq, Repr

def Fault.message : Fault → String
  | .encoding fault => fault.message
  | .noEqualsSign => "not enough values to unpack (expected 2, got 1)"

/-- The line says nothing: it is blank or a comment. -/
def isSilent (line : List Char) : Bool :=
  match Text.trim line with
  | [] => true
  | c :: _ => c = '#'

/-- The key and the value of a line, cut at its first equals sign. -/
def pair? (line : List Char) : Option (String × String) :=
  let text := Text.trim line
  if text.contains '=' then
    some (String.ofList (Text.trim (text.takeWhile (· ≠ '='))),
      String.ofList (Text.trim ((text.dropWhile (· ≠ '=')).drop 1)))
  else none

/-- Enters the pairs of the lines one after the other. -/
def enter (known : Table String) : List (List Char) → Except Fault (Table String)
  | [] => .ok known
  | line :: rest =>
    if isSilent line then enter known rest
    else
      match pair? line with
      | some (key, value) => enter (known.insert key value) rest
      | none => .error .noEqualsSign

/-- The settings of a text. -/
def ofChars (cs : List Char) : Except Fault (Table String) :=
  enter ∅ (Text.lines cs)

/-- The size of the pieces in which a file is read. -/
def pieceSize : Nat := 8192

/-- The lines that are known to be whole, whatever follows. A line end may still go on after a
carriage return. -/
def wholeLines (cs : List Char) : List (List Char) :=
  let certain := if cs.getLast? = some '\r' then cs.dropLast else cs
  (Text.splitAt '\n' (Text.unifyLineEnds certain)).dropLast

/-- The settings of a file. -/
def ofBytes (bytes : List UInt8) : Except Fault (Table String) :=
  match Text.Utf8.readPieces pieceSize bytes with
  | ⟨cs, none⟩ => ofChars (Text.unifyLineEnds cs)
  | ⟨cs, some fault⟩ => do
    let _ ← enter ∅ (wholeLines cs)
    throw (.encoding fault)

end CodeMap.Settings
