/-
Reading UTF-8 from a file in pieces.

A reader that takes a file piece by piece has the characters before a fault in hand when it meets
the fault, and it counts places from the character in which the piece with the fault starts. A
sequence that the end of the file cuts short comes to light after the last piece, so its place is
zero. A surrogate of which a piece holds the first two bytes only comes to light after that piece.
-/

import CodeMap.Text.Utf8

namespace CodeMap.Text.Utf8

/-- What has been read when the file ends or a fault is met. -/
structure Reading where
  chars : List Char
  fault : Option Fault
deriving DecidableEq, Repr

/-- The sequence is a surrogate of which two bytes end at `place`, with a piece or with the file. -/
def Fault.isCutSurrogate (size : Nat) (bytes : List UInt8) (fault : Fault) (place : Nat) : Bool :=
  fault.first = 0xED && place = fault.position + 2 &&
    (bytes[fault.position + 1]?.any isContinuation) &&
    (place % size = 0 || place = bytes.length)

/-- The place in front of which the last piece before the fault ends. -/
def Fault.pieceStart (size : Nat) (bytes : List UInt8) (fault : Fault) : Nat :=
  match fault.reason with
  | .invalidStart => fault.position / size * size
  | .invalidContinuation =>
    let place := fault.position + fault.length
    if fault.isCutSurrogate size bytes (place + 1) then place + 1 else place / size * size
  | .unexpectedEnd => fault.position + fault.length

/-- How many bytes in front of `place` belong to the character that goes on there. -/
def openBytes (bytes : List UInt8) (place : Nat) : Nat :=
  match bytes[place]? with
  | some b =>
    if isContinuation b then 1 + ((bytes.take place).reverse.takeWhile isContinuation).length
    else 0
  | none => 0

/-- Reads a file in pieces of `size` bytes. -/
def readPieces (size : Nat) (bytes : List UInt8) : Reading :=
  match decode bytes with
  | .ok chars => ⟨chars, none⟩
  | .error fault =>
    let place := fault.pieceStart size bytes
    let start := min fault.position (place - openBytes bytes place)
    { chars := (decode (bytes.take start)).toOption.getD []
      fault := some { fault with position := fault.position - start } }

end CodeMap.Text.Utf8
