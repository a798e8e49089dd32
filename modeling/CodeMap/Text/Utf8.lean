/-
Reading UTF-8 with an exact account of what is wrong.

`decode` gives the characters of a byte string or the first fault: where it starts, how many bytes
belong to it and why they are refused. A sequence is refused at the first byte that no valid
sequence has in that place, so overlong forms, surrogates and code points above the last one are
refused at their second byte.
-/

namespace CodeMap.Text.Utf8

/-- Why bytes are refused. -/
inductive Reason where
  | invalidStart
  | invalidContinuation
  | unexpectedEnd
deriving DecidableEq, Repr

def Reason.message : Reason → String
  | .invalidStart => "invalid start byte"
  | .invalidContinuation => "invalid continuation byte"
  | .unexpectedEnd => "unexpected end of data"

/-- A refused sequence: its first byte, the place of that byte, the number of bytes in it. -/
structure Fault where
  first : UInt8
  position : Nat
  length : Nat
  reason : Reason
deriving DecidableEq, Repr

/-- Two lower case hexadecimal digits. -/
def byteHex (b : UInt8) : String :=
  let digits := Nat.toDigits 16 b.toNat
  String.ofList (List.replicate (2 - digits.length) '0' ++ digits)

def Fault.message (fault : Fault) : String :=
  if fault.length = 1 then
    "'utf-8' codec can't decode byte 0x" ++ byteHex fault.first ++ " in position " ++
      toString fault.position ++ ": " ++ fault.reason.message
  else
    "'utf-8' codec can't decode bytes in position " ++ toString fault.position ++ "-" ++
      toString (fault.position + fault.length - 1) ++ ": " ++ fault.reason.message

/-- A continuation byte. -/
def isContinuation (b : UInt8) : Bool :=
  0x80 ≤ b && b < 0xC0

/-- The second byte fits the first one: it continues, and the sequence is neither overlong nor a
surrogate nor beyond the last code point. -/
def secondFits (first second : UInt8) : Bool :=
  isContinuation second &&
    (if first = 0xE0 then 0xA0 ≤ second
     else if first = 0xED then second < 0xA0
     else if first = 0xF0 then 0x90 ≤ second
     else if first = 0xF4 then second < 0x90
     else true)

/-- The number of bytes of the sequence that `first` opens, if it opens one. -/
def sequenceLength? (first : UInt8) : Option Nat :=
  if first < 0x80 then some 1
  else if first < 0xC2 then none
  else if first < 0xE0 then some 2
  else if first < 0xF0 then some 3
  else if first < 0xF5 then some 4
  else none

/-- The value of the payload bits of a whole sequence. -/
def sequenceValue (first : UInt8) (rest : List UInt8) : Nat :=
  let head :=
    if rest.isEmpty then first.toNat
    else if first < 0xE0 then first.toNat % 32
    else if first < 0xF0 then first.toNat % 16
    else first.toNat % 8
  rest.foldl (fun value b => value * 64 + b.toNat % 64) head

/-- The number of leading bytes of `rest` that may follow `first`. -/
def fitting (first : UInt8) : List UInt8 → Nat
  | [] => 0
  | second :: rest =>
    if secondFits first second then 1 + (rest.takeWhile isContinuation).length else 0

/-- The first character of `bytes`, which stand at `position`, with the number of its bytes. -/
def decodeOne (position : Nat) (first : UInt8) (rest : List UInt8) : Except Fault (Char × Nat) :=
  match sequenceLength? first with
  | none => .error ⟨first, position, 1, .invalidStart⟩
  | some length =>
    let wanted := rest.take (length - 1)
    let good := fitting first wanted
    if length ≤ good + 1 then .ok (Char.ofNat (sequenceValue first wanted), length)
    else if good = wanted.length then .error ⟨first, position, good + 1, .unexpectedEnd⟩
    else .error ⟨first, position, good + 1, .invalidContinuation⟩

/-- The characters of `bytes`, which stand at `position`; `skip` bytes belong to a character that
has been read. -/
def decodeFrom (position skip : Nat) : List UInt8 → Except Fault (List Char)
  | [] => .ok []
  | b :: rest =>
    match skip with
    | skip + 1 => decodeFrom (position + 1) skip rest
    | 0 => do
      let (c, length) ← decodeOne position b rest
      let cs ← decodeFrom (position + 1) (length - 1) rest
      return c :: cs

/-- The characters of a byte string. -/
def decode (bytes : List UInt8) : Except Fault (List Char) :=
  decodeFrom 0 0 bytes

end CodeMap.Text.Utf8
