/-
Entries of a model file and the flat lines that describe them.

An entry is a list that starts with a kind. Objects (groupings, code, data) carry an identifier
and fields; relations carry fields that refer to objects. A flat line is the kind followed by the
fields in ascending order of their names, so that two entries with the same fields have the same
line whatever their order in the file. In the line of a relation each reference is replaced by
the line of the object it names.
-/

import CodeMap.Mse.Fault
import CodeMap.Table
import CodeMap.Text.Digit

namespace CodeMap.Mse

namespace Sexpr

/-- The text of a word that `operation` is about to read. -/
def word (operation : String) : Sexpr → Except Fault String
  | .atom text => .ok text
  | .list _ => .error (.noWord operation)

/-- The text of a word that serves as a name. -/
def name : Sexpr → Except Fault String
  | .atom text => .ok text
  | .list _ => .error .listAsName

/-- The expression is the given word. -/
def isAtom (text : String) : Sexpr → Bool
  | .atom word => word = text
  | .list _ => false

/-- The first item of a list; of a word, its first character. -/
def first : Sexpr → Except Fault Sexpr
  | .list (item :: _) => .ok item
  | .list [] => .error .emptyList
  | .atom text =>
    match text.toList with
    | c :: _ => .ok (.atom (String.singleton c))
    | [] => .error .emptyWord

/-- The items after the first. -/
def fields : Sexpr → List Sexpr
  | .list (_ :: items) => items
  | _ => []

/-- The value of a field: a word without the quotes around it. -/
def value (field : Sexpr) : Except Fault String := do
  let text ← field.word "strip"
  return String.ofList (Text.trimBy (· = '\'') text.toList)

end Sexpr

/-! ### Entries -/

/-- The kinds of objects. -/
def objectKinds : List String := ["SOMIX.Grouping", "SOMIX.Code", "SOMIX.Data"]

/-- The kinds of relations. -/
def relationKinds : List String := ["SOMIX.ParentChild", "SOMIX.Call", "SOMIX.Access"]

/-- The items of a list that are entries of a model. -/
def entriesAmong : List Sexpr → Except Fault (List Sexpr)
  | [] => .ok []
  | .list (kind :: fields) :: rest => do
    let text ← kind.word "startswith"
    let entries ← entriesAmong rest
    return if "SOMIX.".toList.isPrefixOf text.toList then .list (kind :: fields) :: entries
      else entries
  | _ :: rest => entriesAmong rest

/-- The entries of all lists at the top of a file. -/
def entries : List Sexpr → Except Fault (List Sexpr)
  | [] => .ok []
  | .list items :: rest => do
    let here ← entriesAmong items
    let later ← entries rest
    return here ++ later
  | .atom _ :: rest => entries rest

/-! ### Flat lines -/

/-- The fields in ascending order of their names. -/
def sortedFields (fields : Table String) : List (String × String) :=
  fields.entries.mergeSort fun a b => decide (a.1 ≤ b.1)

/-- A kind with its fields, in ascending order of their names. -/
def flatLine (kind : String) (fields : Table String) : String :=
  kind ++ "(" ++ ", ".intercalate ((sortedFields fields).map fun field => field.1 ++ ":" ++ field.2)
    ++ ")"

/-- Enters the fields of an object other than one named `id`. -/
def plainFields (known : Table String) : List Sexpr → Except Fault (Table String)
  | [] => .ok known
  | .list [key, value] :: rest => do
    if key.isAtom "id" then plainFields known rest
    else
      let value ← value.value
      let key ← key.name
      plainFields (known.insert key value) rest
  | _ :: rest => plainFields known rest

/-- The lines of the objects, identifiers included. -/
def objectLines : List Sexpr → Except Fault (List String)
  | [] => .ok []
  | entry :: rest => do
    let kind ← (← entry.first).name
    if kind ∈ objectKinds then
      let fields ← plainFields ∅ entry.fields
      let lines ← objectLines rest
      return flatLine kind fields :: lines
    else objectLines rest

/-- Enters the fields of an object apart from its identifier, which is the last one given. -/
def identifiedFields (id : Option String) (known : Table String) :
    List Sexpr → Except Fault (Option String × Table String)
  | [] => .ok (id, known)
  | .list [key, value] :: rest => do
    let value ← value.value
    if key.isAtom "id:" then identifiedFields (some value) known rest
    else
      let key ← key.name
      identifiedFields id (known.insert key value) rest
  | _ :: rest => identifiedFields id known rest

/-- Enters the line of each object under its identifier. -/
def objectsById (known : Table String) : List Sexpr → Except Fault (Table String)
  | [] => .ok known
  | entry :: rest => do
    let kind ← (← entry.first).name
    if kind ∈ objectKinds then
      match ← identifiedFields none ∅ entry.fields with
      | (none, _) => .error (.missingId entry)
      | (some id, fields) => objectsById (known.insert id (flatLine kind fields)) rest
    else objectsById known rest

/-! ### References -/

/-- What introduces a reference. -/
def refMark : List Char := "ref:".toList

/-- Some item after the key is a list that opens a reference. -/
def holdsRef : List Sexpr → Except Fault Bool
  | [] => .ok false
  | item :: rest => do
    let text ← (← item.first).word "startswith"
    if refMark.isPrefixOf text.toList then return true
    else holdsRef rest

/-- The words of a list, which must not hold a list; `place` counts them. -/
def joinable (place : Nat) : List Sexpr → Except Fault (List String)
  | [] => .ok []
  | .atom text :: rest => do
    let texts ← joinable (place + 1) rest
    return text :: texts
  | .list _ :: _ => .error (.listAmongWords place)

/-- The words of the items, those of a list joined by spaces. -/
def flattened : List Sexpr → Except Fault (List String)
  | [] => .ok []
  | .atom text :: rest => do
    let texts ← flattened rest
    return text :: texts
  | .list items :: rest => do
    let words ← joinable 0 items
    let texts ← flattened rest
    return " ".intercalate words :: texts

/-- The digits after a reference mark and blanks at the start of `cs`. -/
def refAt (cs : List Char) : Option (List Char) :=
  if refMark.isPrefixOf cs then
    let digits := ((cs.drop refMark.length).dropWhile Text.isBlank).takeWhile Text.isDecimalDigit
    if digits.isEmpty then none else some digits
  else none

/-- The digits of the first reference in `cs`. -/
def findRef : List Char → Option (List Char)
  | [] => none
  | c :: rest => (refAt (c :: rest)).or (findRef rest)

/-- The line of the object that a field refers to. -/
def referredLine (objects : Table String) (field : Sexpr) (items : List Sexpr) :
    Except Fault String := do
  let texts ← flattened items
  match findRef (" ".intercalate texts).toList with
  | none => .error (.invalidRef field)
  | some digits =>
    match objects.get? (String.ofList digits) with
    | some line => return line
    | none => .error (.unknownRef (String.ofList digits))

/-- Enters the fields of a relation, references resolved. -/
def relationFields (objects known : Table String) : List Sexpr → Except Fault (Table String)
  | [] => .ok known
  | .list (key :: value :: more) :: rest => do
    let text ←
      if ← holdsRef (value :: more) then
        referredLine objects (.list (key :: value :: more)) (value :: more)
      else value.value
    let key ← key.name
    relationFields objects (known.insert key text) rest
  | _ :: rest => relationFields objects known rest

/-- The lines of the relations. Words and empty lists among the entries are passed over. -/
def relationLines (objects : Table String) : List Sexpr → Except Fault (List String)
  | [] => .ok []
  | .list (kind :: fields) :: rest => do
    let kind ← kind.name
    if kind ∈ relationKinds then
      let known ← relationFields objects ∅ fields
      let lines ← relationLines objects rest
      return flatLine kind known :: lines
    else relationLines objects rest
  | _ :: rest => relationLines objects rest

end CodeMap.Mse
