/-
What can be wrong with a model file, from its bytes to its references.
-/

import CodeMap.Mse.Sexpr
import CodeMap.Text.Utf8

namespace CodeMap.Mse

/-- Why a model file cannot be read. -/
inductive Fault where
  /-- The bytes are no text. -/
  | encoding (fault : Text.Utf8.Fault)
  /-- The text is no list of expressions. -/
  | nesting (fault : SexprFault)
  /-- A word is wanted for `operation`, and a list stands there. -/
  | noWord (operation : String)
  /-- A list stands where a name is wanted. -/
  | listAsName
  /-- The first item of an empty list is wanted. -/
  | emptyList
  /-- The first character of an empty word is wanted. -/
  | emptyWord
  /-- Words are to be joined, and the item at `place` is a list. -/
  | listAmongWords (place : Nat)
  /-- An object has no identifier. -/
  | missingId (entry : Sexpr)
  /-- A reference names no object. -/
  | unknownRef (id : String)
  /-- A reference has no number. -/
  | invalidRef (field : Sexpr)
deriving Repr

def Fault.message : Fault → String
  | .encoding fault => fault.message
  | .nesting fault => fault.message
  | .noWord operation => "'list' object has no attribute '" ++ operation ++ "'"
  | .listAsName => "unhashable type: 'list'"
  | .emptyList => "list index out of range"
  | .emptyWord => "string index out of range"
  | .listAmongWords place =>
    "sequence item " ++ toString place ++ ": expected str instance, list found"
  | .missingId entry => "Entry " ++ entry.shown ++ " lacks an 'id' attribute."
  | .unknownRef id => "Unknown ref id: " ++ id
  | .invalidRef field => "Invalid ref format in " ++ field.shown

end CodeMap.Mse
