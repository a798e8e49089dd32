/-
Relations between elements: what contains what, what calls what and what reads what.
-/

import CodeMap.Element

namespace CodeMap

/-- An element is defined inside another one. -/
structure Containment where
  parent : Element
  child : Element
deriving DecidableEq, Repr

/-- A call, named by unique names. A call outside any function has no caller. -/
structure Call where
  caller : Option String
  called : String
deriving DecidableEq, Repr

/-- An access of code to data, named by unique names. -/
structure Access where
  accessor : String
  accessed : String
  isWrite : Bool := false
  isRead : Bool := true
  isDependent : Bool := true
deriving DecidableEq, Repr

end CodeMap
