/-
Chains of attributes that start at a name, such as `a.b.c`, and the names that are read off
callees and annotations.
-/

import CodeMap.Source.Tree

namespace CodeMap.Usage

open Source

/-- The identifiers of a chain, the last one first. -/
def reversedChain? : Tree → Option (List Identifier)
  | .name id => some [id]
  | .attribute value attr => (reversedChain? value).map (attr :: ·)
  | _ => none

/-- The dotted name of a chain. -/
def dottedName? (tree : Tree) : Option String :=
  (reversedChain? tree).map fun ids => ".".intercalate (ids.reverse.map (·.text))

/-- The name of the type in an annotation. What stands in brackets does not count. -/
def annotationName? : Tree → Option String
  | .subscript value _ => annotationName? value
  | tree => dottedName? tree

/-- What is called in the end: in `f(x)(y)` it is `f`. -/
def innermostCallee : Tree → Tree
  | .call func _ _ => innermostCallee func
  | tree => tree

end CodeMap.Usage
