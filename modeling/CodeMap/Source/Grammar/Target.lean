/-
Targets: the expressions that can be assigned to, deleted or bound by a loop.
-/

import CodeMap.Source.Grammar.Rule

namespace CodeMap.Source

namespace Tree

mutual

/-- The tree can be a target of an assignment; `starred` tells that a star may stand before it. -/
def isTarget (starred : Bool) : Tree → Bool
  | .name _ => true
  | .attribute _ _ => true
  | .subscript _ _ => true
  | .compound .tuple parts => areTargets parts
  | .compound .list parts => areTargets parts
  | .compound .starred parts => starred && areUnstarredTargets parts
  | _ => false

/-- All trees can be targets. -/
def areTargets : List Tree → Bool
  | [] => true
  | tree :: trees => tree.isTarget true && areTargets trees

/-- All trees can be targets without a star. -/
def areUnstarredTargets : List Tree → Bool
  | [] => true
  | tree :: trees => tree.isTarget false && areUnstarredTargets trees

end

/-- The tree can be the target of an assignment with an operator or an annotation. -/
def isSingleTarget : Tree → Bool
  | .name _ => true
  | .attribute _ _ => true
  | .subscript _ _ => true
  | _ => false

mutual

/-- The tree can be deleted. -/
def isDeletable : Tree → Bool
  | .name _ => true
  | .attribute _ _ => true
  | .subscript _ _ => true
  | .compound .tuple parts => areDeletable parts
  | .compound .list parts => areDeletable parts
  | _ => false

/-- All trees can be deleted. -/
def areDeletable : List Tree → Bool
  | [] => true
  | tree :: trees => tree.isDeletable && areDeletable trees

end

end Tree

namespace Grammar

/-- A target, perhaps with a star. -/
def target (g : Grammar) : Parser Tree := do
  let tree ← if ← Parser.atMark "*" then g.starred else g.bitwise
  if tree.isTarget true then return tree else failure

/-- The targets of a loop. -/
def targets (g : Grammar) : Parser Tree := do
  return tupleOf (← g.commaList g.target)

end Grammar

end CodeMap.Source
