/-
The walk through a tree as a list of steps.

Whoever reads a tree reads its steps in this order. A definition has a step on entering and one on
leaving; between them lie the steps of its parts. All other constructs have at most one step,
followed by the steps of their parts.
-/

import CodeMap.Source.Tree

namespace CodeMap.Source

inductive Step where
  | enterModule
  | leaveModule
  | enterClass (position : Position) (name : Identifier)
  | leaveClass
  | enterFunction (position : Position) (name : Identifier) (params : List Tree)
  | leaveFunction
  | assign (position : Position) (targets : List Tree) (value : Tree)
  | importNames (aliases : List Alias)
  | importFrom (module : Option DottedName) (aliases : List Alias)
  | call (func : Tree) (args : List Tree)
  | attribute (value : Tree) (attr : Identifier)
  | name (id : Identifier)
deriving Repr

mutual

/-- The steps of a tree. -/
def Tree.walk : Tree → List Step
  | .name id => [.name id]
  | .attribute value attr => .attribute value attr :: value.walk
  | .call func args keywords =>
    .call func args :: (func.walk ++ walkAll args ++ walkAll keywords)
  | .subscript value index => value.walk ++ index.walk
  | .constant _ => []
  | .assign position targets value =>
    .assign position targets value :: (walkAll targets ++ value.walk)
  | .classDef position name parts => .enterClass position name :: (walkAll parts ++ [.leaveClass])
  | .functionDef position name before params after =>
    .enterFunction position name params ::
      (walkAll before ++ walkAll params ++ walkAll after ++ [.leaveFunction])
  | .param _ => []
  | .typedParam _ hint => hint.walk
  | .importNames aliases => [.importNames aliases]
  | .importFrom module aliases => [.importFrom module aliases]
  | .compound _ parts => walkAll parts
  | .group parts => walkAll parts

/-- The steps of trees one after the other. -/
def walkAll : List Tree → List Step
  | [] => []
  | tree :: trees => tree.walk ++ walkAll trees

end

/-- The steps of a module with the given body. -/
def walkModule (body : List Tree) : List Step :=
  .enterModule :: (walkAll body ++ [.leaveModule])

theorem walkAll_append (xs ys : List Tree) : walkAll (xs ++ ys) = walkAll xs ++ walkAll ys := by
  induction xs with
  | nil => simp [walkAll]
  | cons x xs ih => simp [walkAll, ih]

end CodeMap.Source
