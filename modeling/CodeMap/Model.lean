/-
The model of a project while it is being extracted.

`elements` holds what the project defines, each under its unique name. `symbols` is what names are
looked up in: it holds the classes, functions and attributes under their unique and their short
names, and the external code that was met. `externals` lists the external code in the order in
which it was met. The relations and the events are listed in the order in which they were
recorded.
-/

import CodeMap.Event
import CodeMap.Relation
import CodeMap.Table

namespace CodeMap

structure Model where
  /-- How many elements have been made. -/
  made : Nat := 0
  symbols : Table Element := ∅
  elements : Table Element := ∅
  externals : Array Element := #[]
  containments : Array Containment := #[]
  calls : Array Call := #[]
  accesses : Array Access := #[]
  journal : Array Event := #[]

namespace Model

/-- Reports an event. -/
def note (model : Model) (event : Event) : Model :=
  { model with journal := model.journal.push event }

/-- Records a call. -/
def addCall (model : Model) (call : Call) : Model :=
  { model with calls := model.calls.push call }

/-- Records an access. -/
def addAccess (model : Model) (access : Access) : Model :=
  { model with accesses := model.accesses.push access }

/-- Records that one element contains another. -/
def addContainment (model : Model) (containment : Containment) : Model :=
  { model with containments := model.containments.push containment }

/-- The element that a name stands for. -/
def symbol? (model : Model) (name : String) : Option Element :=
  model.symbols.get? name

/-- Makes `name` stand for an element. -/
def bind (model : Model) (name : String) (element : Element) : Model :=
  { model with symbols := model.symbols.insert name element }

/-- Enters an element of the project under its unique name. -/
def enter (model : Model) (element : Element) : Model :=
  { model with
    made := model.made + 1
    elements := model.elements.insert element.uniqueName element }

/-- The unique names of what an element contains, in the order of its definition. -/
def children (model : Model) (element : Element) : List String :=
  (model.containments.toList.filter fun containment =>
    containment.parent.serial = element.serial).map (·.child.uniqueName)

end Model

end CodeMap
