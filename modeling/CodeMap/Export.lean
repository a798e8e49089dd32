/-
From a model to the records of a model file.

The elements of the project are numbered from one in the order of their entry, and the external
code goes on from there. In the file, external code comes first, in the order in which it was met,
unless an element of the project has its name. A relation is written if both of its ends have
numbers.
-/

import CodeMap.Model
import CodeMap.Mse.Record

namespace CodeMap.Model

/-- All elements under their unique names, in the order of the model file. -/
def allElements (model : Model) : Table Element :=
  model.elements.entries.foldl (fun table entry => table.insert entry.1 entry.2)
    (Table.ofList (model.externals.toList.map fun element => (element.uniqueName, element)))

/-- The unique names in the order of their numbers. -/
def numberedNames (model : Model) : List String :=
  model.elements.keys ++
    model.allElements.keys.filter fun name => !model.elements.contains name

/-- The numbers of the unique names. -/
def numbering (model : Model) : Table Nat :=
  .ofList (model.numberedNames.zipIdx 1)

/-- The records of the elements. -/
def elementRecords (model : Model) (ids : Table Nat) : List Mse.Record :=
  model.allElements.entries.filterMap fun entry =>
    (ids.get? entry.1).map fun id => .element id entry.2

/-- The records of what contains what. -/
def containmentRecords (model : Model) (ids : Table Nat) : List Mse.Record :=
  model.containments.toList.filterMap fun containment => do
    return .parentChild (← ids.get? containment.parent.uniqueName)
      (← ids.get? containment.child.uniqueName) true

/-- The records of calls. -/
def callRecords (model : Model) (ids : Table Nat) : List Mse.Record :=
  model.calls.toList.filterMap fun call => do
    return .call (← ids.get? (← call.caller)) (← ids.get? call.called)

/-- The records of accesses. -/
def accessRecords (model : Model) (ids : Table Nat) : List Mse.Record :=
  model.accesses.toList.filterMap fun access => do
    return .access (← ids.get? access.accessor) (← ids.get? access.accessed) access.isWrite
      access.isRead access.isDependent

/-- The records of a model file. -/
def records (model : Model) : List Mse.Record :=
  let ids := model.numbering
  model.elementRecords ids ++ model.containmentRecords ids ++ model.callRecords ids ++
    model.accessRecords ids

/-- The text of the model file. -/
def render (model : Model) : String :=
  Mse.renderFile model.records

end CodeMap.Model
