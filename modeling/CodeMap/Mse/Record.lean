/-
Records of a model file, and the file as a text.

A record has a type, a number if it is an element, and attributes in a fixed order. The value of
an attribute is a text, a reference to the number of an element, or a truth value.
-/

import CodeMap.Element

namespace CodeMap.Mse

inductive Value where
  | text (content : String)
  | ref (id : Nat)
  | flag (isSet : Bool)
deriving DecidableEq, Repr

/-- The value as a model file writes it. -/
def Value.render : Value → String
  | .text content => "'" ++ content ++ "'"
  | .ref id => "(ref: " ++ toString id ++ ")"
  | .flag isSet => if isSet then "true" else "false"

inductive Record where
  | element (id : Nat) (subject : Element)
  | parentChild (parent child : Nat) (isMain : Bool)
  | call (caller called : Nat)
  | access (accessor accessed : Nat) (isWrite isRead isDependent : Bool)
deriving DecidableEq, Repr

/-- What a model file tells about an element. -/
structure Description where
  kind : Kind
  name : String
  uniqueName : String
  technicalType : String
  /-- Where an editor finds the element, empty if this is not known. -/
  link : String
deriving DecidableEq, Repr

/-- The type of the records of a kind of elements. -/
def kindType : Kind → String
  | .grouping => "SOMIX.Grouping"
  | .code => "SOMIX.Code"
  | .data => "SOMIX.Data"

namespace Description

/-- The description of an element. -/
def ofElement (element : Element) : Description where
  kind := element.kind
  name := element.name
  uniqueName := element.uniqueName
  technicalType := element.technicalType
  link := element.link.getD ""

/-- The attributes of an element. A grouping gives its unique name before its type, other elements
after it. A link is left out if it is not known. -/
def attributes (description : Description) : List (String × Value) :=
  let name := ("name", Value.text description.name)
  let unique := ("uniqueName", Value.text description.uniqueName)
  let type := ("technicalType", Value.text description.technicalType)
  let link :=
    if description.link = "" then [] else [("linkToEditor", Value.text description.link)]
  match description.kind with
  | .grouping => name :: unique :: type :: link
  | _ => name :: type :: unique :: link

end Description

/-- What a model file writes for a record: a type, the number of an element, and attributes. -/
structure Entry where
  type : String
  id : Option Nat
  attributes : List (String × Value)
deriving DecidableEq, Repr

/-- The line of an attribute. -/
def renderAttribute (key : String) (value : Value) : String :=
  "  (" ++ key ++ " " ++ value.render ++ ")\n"

/-- The entry as a model file writes it. -/
def Entry.render (entry : Entry) : String :=
  let number := (entry.id.map fun id => " (id: " ++ toString id ++ " )").getD ""
  "(" ++ entry.type ++ number ++ "\n" ++
    String.join (entry.attributes.map fun entry => renderAttribute entry.1 entry.2) ++ ")\n"

/-- The text of a model file with the given entries. -/
def renderEntries (entries : List Entry) : String :=
  "(\n" ++ String.join (entries.map Entry.render) ++ ")\n"

namespace Record

def type : Record → String
  | .element _ subject => kindType subject.kind
  | .parentChild .. => "SOMIX.ParentChild"
  | .call .. => "SOMIX.Call"
  | .access .. => "SOMIX.Access"

/-- The number of an element. -/
def id? : Record → Option Nat
  | .element id _ => some id
  | _ => none

def attributes : Record → List (String × Value)
  | .element _ subject => (Description.ofElement subject).attributes
  | .parentChild parent child isMain =>
    [("parent", .ref parent), ("child", .ref child), ("isMain", .flag isMain)]
  | .call caller called => [("caller", .ref caller), ("called", .ref called)]
  | .access accessor accessed isWrite isRead isDependent =>
    [("accessor", .ref accessor), ("accessed", .ref accessed), ("isWrite", .flag isWrite),
      ("isRead", .flag isRead), ("isDependent", .flag isDependent)]

def entry (record : Record) : Entry :=
  ⟨record.type, record.id?, record.attributes⟩

end Record

/-- The text of a model file. -/
def renderFile (records : List Record) : String :=
  renderEntries (records.map Record.entry)

end CodeMap.Mse
