/-
Elements of a model: the files, classes, functions and attributes of a project, and the external
code that it calls.

Two definitions of one name are two elements, told apart by their serial numbers.
-/

namespace CodeMap

/-- The kinds of elements in a model file. -/
inductive Kind where
  | grouping
  | code
  | data
deriving DecidableEq, Repr

/-- What an element stands for. -/
inductive Role where
  | file
  | classDefinition
  | method (parameters : List String)
  | function (parameters : List String)
  | attribute
  | external
deriving DecidableEq, Repr

namespace Role

def kind : Role → Kind
  | .file => .grouping
  | .classDefinition => .grouping
  | .method _ => .code
  | .function _ => .code
  | .attribute => .data
  | .external => .code

/-- The name of the role in a model file. -/
def technicalType : Role → String
  | .file => "PythonFile"
  | .classDefinition => "PythonClass"
  | .method _ => "PythonMethod"
  | .function _ => "PythonFunction"
  | .attribute => "PythonVariable"
  | .external => "ExternalPythonFunction"

/-- The parameters that a call can give by place and by name. -/
def parameters : Role → List String
  | .method parameters => parameters
  | .function parameters => parameters
  | _ => []

end Role

structure Element where
  /-- How many elements had been made before. -/
  serial : Nat
  name : String
  uniqueName : String
  role : Role
  /-- Where an editor finds the element. -/
  link : Option String
deriving DecidableEq, Repr

namespace Element

def kind (element : Element) : Kind := element.role.kind

def technicalType (element : Element) : String := element.role.technicalType

def parameters (element : Element) : List String := element.role.parameters

def isCode (element : Element) : Bool := element.kind = .code

def isData (element : Element) : Bool := element.kind = .data

def isGrouping (element : Element) : Bool := element.kind = .grouping

/-- A file is the main grouping of what it holds. -/
def isMain (element : Element) : Bool := element.role = .file

end Element

end CodeMap
