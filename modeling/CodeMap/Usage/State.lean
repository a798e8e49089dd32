/-
What the analysis of a file holds while it follows the walk: the model that it adds to, the
definitions that are open, the names that were imported and the types that are known. What an
analysis takes as given is its context: the module, what becomes of external code, how the types of
attributes are looked up and in which order the types of a parameter are gone through.

An analysis that meets a fault stops there. What it has recorded stays recorded.
-/

import CodeMap.Arrangement
import CodeMap.Model
import CodeMap.Usage.TypeSet

namespace CodeMap.Usage

/-- Why an analysis stops. -/
inductive Fault where
  /-- An attribute of `self` is read in a function while no class is open. -/
  | noOpenClass
  /-- A parameter is missing from the types of its function. -/
  | unknownParameter (name : String)
  /-- A literal has too many digits to be shown. -/
  | tooManyDigits
deriving DecidableEq, Repr

def Fault.message : Fault → String
  | .noOpenClass => "unsupported operand type(s) for +: 'NoneType' and 'str'"
  | .unknownParameter name => Text.quoted name
  | .tooManyDigits =>
    "Exceeds the limit (4300 digits) for integer string conversion; " ++
      "use sys.set_int_max_str_digits() to increase the limit"

/-- What becomes of external code that is met for the first time. Its name is known in any case. -/
inductive ExternalPolicy where
  | drop
  | keep
  | keepAndReport
deriving DecidableEq, Repr

/-- The types of the parameters of functions, under the unique names of the functions. -/
abbrev ParameterTypes := Table (Table TypeSet)

/-- The types of variables. A variable of unknown type has an entry too. -/
abbrev VariableTypes := Table (Option String)

/-- A way to look up the type of an attribute among the types of the attributes of a class. It finds
nothing but what is stored there. -/
structure Lookup where
  find : VariableTypes → String → Option String
  sound : ∀ {types attr type}, find types attr = some type → (types.get? attr).join = some type

namespace Lookup

/-- The lookup that finds what is stored. -/
def stored : Lookup := ⟨fun types attr => (types.get? attr).join, id⟩

/-- The lookup that finds nothing. -/
def nothing : Lookup := ⟨fun _ _ => none, fun found => absurd found.symm (Option.some_ne_none _)⟩

end Lookup

/-- What stays the same during an analysis. -/
structure Context where
  /-- The dotted name of the module. -/
  module : String
  externals : ExternalPolicy := .keepAndReport
  /-- How the types of attributes are looked up. -/
  lookup : Lookup := .stored
  /-- The order in which the types of a parameter are gone through. -/
  typeOrder : Arrangement String := .ascending

structure State where
  model : Model := {}
  parameterTypes : ParameterTypes := ∅
  /-- The unique names of the open definitions, innermost first. -/
  scopes : List String := []
  openClass : Option String := none
  openCode : Option String := none
  /-- What the imported names stand for. -/
  imports : Table String := ∅
  /-- The types of the variables of the open function. -/
  localTypes : VariableTypes := ∅
  /-- The types of the attributes of the open class. -/
  attributeTypes : VariableTypes := ∅

/-- An analysis that cannot fail. -/
abbrev Tracking := StateM State

/-- An analysis. What it has done before a fault stays done. -/
abbrev Analysis := ExceptT Fault (StateM State)

/-- A text that says something. -/
def given (text : Option String) : Option String :=
  text.filter (· ≠ "")

/-- Reports an event. -/
def note (event : Event) : Tracking Unit :=
  modify fun state => { state with model := state.model.note event }

/-- Records a call from the open function. -/
def recordCall (called : String) : Tracking Unit :=
  modify fun state => { state with model := state.model.addCall ⟨state.openCode, called⟩ }

/-- The element that a name stands for. -/
def symbol? (name : String) : Tracking (Option Element) := do
  return (← get).model.symbol? name

/-- The function that is open. -/
def openCode? : Tracking (Option String) := do
  return given (← get).openCode

/-- The types that a parameter has been given, in the order in which they are gone through. -/
def State.typesOf (state : State) (order : Arrangement String) (code parameter : String) :
    List String :=
  match (state.parameterTypes.get? code).bind (·.get? parameter) with
  | some types => order.arrange types.types
  | none => []

/-- The type of a variable of the open function or, if it is not known, of the open class. -/
def typeOf? (lookup : Lookup) (var : String) : Tracking (Option String) := do
  let state ← get
  match given (state.localTypes.get? var).join with
  | some type => return some type
  | none => return lookup.find state.attributeTypes var

/-- Sets the type of a variable of the open function. -/
def setVariable (var : String) (type : Option String) : Tracking Unit :=
  modify fun state => { state with localTypes := state.localTypes.insert var type }

/-- Sets the type of an attribute of the open class. -/
def setAttribute (attr : String) (type : Option String) : Tracking Unit :=
  modify fun state => { state with attributeTypes := state.attributeTypes.insert attr type }

end CodeMap.Usage
