/-
Collecting the definitions of a file.

The walk through the file is followed step by step. A class is named after its module, also inside
another definition; a function is named after the class that is open, or after its module. What
contains a definition is the innermost definition around it. An assignment to an attribute of
`self` defines an attribute of the class that is open, unless its unique name is taken.

Leaving a class leaves no class open, and leaving a function leaves none open, whatever lies
around them. A limit on the depth of recursion is left out: trees are followed however deep they
nest.
-/

import CodeMap.Model
import CodeMap.Source.Walk
import CodeMap.Text.Dotted

namespace CodeMap.Definitions

open Source

/-- A file as definitions refer to it. -/
structure File where
  /-- The name of the file without its folders. -/
  name : String
  /-- The absolute path of the file, with slashes. -/
  path : String
  /-- The dotted name of the module. -/
  module : String
deriving DecidableEq, Repr

namespace File

/-- Where an editor finds a place of the file. Columns are counted from one there. -/
def link (file : File) (position : Position) : String :=
  "vscode://file/" ++ file.path ++ "/:" ++ toString position.line ++ ":" ++
    toString (position.column + 1)

/-- The last part of the name of the module, with which short names start. -/
def shortModule (file : File) : String := Text.Dotted.last file.module

end File

/-- The model and the definitions that are open. -/
structure State where
  model : Model
  /-- The open definitions, innermost first. -/
  scopes : List Element := []
  openClass : Option Element := none
  openFunction : Option Element := none

namespace State

/-- Records that the innermost open definition contains `child`. -/
def contain (state : State) (child : Element) : State :=
  match state.scopes with
  | parent :: _ => { state with model := state.model.addContainment ⟨parent, child⟩ }
  | [] => state

/-- Enters a definition under its unique and its short name and opens it. -/
def define (state : State) (element : Element) (short : String) : State :=
  let model := state.model.enter element
  let model := (model.bind element.uniqueName element).bind short element
  let model := model.note (.shortNameMapped short element.uniqueName)
  let state := { state with model := model }.contain element
  { state with scopes := element :: state.scopes }

def enterModule (state : State) (file : File) : State :=
  let element : Element :=
    { serial := state.model.made
      name := file.name
      uniqueName := file.module
      role := .file
      link := some (file.link .start) }
  { state with model := state.model.enter element, scopes := element :: state.scopes }

def enterClass (state : State) (file : File) (position : Position) (name : String) : State :=
  let element : Element :=
    { serial := state.model.made
      name := name
      uniqueName := file.module ++ "." ++ name
      role := .classDefinition
      link := some (file.link position) }
  { state.define element (file.shortModule ++ "." ++ name) with openClass := some element }

/-- The names of the parameters that a call can give by place and by name. -/
def parameterNames (params : List Tree) : List String :=
  (params.filterMap Tree.paramName?).map (·.text)

def enterFunction (state : State) (file : File) (position : Position) (name : String)
    (params : List Tree) : State :=
  let parameters := parameterNames params
  let (unique, short, role) :=
    match state.openClass with
    | some owner =>
      (owner.uniqueName ++ "." ++ name, file.shortModule ++ "." ++ owner.name ++ "." ++ name,
        Role.method parameters)
    | none =>
      (file.module ++ "." ++ name, file.shortModule ++ "." ++ name, Role.function parameters)
  let element : Element :=
    { serial := state.model.made
      name := name
      uniqueName := unique
      role := role
      link := some (file.link position) }
  let state := state.define element short
  { state with
    model := state.model.note (.parametersCollected unique parameters)
    openFunction := some element }

/-- The attribute of `self` that a target names. -/
def selfAttribute? : Tree → Option String
  | .attribute (.name id) attr => if id.text = "self" then some attr.text else none
  | _ => none

/-- Enters an attribute of the class `owner`, unless its unique name is taken. -/
def defineAttribute (state : State) (file : File) (position : Position) (owner : Element)
    (attr : String) : State :=
  let unique := owner.uniqueName ++ "." ++ attr
  if state.model.elements.contains unique then state
  else
    let element : Element :=
      { serial := state.model.made
        name := attr
        uniqueName := unique
        role := .attribute
        link := some (file.link position) }
    let short := file.shortModule ++ "." ++ owner.name ++ "." ++ attr
    let collected : Event :=
      match state.openFunction with
      | some _ => .instanceAttributeCollected unique
      | none => .classAttributeCollected unique
    let model := (state.model.enter element).bind unique element
    let model := (model.addContainment ⟨owner, element⟩).note collected
    let model := (model.bind short element).note (.shortNameMapped short unique)
    { state with model := model }

/-- Enters the attributes that an assignment defines. -/
def assign (state : State) (file : File) (position : Position) (targets : List Tree) : State :=
  match state.openClass with
  | some owner =>
    (targets.filterMap selfAttribute?).foldl (fun state attr =>
      state.defineAttribute file position owner attr) state
  | none => state

/-- Follows one step of the walk. -/
def step (file : File) (state : State) : Step → State
  | .enterModule => state.enterModule file
  | .leaveModule => { state with scopes := state.scopes.tail }
  | .enterClass position name => state.enterClass file position name.text
  | .leaveClass => { state with scopes := state.scopes.tail, openClass := none }
  | .enterFunction position name params => state.enterFunction file position name.text params
  | .leaveFunction => { state with scopes := state.scopes.tail, openFunction := none }
  | .assign position targets _ => state.assign file position targets
  | _ => state

end State

/-- Collects the definitions of a file. -/
def collect (model : Model) (file : File) (body : List Tree) : Model :=
  ((walkModule body).foldl (State.step file) { model := model }).model

end CodeMap.Definitions
