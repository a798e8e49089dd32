/-
Following the walk through a file: the calls, the accesses and the external code of its functions.

A call is recorded if it is made in a function. An attribute counts as accessed if a function
reads it from `self`, from a parameter of known type or from a variable of known type. Leaving a
class leaves no class open, and leaving a function leaves none open, whatever lies around them.
A limit on the depth of recursion is left out: trees are followed however deep they nest.
-/

import CodeMap.Source.Walk
import CodeMap.Usage.Infer

namespace CodeMap.Usage

open Source

/-- Binds a name to what it is imported from. -/
def importName (asName full : String) : Tracking Unit :=
  modify fun state => { state with imports := state.imports.insert asName full }

/-- The name that an import binds. -/
def boundName (entry : Alias) : String :=
  (entry.asName.map (·.text)).getD entry.name

/-- Follows an import of modules. -/
def followImport (context : Context) (aliases : List Alias) : Tracking Unit := do
  note (.importProcessed context.module)
  aliases.forM fun entry => do
    importName (boundName entry) entry.name
    note (.nameImported entry.name (boundName entry))

/-- Follows an import from a module. -/
def followImportFrom (context : Context) (module : Option DottedName) (aliases : List Alias) :
    Tracking Unit := do
  note (.fromImportProcessed context.module)
  aliases.forM fun entry => do
    let full := (module.map (·.text ++ "." ++ entry.name)).getD entry.name
    importName (boundName entry) full
    note (.nameImportedFrom entry.name (module.map (·.text)) (boundName entry))

def enterClass (context : Context) (name : String) : Tracking Unit := do
  let unique := context.module ++ "." ++ name
  note (.classVisited unique)
  modify fun state => { state with
    scopes := unique :: state.scopes
    openClass := some unique
    attributeTypes := ∅ }

def leaveClass : Tracking Unit :=
  modify fun state => { state with scopes := state.scopes.tail, openClass := none }

/-- Gives a parameter the class that its hint names. -/
def followHint (context : Context) (code parameter : String) (hint : Tree) :
    Tracking Unit := do
  match annotationName? hint with
  | none => return
  | some name =>
    match ← classOf? context (some name) with
    | none => return
    | some element =>
      let type := element.uniqueName
      modify fun state => { state with
        parameterTypes := state.parameterTypes.insert code
          (((state.parameterTypes.get? code).getD ∅).insert parameter (.single type)) }
      note (.annotationAssigned type parameter code)
      setVariable parameter (some type)
      note (.variableTypeSet parameter type)

/-- Gives a parameter the first of the types that calls have given it. -/
def followParameter (context : Context) (code parameter : String) : Tracking Unit := do
  match (← get).typesOf context.typeOrder code parameter with
  | [] =>
    setVariable parameter none
    note (.parameterUnknown parameter code)
  | [type] =>
    setVariable parameter (some type)
    note (.parameterInferred type parameter code)
  | type :: others =>
    setVariable parameter (some type)
    note (.parameterAmbiguous parameter code (type :: others) type)

/-- Enters a parameter of the function `code`. -/
def enterParameter (context : Context) (code : String) : Tree → Tracking Unit
  | .typedParam id hint => followHint context code id.text hint
  | .param id => followParameter context code id.text
  | _ => pure ()

def enterFunction (context : Context) (name : String) (params : List Tree) : Tracking Unit := do
  let unique := (given (← get).openClass).getD context.module ++ "." ++ name
  note (.codeVisited unique)
  modify fun state => { state with
    scopes := unique :: state.scopes
    openCode := some unique
    localTypes := ∅ }
  params.forM (enterParameter context unique)

/-- The name stands for an attribute of `self`. -/
def isOwn (var : String) : Bool :=
  "self.".toList.isPrefixOf var.toList

/-- Leaving a function hands the types of the attributes of `self` to the class. -/
def leaveFunction : Tracking Unit := do
  (← get).localTypes.entries.forM fun (var, type) => do
    if isOwn var then
      setAttribute var type
      note (.attributeMerged var (← get).openClass type)
  modify fun state => { state with
    localTypes := ∅
    scopes := state.scopes.tail
    openCode := none }

/-- Follows the assignment of a value to one target inside the function `code`. -/
def followTarget (context : Context) (code : String) (value : Tree) : Tree → Analysis Unit
  | .name id => do
    let type ← typeOfTree? context value
    setVariable id.text type
    note (.variableAssigned id.text code type)
  | .attribute (.name id) attr => do
    if id.text = "self" then
      let attr := "self." ++ attr.text
      let type ← typeOfTree? context value
      setVariable attr type
      setAttribute attr type
      note (.attributeAssigned attr (← get).openClass type)
  | _ => pure ()

/-- Follows an assignment. -/
def followAssignment (context : Context) (targets : List Tree) (value : Tree) :
    Analysis Unit := do
  match ← openCode? with
  | none => return
  | some code => targets.forM (followTarget context code value)

/-- Follows a call. -/
def followCall (context : Context) (func : Tree) (arguments : List Tree) : Analysis Unit := do
  let name ← calledName? func
  note (.callProcessed name (← get).openCode)
  match name with
  | none => return
  | some name =>
    match (← called? context name).filter (·.isCode) with
    | none => return
    | some element =>
      match ← openCode? with
      | some code =>
        recordCall element.uniqueName
        note (.callRecorded code element.uniqueName)
      | none => pure ()
      inferArguments context element.uniqueName arguments

/-- Records that the function `code` reads the data of this unique name, if there is any. -/
def recordAccess (code name : String) : Tracking Unit := do
  match (← symbol? name).filter (·.isData) with
  | some element =>
    modify fun state => { state with
      model := state.model.addAccess { accessor := code, accessed := element.uniqueName } }
    note (.accessRecorded element.uniqueName code)
  | none => pure ()

/-- Follows an attribute `attribute` of the name `base` in the function `code`. -/
def followAttributeOf (context : Context) (code base attr : String) : Analysis Unit := do
  let state ← get
  if base = "self" then
    match state.openClass with
    | none => throw .noOpenClass
    | some owner => recordAccess code (owner ++ "." ++ attr)
  else
    match (state.parameterTypes.get? code).bind (·.get? base) with
    | some types =>
      match context.typeOrder.arrange types.types with
      | [] => return
      | [type] => recordAccess code (type ++ "." ++ attr)
      | type :: _ =>
        recordAccess code (type ++ "." ++ attr)
        note (.accessAmbiguous base code type)
    | none =>
      match given (← typeOf? context.lookup base) with
      | some type => recordAccess code (type ++ "." ++ attr)
      | none => return

/-- Follows an attribute. -/
def followAttribute (context : Context) (value : Tree) (attr : String) : Analysis Unit := do
  match ← openCode?, value with
  | some code, .name id => followAttributeOf context code id.text attr
  | _, _ => return

/-- Follows a name. -/
def followName (context : Context) (name : String) : Tracking Unit := do
  match ← openCode? with
  | some code => recordAccess code (context.module ++ "." ++ name)
  | none => return

/-- Follows one step of the walk. -/
def follow (context : Context) : Step → Analysis Unit
  | .enterModule => do
    note (.moduleVisited context.module)
    modify fun state => { state with scopes := context.module :: state.scopes }
  | .leaveModule => modify fun state => { state with scopes := state.scopes.tail }
  | .enterClass _ name => enterClass context name.text
  | .leaveClass => leaveClass
  | .enterFunction _ name params => enterFunction context name.text params
  | .leaveFunction => leaveFunction
  | .assign _ targets value => followAssignment context targets value
  | .importNames aliases => followImport context aliases
  | .importFrom module aliases => followImportFrom context module aliases
  | .call func arguments => followCall context func arguments
  | .attribute value attr => followAttribute context value attr.text
  | .name id => followName context id.text

/-- Follows steps one after the other, up to the first fault. -/
def followAll (context : Context) : List Step → Analysis Unit
  | [] => pure ()
  | step :: steps => do
    follow context step
    followAll context steps

/-- Analyses the usages of a module with the given body. -/
def analyse (context : Context) (body : List Tree) : Analysis Unit :=
  followAll context (walkModule body)

end CodeMap.Usage
