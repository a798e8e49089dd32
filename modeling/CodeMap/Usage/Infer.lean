/-
Types of expressions and of parameters.

The type of a construction is the class that is constructed, and its constructor counts as called.
The type of a variable is what it was assigned last. A call adds the types of its arguments to the
parameters of the called function, if types of any parameters are known at all.
-/

import CodeMap.Usage.Resolve

namespace CodeMap.Usage

open Source

/-- The name of the form of an expression in messages. -/
def formLabel : Tree → String
  | .subscript _ _ => "Subscript"
  | .compound form _ => form.label
  | _ => ""

/-- The type that a call gives: the class that is constructed, or external code. -/
def constructed? (context : Context) (func : Tree) : Tracking (Option String) := do
  let name ← calledName? func
  match ← classOf? context name with
  | some element =>
    match (← symbol? (element.uniqueName ++ ".__init__")).filter (·.isCode) with
    | some init =>
      recordCall init.uniqueName
      note (.constructorRecorded (← get).openCode element.uniqueName)
    | none => pure ()
    return some element.uniqueName
  | none => external? context.externals name

/-- The type of an expression. -/
def typeOfTree? (context : Context) : Tree → Analysis (Option String)
  | .call func _ _ => constructed? context func
  | .name id => do
    let type ← typeOf? context.lookup id.text
    note (.variableRead id.text type)
    return type
  | .attribute _ attr => do
    let type ← typeOf? context.lookup attr.text
    note (.attributeRead attr.text type)
    return type
  | .constant value =>
    match value.shown? with
    | some shown => do
      note (.constantMet shown)
      return none
    | none => throw .tooManyDigits
  | tree =>
    -- the message is made from the whole expression, so every literal in it has to be shown
    if tree.isShown then do
      note (.typeUnknown (formLabel tree))
      return none
    else throw .tooManyDigits

/-- Adds a type to a parameter of a function. -/
def addParameterType (code parameter type : String) : Analysis Unit := do
  let state ← get
  let known := (state.parameterTypes.get? code).getD ∅
  match known.get? parameter with
  | none => throw (.unknownParameter parameter)
  | some types =>
    set { state with
      parameterTypes :=
        state.parameterTypes.insert code (known.insert parameter (types.insert type)) }

/-- Adds the type of an argument to its parameter. -/
def inferArgument (context : Context) (code : String) (argument : Tree) (parameter : String) :
    Analysis Unit := do
  match given (← typeOfTree? context argument) with
  | some type =>
    addParameterType code parameter type
    note (.argumentInferred parameter code type)
  | none => note (.argumentUnknown parameter code)

/-- Adds the types of the arguments of a call to the parameters of the called function. -/
def inferArguments (context : Context) (code : String) (arguments : List Tree) :
    Analysis Unit := do
  if (← get).parameterTypes.isEmpty then return
  match (← symbol? code).filter (·.isCode) with
  | none => note (.calledMissing code)
  | some element =>
    if element.parameters.isEmpty then
      note (.parametersMissing code)
      return
    unless (← get).parameterTypes.contains code do
      modify fun state => { state with
        parameterTypes := state.parameterTypes.insert code
          (Table.ofList (element.parameters.map fun parameter => (parameter, ∅))) }
    (arguments.zip element.parameters).forM fun (argument, parameter) =>
      inferArgument context code argument parameter

end CodeMap.Usage
