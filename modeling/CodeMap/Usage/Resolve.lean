/-
From names to elements.

A name stands for what it was imported as, or for a definition of the module. A dotted name starts
with `self`, with a variable of known type, with an imported name or with a name of the module.
Names that lead to no code become external code, except built-in ones.
-/

import CodeMap.Text.Dotted
import CodeMap.Usage.Builtin
import CodeMap.Usage.Chain
import CodeMap.Usage.State

namespace CodeMap.Usage

open Source Text

/-- What the names of external code start with. -/
def externalMark : String := "extP2S."

/-- The name that a callee spells. -/
def calledName? (tree : Tree) : Tracking (Option String) := do
  let callee := innermostCallee tree
  match callee, dottedName? callee with
  | .attribute _ _, some name =>
    note (.chainResolved name)
    return some name
  | _, name => return name

/-- The class that a name stands for. -/
def classOf? (context : Context) (name : Option String) : Tracking (Option Element) := do
  match given name with
  | none => return none
  | some name =>
    let unique := ((← get).imports.get? name).getD (context.module ++ "." ++ name)
    match (← symbol? unique).filter (·.isGrouping) with
    | some element =>
      note (.classResolved name unique)
      return some element
    | none =>
      note (.classUnresolved name)
      return none

/-- Enters new external code, called from the open function. -/
def addExternal (policy : ExternalPolicy) (name : String) : Tracking Unit := do
  let unique := externalMark ++ name
  let state ← get
  let element : Element :=
    { serial := state.model.made
      name := name
      uniqueName := unique
      role := .external
      link := none }
  modify fun state => { state with
    model := { state.model.bind unique element with made := state.model.made + 1 } }
  recordCall unique
  note (.externalAdded unique state.openCode)
  unless policy = .drop do
    modify fun state => { state with
      model := { state.model with externals := state.model.externals.push element } }
  if policy = .keepAndReport then
    note (.externalKept unique)

/-- The name under which `name` is known, as external code if it is not known otherwise. -/
def external? (policy : ExternalPolicy) (name : Option String) : Tracking (Option String) := do
  match given name with
  | none => return none
  | some name =>
    if (← symbol? name).isSome then return some name
    unless (← symbol? (externalMark ++ name)).isSome do
      addExternal policy name
    return some (externalMark ++ name)

/-- The unique name that a name with a full stop stands for, unless it is built in. It does not
start with `self`. -/
def dottedTarget? (context : Context) (name : String) : Tracking (Option String) := do
  let base := Dotted.first name
  let chain := Dotted.afterFirst name
  match given (← typeOf? context.lookup base) with
  | some type =>
    let unique := type ++ "." ++ chain
    note (.resolvedByType base type unique)
    return some unique
  | none =>
    match (← get).imports.get? base with
    | some imported =>
      let unique := imported ++ "." ++ chain
      note (.resolvedByImport base unique)
      return some unique
    | none =>
      if isBuiltin base then
        note (.builtinSkipped base)
        return none
      let unique := context.module ++ "." ++ name
      note (.resolvedByModule name unique)
      return some unique

/-- The unique name that a name without a full stop stands for, unless it is built in. -/
def plainTarget? (context : Context) (name : String) : Tracking (Option String) := do
  match (← get).imports.get? name with
  | some imported =>
    note (.globalResolved name imported)
    return some imported
  | none =>
    if isBuiltin name then
      note (.builtinSkipped name)
      return none
    let unique := context.module ++ "." ++ name
    note (.globalResolved name unique)
    return some unique

/-- The method of the open class that a name starting with `self` stands for. -/
def ownMethod? (name : String) : Tracking (Option Element) := do
  let method := Dotted.first (Dotted.afterFirst name)
  let unique := Event.orNone (← get).openClass ++ "." ++ method
  note (.selfResolved method unique)
  match (← symbol? unique).filter (·.isCode) with
  | some element => return some element
  | none =>
    note (.notCode unique)
    return none

/-- The element that a called name stands for. -/
def called? (context : Context) (name : String) : Tracking (Option Element) := do
  if Dotted.isDotted name && Dotted.first name = "self" then
    ownMethod? name
  else
    match ← (if Dotted.isDotted name then dottedTarget? context name
      else plainTarget? context name) with
    | none => return none
    | some unique =>
      match (← symbol? unique).filter (·.isCode) with
      | some element => return some element
      | none =>
        match ← external? context.externals (some unique) with
        | some known => symbol? known
        | none => return none

end CodeMap.Usage
