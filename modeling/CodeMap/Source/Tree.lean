/-
Trees of a source text.

A tree keeps what the extraction reads: names, attributes, calls, subscripts, literals,
assignments, definitions and imports. Any other expression keeps its form and its parts, any other
statement, clause or pattern its parts alone. Parts stand in visiting order, which is not always
the order of the text: the condition of a conditional expression comes first, and all keys of a
dictionary come before its values.
-/

import CodeMap.Source.Token

namespace CodeMap.Source

/-- The forms of expressions of which only the parts are read. -/
inductive Form where
  | boolOp
  | namedExpr
  | binOp
  | unaryOp
  | lambda
  | ifExp
  | dict
  | set
  | listComp
  | setComp
  | dictComp
  | generatorExp
  | await
  | yield
  | yieldFrom
  | compare
  | formattedValue
  | joinedStr
  | starred
  | list
  | tuple
  | slice
deriving DecidableEq, Repr

/-- The name of a form in messages. -/
def Form.label : Form → String
  | .boolOp => "BoolOp"
  | .namedExpr => "NamedExpr"
  | .binOp => "BinOp"
  | .unaryOp => "UnaryOp"
  | .lambda => "Lambda"
  | .ifExp => "IfExp"
  | .dict => "Dict"
  | .set => "Set"
  | .listComp => "ListComp"
  | .setComp => "SetComp"
  | .dictComp => "DictComp"
  | .generatorExp => "GeneratorExp"
  | .await => "Await"
  | .yield => "Yield"
  | .yieldFrom => "YieldFrom"
  | .compare => "Compare"
  | .formattedValue => "FormattedValue"
  | .joinedStr => "JoinedStr"
  | .starred => "Starred"
  | .list => "List"
  | .tuple => "Tuple"
  | .slice => "Slice"

/-- What an import names. -/
inductive Imported where
  | dotted (name : DottedName)
  /-- All names of a module, written as a star. -/
  | all
deriving DecidableEq, Repr

def Imported.text : Imported → String
  | .dotted name => name.text
  | .all => "*"

/-- One name of an import, and the name it is bound to. -/
structure Alias where
  imported : Imported
  asName : Option Identifier
deriving DecidableEq, Repr

/-- The dotted name, or a star. -/
def Alias.name (entry : Alias) : String := entry.imported.text

inductive Tree where
  | name (id : Identifier)
  | attribute (value : Tree) (attr : Identifier)
  | call (func : Tree) (args keywords : List Tree)
  | subscript (value index : Tree)
  | constant (value : Literal)
  | assign (position : Position) (targets : List Tree) (value : Tree)
  /-- A class; `parts` are bases, keywords, body and decorators. -/
  | classDef (position : Position) (name : Identifier) (parts : List Tree)
  /-- A function; `params` are the parameters that can be given by place and by name. -/
  | functionDef (position : Position) (name : Identifier) (before params after : List Tree)
  | param (name : Identifier)
  | typedParam (name : Identifier) (hint : Tree)
  | importNames (aliases : List Alias)
  | importFrom (module : Option DottedName) (aliases : List Alias)
  | compound (form : Form) (parts : List Tree)
  | group (parts : List Tree)
deriving Repr, Inhabited

/-- The name of a parameter. -/
def Tree.paramName? : Tree → Option Identifier
  | .param id => some id
  | .typedParam id _ => some id
  | _ => none

mutual

/-- Whether every literal in a tree can be shown. -/
def Tree.isShown : Tree → Bool
  | .constant value => value.shown?.isSome
  | .attribute value _ => value.isShown
  | .call func args keywords => func.isShown && allShown args && allShown keywords
  | .subscript value index => value.isShown && index.isShown
  | .assign _ targets value => allShown targets && value.isShown
  | .classDef _ _ parts => allShown parts
  | .functionDef _ _ before params after =>
    allShown before && allShown params && allShown after
  | .typedParam _ hint => hint.isShown
  | .compound _ parts => allShown parts
  | .group parts => allShown parts
  | .name _ | .param _ | .importNames _ | .importFrom _ _ => true

/-- Whether every literal in some trees can be shown. -/
def allShown : List Tree → Bool
  | [] => true
  | tree :: trees => tree.isShown && allShown trees

end

end CodeMap.Source
