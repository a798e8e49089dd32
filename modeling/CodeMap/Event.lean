/-
Events that the extraction reports, with their levels and their wording.
-/

import CodeMap.Text.Quoted

namespace CodeMap

/-- The levels of events, in ascending order of urgency. -/
inductive Level where
  | debug
  | info
  | warning
  | error
deriving DecidableEq, Repr

namespace Level

def label : Level → String
  | .debug => "DEBUG"
  | .info => "INFO"
  | .warning => "WARNING"
  | .error => "ERROR"

def rank : Level → Nat
  | .debug => 0
  | .info => 1
  | .warning => 2
  | .error => 3

end Level

inductive Event where
  -- Definitions
  | shortNameMapped (short unique : String)
  | parametersCollected (code : String) (parameters : List String)
  | classAttributeCollected (attr : String)
  | instanceAttributeCollected (attr : String)
  -- Names and scopes of usages
  | moduleVisited (module : String)
  | importProcessed (module : String)
  | nameImported (name asName : String)
  | fromImportProcessed (module : String)
  | nameImportedFrom (name : String) (module : Option String) (asName : String)
  | classVisited (name : String)
  | codeVisited (name : String)
  -- Types
  | annotationAssigned (type parameter code : String)
  | variableTypeSet (parameter type : String)
  | parameterInferred (type parameter code : String)
  | parameterAmbiguous (parameter code : String) (types : List String) (type : String)
  | parameterUnknown (parameter code : String)
  | attributeMerged (var : String) (owner type : Option String)
  | variableAssigned (var code : String) (type : Option String)
  | attributeAssigned (attr : String) (owner type : Option String)
  | variableRead (var : String) (type : Option String)
  | attributeRead (attr : String) (type : Option String)
  | constantMet (shown : String)
  | typeUnknown (form : String)
  | classResolved (name unique : String)
  | classUnresolved (name : String)
  | argumentInferred (parameter code type : String)
  | argumentUnknown (parameter code : String)
  | accessAmbiguous (var code type : String)
  -- Calls and accesses
  | callProcessed (called code : Option String)
  | callRecorded (caller called : String)
  | constructorRecorded (caller : Option String) (type : String)
  | calledMissing (called : String)
  | parametersMissing (called : String)
  | chainResolved (name : String)
  | selfResolved (method unique : String)
  | notCode (unique : String)
  | resolvedByType (base type unique : String)
  | resolvedByImport (base unique : String)
  | builtinSkipped (name : String)
  | resolvedByModule (name unique : String)
  | globalResolved (name unique : String)
  | externalAdded (unique : String) (caller : Option String)
  | externalKept (unique : String)
  | accessRecorded (accessed accessor : String)
  -- The run
  | debugging
  | firstPass (base : String)
  | secondPass
  | typesAssigned
  | thirdPass
  | combining
  | writing (path : String)
  | finished
  | fileFailed (path message : String)
deriving DecidableEq, Repr

namespace Event

def level : Event → Level
  | .parameterAmbiguous .. | .typeUnknown .. | .classUnresolved .. | .accessAmbiguous ..
  | .calledMissing .. | .parametersMissing .. | .notCode .. => .warning
  | .firstPass .. | .secondPass | .typesAssigned | .thirdPass | .combining | .writing ..
  | .finished => .info
  | .fileFailed .. => .error
  | _ => .debug

/-- A name in single quotes. -/
def marked (name : String) : String := "'" ++ name ++ "'"

/-- A text that may be missing. -/
def orNone (text : Option String) : String := text.getD "None"

def message : Event → String
  | .shortNameMapped short unique =>
    "Mapped short unique name " ++ marked short ++ " to " ++ marked unique
  | .parametersCollected code parameters =>
    "Collected parameters for function " ++ marked code ++ ": " ++ Text.quotedList parameters
  | .classAttributeCollected attr => "Collected class attribute " ++ marked attr
  | .instanceAttributeCollected attr => "Collected instance attribute " ++ marked attr
  | .moduleVisited module => "Visiting module: " ++ module
  | .importProcessed module => "Processing import in module: " ++ module
  | .nameImported name asName => "Imported " ++ name ++ " as " ++ asName
  | .fromImportProcessed module => "Processing from-import in module: " ++ module
  | .nameImportedFrom name module asName =>
    "Imported " ++ name ++ " from " ++ orNone module ++ " as " ++ asName
  | .classVisited name => "Visiting class: " ++ name
  | .codeVisited name => "Visiting code: " ++ name
  | .annotationAssigned type parameter code =>
    "Assigned inferred type " ++ marked type ++ " to parameter " ++ marked parameter ++
      " in code " ++ marked code
  | .variableTypeSet parameter type =>
    "Set variable_types[" ++ marked parameter ++ "] = " ++ marked type
  | .parameterInferred type parameter code =>
    "Inferred type " ++ marked type ++ " for parameter " ++ marked parameter ++ " in code " ++
      marked code
  | .parameterAmbiguous parameter code types type =>
    "Parameter " ++ marked parameter ++ " in code " ++ marked code ++
      " has multiple inferred types: " ++ Text.quotedSet types ++ ". Assigned " ++ marked type
  | .parameterUnknown parameter code =>
    "Parameter " ++ marked parameter ++ " has unknown type in code " ++ marked code
  | .attributeMerged var owner type =>
    "Inferred type for " ++ marked var ++ " in class " ++ marked (orNone owner) ++ ": " ++
      orNone type
  | .variableAssigned var code type =>
    "Inferred type for variable " ++ marked var ++ " in code " ++ marked code ++ ": " ++
      orNone type
  | .attributeAssigned attr owner type =>
    "Inferred type for attribute " ++ marked attr ++ " in class " ++ marked (orNone owner) ++
      ": " ++ orNone type
  | .variableRead var type =>
    "Inferred type for variable " ++ marked var ++ ": " ++ orNone type
  | .attributeRead attr type =>
    "Inferred type for attribute " ++ marked attr ++ ": " ++ orNone type
  | .constantMet shown => "Encountered constant value: " ++ shown
  | .typeUnknown form => "Could not infer type for value: " ++ form
  | .classResolved name unique =>
    "Resolved class name " ++ marked name ++ " to " ++ marked unique
  | .classUnresolved name => "Could not resolve class name " ++ marked name
  | .argumentInferred parameter code type =>
    "Inferred type for parameter " ++ marked parameter ++ " in code " ++ marked code ++ ": " ++ type
  | .argumentUnknown parameter code =>
    "Could not infer type for parameter " ++ marked parameter ++ " in code " ++ marked code
  | .accessAmbiguous var code type =>
    "Parameter " ++ marked var ++ " in code " ++ marked code ++
      " has multiple inferred types. Assigned " ++ marked type
  | .callProcessed called code =>
    "Processing call to " ++ marked (orNone called) ++ " in code " ++ marked (orNone code)
  | .callRecorded caller called =>
    "Recorded call from " ++ marked caller ++ " to " ++ marked called
  | .constructorRecorded caller type =>
    "Recorded call from " ++ marked (orNone caller) ++ " to '__init__' of " ++ marked type
  | .calledMissing called =>
    "Called function " ++ marked called ++ " not found in symbol table"
  | .parametersMissing called => "No parameter names found for function " ++ marked called
  | .chainResolved name => "Resolved attribute chain to " ++ marked name
  | .selfResolved method unique =>
    "Resolved " ++ marked ("self." ++ method) ++ " to " ++ marked unique
  | .notCode unique => "Called element " ++ marked unique ++ " is not a Code instance"
  | .resolvedByType base type unique =>
    "Resolved " ++ marked base ++ " to " ++ marked type ++ " for call " ++ marked unique
  | .resolvedByImport base unique =>
    "Resolved " ++ marked base ++ " via local namespace to " ++ marked unique
  | .builtinSkipped name =>
    "Identified " ++ marked name ++ " as a built-in function. Skipping."
  | .resolvedByModule name unique =>
    "Resolved " ++ marked name ++ " via module context to " ++ marked unique
  | .globalResolved name unique =>
    "Resolved global code name " ++ marked name ++ " to " ++ marked unique
  | .externalAdded unique caller =>
    "Added external code " ++ marked unique ++ " called by " ++ marked (orNone caller)
  | .externalKept unique => "External code " ++ marked unique ++ " added to all_elements"
  | .accessRecorded accessed accessor =>
    "Recorded access to " ++ marked accessed ++ " by " ++ marked accessor
  | .debugging => "Debugging mode active"
  | .firstPass base =>
    "First pass: Collecting definitions from Python files in " ++ marked base
  | .secondPass => "Second pass: Analyzing usages to build parameter_type_map"
  | .typesAssigned => "Assigning inferred types to Code elements based on parameter_type_map"
  | .thirdPass => "Third pass: Analyzing usages to resolve parameter types"
  | .combining => "Post-processing: Combining results from all three passes"
  | .writing path => "Writing output to " ++ marked path
  | .finished => "Finished processing Python code."
  | .fileFailed path message => "Error processing file " ++ path ++ ": " ++ message

/-- The line of an event in a log. -/
def line (event : Event) : String := event.level.label ++ ": " ++ event.message

end Event

end CodeMap
