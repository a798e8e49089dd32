/-
Extracting the model of a project.

The files of the project are passed three times: the first pass collects the definitions, the
second and the third analyse the usages. A file that cannot be read, or whose analysis meets a
fault, is reported and the others go on. What was recorded before a fault stays. The order in which
the types of a parameter are gone through is given from outside.
-/

import CodeMap.Definitions
import CodeMap.Path
import CodeMap.Source.Parse
import CodeMap.Text.Utf8
import CodeMap.Usage.Follow

namespace CodeMap

open Source

/-- A file of a project. -/
structure SourceFile where
  /-- The path of the file, starting at the base folder as it was given. -/
  path : String
  /-- The names from the base folder down to the file. -/
  inner : List String
  bytes : List UInt8
deriving DecidableEq, Repr

namespace SourceFile

/-- Why a file has no trees. -/
inductive Fault where
  | encoding (fault : Text.Utf8.Fault)
  | unparsable
deriving DecidableEq, Repr

def Fault.message : Fault → String
  | .encoding fault => fault.message
  | .unparsable => "cannot parse"

/-- The statements of a file. -/
def trees (file : SourceFile) : Except Fault (List Tree) :=
  match Text.Utf8.decode file.bytes with
  | .error fault => .error (.encoding fault)
  | .ok cs =>
    match module? (String.ofList (Text.unifyLineEnds cs)) with
    | some trees => .ok trees
    | none => .error .unparsable

/-- What the names of source files end with. -/
def ending : List Char := ".py".toList

/-- The name of a source file. -/
def isSourceName (name : String) : Bool :=
  ending.isSuffixOf name.toList

/-- The dotted name of the module: the project, the folders, and the file without its ending. -/
def module (file : SourceFile) (project : String) : String :=
  let inner := ".".intercalate file.inner
  project ++ "." ++ String.ofList (inner.toList.take (inner.length - ending.length))

end SourceFile

/-- A project to be extracted. -/
structure Project where
  name : String
  /-- The working folder, from which relative paths start. -/
  folder : String
  files : List SourceFile
  /-- The order in which the types of a parameter are gone through. -/
  typeOrder : Arrangement String := .ascending

/-- A file of a project, its text read. -/
structure ReadFile where
  path : String
  place : Definitions.File
  trees : Except SourceFile.Fault (List Tree)

/-- The context in which a file is analysed. -/
def ReadFile.context (file : ReadFile) (order : Arrangement String) : Usage.Context where
  module := file.place.module
  typeOrder := order

/-- Reads the files of a project. -/
def Project.readFiles (project : Project) : List ReadFile :=
  project.files.map fun file =>
    { path := file.path
      place :=
        { name := Path.name file.path
          path := Path.withSlashes (Path.absolute project.folder file.path)
          module := file.module project.name }
      trees := file.trees }

namespace Extraction

/-- Collects the definitions of a file. -/
def collectFile (model : Model) (file : ReadFile) : Model :=
  match file.trees with
  | .ok trees => Definitions.collect model file.place trees
  | .error fault => model.note (.fileFailed file.path fault.message)

/-- Analyses the usages of a file. Every file starts with no types known. -/
def analyseFile (order : Arrangement String) (model : Model) (file : ReadFile) : Model :=
  match file.trees with
  | .ok trees =>
    match (Usage.analyse (file.context order) trees).run { model := model } with
    | (.ok _, state) => state.model
    | (.error fault, state) => state.model.note (.fileFailed file.path fault.message)
  | .error fault => model.note (.fileFailed file.path fault.message)

/-- The first pass. -/
def collectAll (model : Model) (files : List ReadFile) : Model :=
  files.foldl collectFile model

/-- The second pass, and again the third. -/
def analyseAll (order : Arrangement String) (model : Model) (files : List ReadFile) : Model :=
  files.foldl (analyseFile order) model

end Extraction

/-- The model of files, after all passes. -/
def Model.ofFiles (order : Arrangement String) (files : List ReadFile) : Model :=
  let model := (Extraction.collectAll {} files).note .secondPass
  let model := ((Extraction.analyseAll order model files).note .typesAssigned).note .thirdPass
  (Extraction.analyseAll order model files).note .combining

/-- The model of a project. -/
def Project.model (project : Project) : Model :=
  .ofFiles project.typeOrder project.readFiles

end CodeMap
