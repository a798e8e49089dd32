/-
The program: what it does with its command line, its settings and a project.

It is written over an interface of the world around it, so that it runs on the real files and on
files in memory alike.
-/

import CodeMap.CommandLine.Help
import CodeMap.Export
import CodeMap.Extraction
import CodeMap.Settings

namespace CodeMap

/-- Why files cannot be reached. The path is the one that was asked for. -/
inductive FileFault where
  | missing (path : String)
  | notFolder (path : String)
  | isFolder (path : String)
  | zeroCharacter
deriving DecidableEq, Repr

def FileFault.message : FileFault → String
  | .missing path => "[Errno 2] No such file or directory: " ++ Text.quoted path
  | .notFolder path => "[Errno 20] Not a directory: " ++ Text.quoted path
  | .isFolder path => "[Errno 21] Is a directory: " ++ Text.quoted path
  | .zeroCharacter => "embedded null byte"

namespace Program

/-- Why the program breaks off. -/
inductive Fault where
  | settings (fault : Settings.Fault)
  | noInput
  | file (fault : FileFault)
deriving DecidableEq, Repr

def Fault.message : Fault → String
  | .settings fault => fault.message
  | .noInput => "EOF when reading a line"
  | .file fault => fault.message

/-- What the program asks of the world around it. -/
structure World (m : Type → Type) where
  /-- The width of the terminal, zero if it is not known. -/
  columns : Nat
  /-- The absolute path of the working folder. -/
  folder : String
  /-- The order in which the types of a parameter are gone through. -/
  typeOrder : Arrangement String
  /-- Writes on the standard output. -/
  print : String → m Unit
  /-- Writes on the standard error. -/
  complain : String → m Unit
  /-- The next line of the standard input, without its end. -/
  readLine : m (Option String)
  /-- The time, as names of files give it. -/
  stamp : m String
  /-- Makes the log file of this absolute path empty. -/
  openLog : String → m Unit
  /-- Adds an event to the log. -/
  log : Event → m Unit
  /-- The bytes of a file, if it exists. -/
  read? : String → m (Option (List UInt8))
  /-- The source files in a folder and the folders in it, in the order in which they are passed. -/
  sources : String → m (List SourceFile)
  /-- Writes a text to a file. -/
  write : String → String → m Unit

def logName : String := ".python2somix.log"

def settingsName : String := "config_python2somix.txt"

def prompt : String := "Enter the base folder path: "

/-- The name of a project: the last part of the path of its base folder. -/
def projectName (base : String) : String :=
  Path.name (Path.normal base)

/-- The path of the model file. -/
def outputPath (settings : Table String) (base stamp : String) : String :=
  let name := projectName base ++ "_" ++ stamp ++ ".mse"
  match settings.get? "output_path" with
  | some folder => Path.join folder name
  | none => name

/-- The least level of events that are logged. -/
def leastLevel (debug : Bool) : Level :=
  if debug then .debug else .info

variable {m : Type → Type} [Monad m] [MonadExceptOf Fault m]

/-- Logs an event, if it is urgent enough. -/
def logEvent (world : World m) (least : Level) (event : Event) : m Unit :=
  if least.rank ≤ event.level.rank then world.log event else pure ()

/-- The settings that apply. -/
def readSettings (world : World m) : m (Table String) := do
  match ← world.read? settingsName with
  | none => return ∅
  | some bytes =>
    match Settings.ofBytes bytes with
    | .ok settings => return settings
    | .error fault => throw (.settings fault)

/-- The base folder: from the settings, or else from the user. -/
def askBase (world : World m) (settings : Table String) : m String := do
  match settings.get? "base_path" with
  | some base => return base
  | none =>
    world.print prompt
    match ← world.readLine with
    | some line => return line
    | none => throw .noInput

/-- Extracts the model of a project and writes it. -/
def extract (world : World m) (debug : Bool) : m Unit := do
  let log := logEvent world (leastLevel debug)
  world.openLog (Path.absolute world.folder logName)
  log .debugging
  let settings ← readSettings world
  let base ← askBase world settings
  let path := outputPath settings base (← world.stamp)
  log (.firstPass base)
  let files ← world.sources base
  let model := Project.model
    { name := projectName base
      folder := world.folder
      files := files
      typeOrder := world.typeOrder }
  model.journal.toList.forM log
  log (.writing path)
  world.write path model.render
  log .finished

/-- Runs the program and gives its exit code. -/
def run (world : World m) (arguments : List String) : m Nat := do
  let width := CommandLine.textWidth world.columns
  match CommandLine.Invocation.ofArguments arguments with
  | .error misuse =>
    world.complain (CommandLine.complaint width misuse)
    return 2
  | .ok .help =>
    world.print (CommandLine.help width)
    return 0
  | .ok .version =>
    world.print CommandLine.versionText
    return 0
  | .ok (.extract debug) =>
    extract world debug
    return 0

end Program

end CodeMap
