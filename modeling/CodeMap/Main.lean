/-
The command line program on real files.
-/

import CodeMap.Program
import Std.Time

namespace CodeMap

/-- A run of the program on real files. -/
abbrev RealRun := ExceptT Program.Fault IO

/-- The time now, in a format. -/
def timeNow (format : String) : IO String := do
  return (← Std.Time.PlainDateTime.now).format format

/-- The width of the terminal, if the environment gives it. -/
def terminalColumns : IO Nat := do
  return ((← IO.getEnv "COLUMNS").bind String.toNat?).getD 0

/-- The next line of the standard input, without its end. -/
def inputLine : IO (Option String) := do
  let line ← (← IO.getStdin).getLine
  if line.isEmpty then return none
  return some ((line.dropSuffix "\n").toString)

/-- The names in a folder in ascending order: those of files, then those of folders. A folder that
cannot be read has none. -/
def folderEntries (path : String) : IO (List String × List String) := do
  let folder := (← IO.currentDir) / path
  let entries ← try folder.readDir catch _ => pure #[]
  let names := (entries.map (·.fileName)).toList.mergeSort
  let folders ← names.filterM fun (name : String) => (folder / name).isDir
  return (names.filter fun name => !folders.contains name, folders)

/-- The source files in a folder and the folders in it. -/
partial def folderSources (path : String) (inner : List String) : IO (List SourceFile) := do
  let (files, folders) ← folderEntries path
  let mut found := #[]
  for name in files.filter SourceFile.isSourceName do
    let path := Path.join path name
    found := found.push
      { path := path, inner := inner ++ [name], bytes := (← IO.FS.readBinFile path).toList }
  for name in folders do
    found := found ++ (← folderSources (Path.join path name) (inner ++ [name]))
  return found.toList

/-- The bytes of a file, if it exists. -/
def fileBytes? (path : String) : RealRun (Option (List UInt8)) := do
  let file := (← IO.currentDir) / path
  if ← file.isDir then throw (.file (.isFolder path))
  if ← file.pathExists then return some (← IO.FS.readBinFile path).toList
  return none

/-- Writes a text to a file. -/
def writeText (path text : String) : RealRun Unit := do
  if ← ((← IO.currentDir) / path).isDir then throw (.file (.isFolder path))
  match ← (IO.FS.writeFile path text).toBaseIO with
  | .ok _ => return
  | .error _ => throw (.file (.missing path))

/-- Adds the line of an event to the log. -/
def logLine (event : Event) : IO Unit := do
  let log ← IO.FS.Handle.mk Program.logName .append
  log.putStrLn ((← timeNow "uuuu-MM-dd HH:mm:ss,SSS") ++ " - " ++ event.level.label ++ " - " ++
    event.message)

/-- The world of real files. -/
def realWorld (columns : Nat) (folder : String) : Program.World RealRun where
  columns := columns
  folder := folder
  typeOrder := .ascending
  print := fun text => do
    IO.print text
    (← IO.getStdout).flush
  complain := fun text => IO.eprint text
  readLine := inputLine
  stamp := timeNow "uuuuMMdd_HHmmss"
  openLog := fun path => writeText path ""
  log := fun event => logLine event
  read? := fileBytes?
  sources := fun path => if path = "" then return [] else folderSources path []
  write := writeText

end CodeMap

/-- Runs the program. A fault ends it with the exit code one. -/
def main (arguments : List String) : IO UInt32 := do
  let world := CodeMap.realWorld (← CodeMap.terminalColumns) (← IO.currentDir).toString
  match ← (CodeMap.Program.run world arguments).run with
  | .ok code => return code.toUInt32
  | .error fault =>
    IO.eprintln fault.message
    return 1
