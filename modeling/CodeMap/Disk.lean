/-
Files in memory, and the program run on them.

A place is the list of names from the root down. A disk lists its folders and its files by their
places. A path is followed name by name, and every name but the last must be that of a folder. The
order in which a walk meets the files of a folder is a condition of the run, as it is not the disk
but the system that settles it.
-/

import CodeMap.Program

namespace CodeMap

/-- The names from the root down to a file or a folder. -/
abbrev Place := List String

structure Disk where
  folders : List Place := [[]]
  files : List (Place × List UInt8) := []
deriving Repr

namespace Disk

def isFolder (disk : Disk) (place : Place) : Bool :=
  disk.folders.contains place

def file? (disk : Disk) (place : Place) : Option (List UInt8) :=
  disk.files.lookup place

/-- The place and the places of the folders around it. -/
def upwards (place : Place) : List Place :=
  (List.range (place.length + 1)).map place.take

/-- Makes a folder and the folders around it. -/
def addFolder (disk : Disk) (place : Place) : Disk :=
  { disk with folders := disk.folders ++ (upwards place).filter (!disk.isFolder ·) }

/-- Puts bytes into a file, and makes the folders around it. -/
def addFile (disk : Disk) (place : Place) (bytes : List UInt8) : Disk :=
  let disk := disk.addFolder place.dropLast
  { disk with files := disk.files.filter (·.1 ≠ place) ++ [(place, bytes)] }

/-! ### Paths -/

/-- What stops a path. -/
inductive Obstacle where
  | missing
  | notFolder
deriving DecidableEq, Repr

/-- The place one step further, if the place in hand is a folder. -/
def advance (disk : Disk) (place : Place) (part : String) : Except Obstacle Place :=
  if disk.isFolder place then
    if part = "" || part = "." then .ok place
    else if part = ".." then .ok place.dropLast
    else .ok (place ++ [part])
  else if (disk.file? place).isSome then .error .notFolder
  else .error .missing

/-- The place that a path leads to from a folder. Nothing needs to be there. -/
def locate (disk : Disk) (folder : Place) (path : String) : Except Obstacle Place :=
  if path = "" then .error .missing
  else
    (Path.parts path).foldlM disk.advance (if Path.lead path = "" then folder else [])

/-- The place stands before another one in a walk: the files of a folder come before the folders
in it. -/
def walkBefore : Place → Place → Bool
  | [a], [b] => a ≤ b
  | [_], _ :: _ :: _ => true
  | _ :: _ :: _, [_] => false
  | a :: as, b :: bs => a < b || (a = b && walkBefore as bs)
  | [], _ => true
  | _, [] => false

/-- The order of a walk that takes names in ascending order. -/
def walkOrder : Arrangement (Place × List UInt8) :=
  .sorted fun a b => walkBefore a.1 b.1

/-- The files in a folder and the folders in it, by their places from there. -/
def walk (disk : Disk) (order : Arrangement (Place × List UInt8)) (folder : Place) :
    List (Place × List UInt8) :=
  order.arrange <| disk.files.filterMap fun (place, bytes) =>
    if folder.isPrefixOf place then some (place.drop folder.length, bytes) else none

/-- The source files below the base folder `path`. A path that leads to no folder has none. -/
def sources (disk : Disk) (order : Arrangement (Place × List UInt8)) (folder : Place)
    (path : String) : List SourceFile :=
  match disk.locate folder path with
  | .error _ => []
  | .ok place =>
    if disk.isFolder place then
      (disk.walk order place).filterMap fun (inner, bytes) =>
        if SourceFile.isSourceName (inner.getLastD "") then
          some { path := inner.foldl Path.join path, inner := inner, bytes := bytes }
        else none
    else []

end Disk

/-! ### The program on a disk -/

/-- A disk with what the user sees and types. -/
structure Desk where
  disk : Disk
  /-- The rest of the standard input. -/
  input : List Char := []
  output : String := ""
  complaints : String := ""
  /-- The log, once it is open. -/
  log : Option (Array Event) := none

namespace Desk

/-- A run of the program. What it has done before a fault stays done. -/
abbrev Run := ExceptT Program.Fault (StateM Desk)

/-- The conditions of a run. -/
structure Setting where
  columns : Nat := 80
  folder : Place
  /-- The time, as names of files give it. -/
  stamp : String
  /-- The order in which a walk meets files. -/
  fileOrder : Arrangement (Place × List UInt8) := Disk.walkOrder
  /-- The order in which the types of a parameter are gone through. -/
  typeOrder : Arrangement String := .ascending

/-- The absolute path of a place. -/
def pathOf (place : Place) : String :=
  "/" ++ "/".intercalate place

/-- Takes the next line of the input. -/
def takeLine : Run (Option String) := do
  let desk ← get
  if desk.input.isEmpty then return none
  set { desk with input := (desk.input.dropWhile (· ≠ '\n')).drop 1 }
  return some (String.ofList (desk.input.takeWhile (· ≠ '\n')))

/-- The path holds a character that no file has in its name. -/
def holdsZero (path : String) : Bool :=
  path.toList.contains (Char.ofNat 0)

/-- The place of a file to be written. -/
def placeToWrite (folder : Place) (path : String) : Run Place := do
  let disk := (← get).disk
  if holdsZero path then throw (.file .zeroCharacter)
  match disk.locate folder path with
  | .error .missing => throw (.file (.missing path))
  | .error .notFolder => throw (.file (.notFolder path))
  | .ok place =>
    if disk.isFolder place then throw (.file (.isFolder path))
    return place

/-- Writes a file. -/
def writeFile (folder : Place) (path text : String) : Run Unit := do
  let place ← placeToWrite folder path
  modify fun desk => { desk with disk := desk.disk.addFile place text.toUTF8.toList }

/-- Opens the log. -/
def openLog (folder : Place) (path : String) : Run Unit := do
  let _ ← placeToWrite folder path
  modify fun desk => { desk with log := some #[] }

/-- The bytes of a file, if it exists. -/
def readFile? (folder : Place) (path : String) : Run (Option (List UInt8)) := do
  let disk := (← get).disk
  match disk.locate folder path with
  | .error _ => return none
  | .ok place =>
    if disk.isFolder place then throw (.file (.isFolder path))
    return disk.file? place

/-- The source files below a base folder. -/
def listSources (setting : Setting) (path : String) : Run (List SourceFile) := do
  if holdsZero path then throw (.file .zeroCharacter)
  return (← get).disk.sources setting.fileOrder setting.folder path

/-- The world of a desk. -/
def world (setting : Setting) : Program.World Run where
  columns := setting.columns
  folder := pathOf setting.folder
  typeOrder := setting.typeOrder
  print := fun text => modify fun desk => { desk with output := desk.output ++ text }
  complain := fun text => modify fun desk => { desk with complaints := desk.complaints ++ text }
  readLine := takeLine
  stamp := return setting.stamp
  openLog := openLog setting.folder
  log := fun event => modify fun desk => { desk with log := desk.log.map (·.push event) }
  read? := readFile? setting.folder
  sources := listSources setting
  write := writeFile setting.folder

/-- Runs the program on a desk. -/
def run (setting : Setting) (arguments : List String) (desk : Desk) :
    Except Program.Fault Nat × Desk :=
  (Program.run (world setting) arguments).run desk

end Desk

end CodeMap
