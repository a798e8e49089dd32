/-
What a command line asks for.

Each argument is read by itself: it names a flag in full, names a long flag by the start of its
name, or joins short flags. Everything else is not recognised, and so is everything from a double
hyphen on. All arguments are read before any of them takes effect. They take effect in their
order: the help is given at once, also if arguments that follow are wrong.
-/

import CodeMap.CommandLine.Flag
import CodeMap.Text.Quoted

namespace CodeMap.CommandLine

/-- What is wrong with a command line. -/
inductive Misuse where
  | ambiguous (argument : String) (names : List String)
  | unwantedValue (flag : Flag) (value : String)
  | unrecognised (arguments : List String)
deriving DecidableEq, Repr

def Misuse.message : Misuse → String
  | .ambiguous argument names =>
    "ambiguous option: " ++ argument ++ " could match " ++ ", ".intercalate names
  | .unwantedValue flag value =>
    "argument " ++ flag.label ++ ": ignored explicit argument " ++ Text.quoted value
  | .unrecognised arguments => "unrecognized arguments: " ++ " ".intercalate arguments

/-- An argument as it is read. -/
inductive Argument where
  | flagged (flag : Flag) (isLong : Bool) (value : Option String)
  | other (text : String)
deriving DecidableEq, Repr

namespace Argument

/-- The text in front of the first equals sign and the text behind it. -/
def splitValue (text : List Char) : List Char × Option (List Char) :=
  match text.dropWhile (· ≠ '=') with
  | [] => (text, none)
  | _ :: value => (text.takeWhile (· ≠ '='), some value)

/-- The name has a double hyphen. -/
def isLongName (name : List Char) : Bool :=
  ['-', '-'].isPrefixOf name

/-- Reads an argument that starts with two hyphens: the start of one name is enough. -/
def ofLong (text : List Char) : Except Misuse Argument :=
  let (start, value) := splitValue text
  match Flag.spellings.filter fun spelling => start.isPrefixOf spelling.1.toList with
  | [] => .ok (.other (String.ofList text))
  | [(_, flag)] => .ok (.flagged flag true (value.map String.ofList))
  | several => .error (.ambiguous (String.ofList text) (several.map Prod.fst))

/-- Reads an argument that starts with one hyphen: a short name, and what is joined to it. -/
def ofShort (text : List Char) : Argument :=
  match Flag.ofName? (String.ofList (text.take 2)) with
  | some flag => .flagged flag false (some (String.ofList (text.drop 2)))
  | none => .other (String.ofList text)

/-- Reads an argument. -/
def read (text : String) : Except Misuse Argument :=
  let cs := text.toList
  let (name, value) := splitValue cs
  match Flag.ofName? text, Flag.ofName? (String.ofList name), value with
  | some flag, _, _ => .ok (.flagged flag (isLongName cs) none)
  | none, some flag, some value => .ok (.flagged flag (isLongName name) (some (String.ofList value)))
  | none, _, _ =>
    if isLongName cs then ofLong cs
    else if ['-'].isPrefixOf cs then .ok (ofShort cs)
    else .ok (.other text)

end Argument

/-- Reads arguments up to a double hyphen, from which on nothing is a flag. -/
def readArguments : List String → Except Misuse (List Argument)
  | [] => .ok []
  | text :: rest =>
    if text = "--" then .ok ((text :: rest).map .other)
    else do
      let argument ← Argument.read text
      return argument :: (← readArguments rest)

/-- The short flags that are joined to `flag`. -/
def joinedFlags (flag : Flag) : List Char → Except Misuse (List Flag)
  | [] => .ok [flag]
  | c :: rest =>
    match Flag.ofName? (String.ofList ['-', c]) with
    | some next => do return flag :: (← joinedFlags next rest)
    | none => .error (.unwantedValue flag (String.ofList (c :: rest)))

/-- The flags that an argument gives. -/
def flagsOf (flag : Flag) (isLong : Bool) : Option String → Except Misuse (List Flag)
  | none => .ok [flag]
  | some value =>
    if isLong || value = "" then .error (.unwantedValue flag value)
    else joinedFlags flag value.toList

/-- What a command line asks for. -/
inductive Invocation where
  | help
  | version
  | extract (debug : Bool)
deriving DecidableEq, Repr

/-- Lets the arguments take effect: `seen` are the flags so far and `others` the arguments so far
that were not recognised, both with the last one first. -/
def takeEffect (seen : List Flag) (others : List String) :
    List Argument → Except Misuse Invocation
  | [] =>
    if others ≠ [] then .error (.unrecognised others.reverse)
    else if seen.contains .version then .ok .version
    else .ok (.extract (seen.contains .debug))
  | .other text :: rest => takeEffect seen (text :: others) rest
  | .flagged flag isLong value :: rest => do
    let flags ← flagsOf flag isLong value
    if flags.contains .help then return .help
    takeEffect (flags.reverse ++ seen) others rest

/-- What the arguments ask for. -/
def Invocation.ofArguments (arguments : List String) : Except Misuse Invocation := do
  takeEffect [] [] (← readArguments arguments)

end CodeMap.CommandLine
