/-
The texts of the command line: usage, help, version and the report of a misuse. They are laid out
for a terminal of a given width, of which two columns stay free.
-/

import CodeMap.CommandLine.Invocation
import CodeMap.Text.Wrap

namespace CodeMap.CommandLine

/-- The name of the program. -/
def programName : String := "python2somix.py"

/-- What the program prints for its version. -/
def versionText : String := programName ++ " Version 0.1.2\n"

/-- The description, one paragraph a line. -/
def description : List String :=
  ["Extract Python code structure and usages to SOMIX format.",
    "",
    "Enter path to the base folder containing Python source code files when prompted.    ",
    "The output .mse file will be saved in the same folder as the script by default.",
    "Place a 'config_python2somix.txt' file in the same folder as the script to specify custom " ++
      "paths for base folder and output file.",
    "The config file should contain the following lines: ",
    "base_path = /path/to/base/folder",
    "output_path = /path/to/output/folder",
    "Use Moose2Model to visualize the .mse file.                                   "]

/-- As many blanks. -/
def blanks (count : Nat) : String :=
  String.ofList (List.replicate count ' ')

/-- The text with blanks behind it up to `width`. -/
def padded (width : Nat) (text : String) : String :=
  text ++ blanks (width - text.length)

/-! ### Usage -/

def usageLead : String := "usage: "

/-- The flags as the usage gives them. -/
def usageParts : List String :=
  Flag.all.map fun flag => "[" ++ flag.names.headD "" ++ "]"

/-- Puts parts into lines. A line after the first starts at column `start`; `column` is where the
next part of the line in hand `line` would stand. -/
def usageLines (width start : Nat) (column : Nat) (line : List String) :
    List String → List (List String)
  | [] => if line.isEmpty then [] else [line]
  | part :: rest =>
    if width < column + part.length && !line.isEmpty then
      line :: usageLines width start (start + part.length + 1) [part] rest
    else usageLines width start (column + part.length + 1) (line ++ [part]) rest

/-- The usage. If it does not fit into one line, the flags stand behind the name of the program
or, if that takes more than three quarters of the width, below it. -/
def usage (width : Nat) : String :=
  let parts := programName :: usageParts
  let whole := usageLead ++ " ".intercalate parts
  let text :=
    if whole.length ≤ width then whole
    else
      let lead := usageLead.length
      let named := lead + programName.length
      if 4 * named ≤ 3 * width then
        let lines := usageLines width (named + 1) lead [] parts
        usageLead ++ ("\n" ++ blanks (named + 1)).intercalate (lines.map (" ".intercalate ·))
      else
        let lines := usageLines width lead lead [] usageParts
        usageLead ++
          ("\n" ++ blanks lead).intercalate (programName :: lines.map (" ".intercalate ·))
  text ++ "\n"

/-! ### Help -/

/-- The least width for wrapped text. -/
def leastWidth : Nat := 11

/-- How far the flags are indented. -/
def indentation : Nat := 2

/-- The names of a flag as the help gives them. -/
def heading (flag : Flag) : String :=
  ", ".intercalate flag.names

/-- The column at which the summaries of flags stand. -/
def summaryColumn (width : Nat) : Nat :=
  let widest := (Flag.all.map fun flag => (heading flag).length).foldl max 0
  min (indentation + widest + 2) (min 24 (max (width - 20) (2 * indentation)))

/-- The lines of a flag in the help. A heading that leaves no room stands alone. -/
def flagHelp (width : Nat) (flag : Flag) : String :=
  let column := summaryColumn width
  let room := column - indentation - 2
  let summary :=
    (Text.wrap (max (width - column) leastWidth) flag.summary.toList).map String.ofList
  let body := ("\n" ++ blanks column).intercalate summary ++ "\n"
  if (heading flag).length ≤ room then
    blanks indentation ++ padded room (heading flag) ++ "  " ++ body
  else blanks indentation ++ heading flag ++ "\n" ++ blanks column ++ body

/-- The help. -/
def help (width : Nat) : String :=
  usage width ++ "\n" ++
    "\n".intercalate (description.map (Text.filled (max width leastWidth))) ++ "\n\n" ++
    "options:\n" ++ String.join (Flag.all.map (flagHelp width))

/-- The report of a misuse. -/
def complaint (width : Nat) (misuse : Misuse) : String :=
  usage width ++ programName ++ ": error: " ++ misuse.message ++ "\n"

/-- The width of the texts on a terminal. A terminal of unknown width counts as 80 columns
wide. -/
def textWidth (columns : Nat) : Nat :=
  (if columns = 0 then 80 else columns) - 2

end CodeMap.CommandLine
