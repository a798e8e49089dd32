/-
The flags of the command line. A flag has one or two names; none takes a value.
-/

namespace CodeMap.CommandLine

inductive Flag where
  | help
  | version
  | debug
deriving DecidableEq, Repr

namespace Flag

/-- The flags in the order in which the help lists them. -/
def all : List Flag := [.help, .version, .debug]

/-- The names of a flag, a short one first. -/
def names : Flag → List String
  | .help => ["-h", "--help"]
  | .version => ["-v", "--version"]
  | .debug => ["--debug"]

/-- What the help says about a flag. -/
def summary : Flag → String
  | .help => "show this help message and exit"
  | .version => "show the version and exit"
  | .debug => "enable debugging information in logs"

/-- The names of a flag as messages give them. -/
def label (flag : Flag) : String :=
  "/".intercalate flag.names

/-- Every name of a flag, with the flag. -/
def spellings : List (String × Flag) :=
  all.flatMap fun flag => flag.names.map fun name => (name, flag)

/-- The flag of a name. -/
def ofName? (name : String) : Option Flag :=
  spellings.lookup name

end Flag

end CodeMap.CommandLine
