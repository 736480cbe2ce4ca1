import TypeShape.Catalog.Report

/-!
# The command line

A command line names a command, `list`, `show` or `catalog`, and options in any order: `--json` and
`--full-paths` after `show` and `catalog`, each at most once, and `--log-format text` or
`--log-format json`, at most once before and once after the command. `show` takes the name of an
entry. What follows `--` is a name, whatever it looks like. `--version`, or an argument that starts
with `-V`, stands in place of a command.

* `Invocation.read?`: what a command line asks for; there is no answer if it is misused.
-/

namespace TypeShape

/-- How the log is written. -/
inductive LogFormat where
  | text
  | json
  deriving DecidableEq

def LogFormat.ofName? (name : String) : Option LogFormat :=
  if name == "text" then some .text else if name == "json" then some .json else none

inductive Command where
  | list
  | show (name : String) (style : ReportStyle)
  | catalog (style : ReportStyle)
  deriving DecidableEq

/-- What a command line asks for. -/
inductive Invocation where
  | version
  | run (format : LogFormat) (command : Command)
  deriving DecidableEq

inductive CommandWord where
  | list
  | show
  | catalog
  deriving DecidableEq

def CommandWord.ofName? (name : String) : Option CommandWord :=
  if name == "list" then some .list
  else if name == "show" then some .show
  else if name == "catalog" then some .catalog
  else none

/-- What the arguments after a command word have given so far. -/
structure Given where
  name : Option String := none
  style : ReportStyle := {}
  format : Option LogFormat := none

namespace Given

/-- Takes a name; only `show` takes one, and only once. -/
def takeName (word : CommandWord) (arg : String) (given : Given) : Option Given :=
  if word = .show ∧ given.name = none then some { given with name := some arg } else none

/-- Takes a log format that has not been given yet. -/
def takeFormat (name : String) (given : Given) : Option Given :=
  match given.format, LogFormat.ofName? name with
  | none, some format => some { given with format := some format }
  | _, _ => none

/-- Takes `--json`; `list` does not, and the others only once. -/
def takeJson (word : CommandWord) (given : Given) : Option Given :=
  if word = .list ∨ given.style.json then none
  else some { given with style := { given.style with json := true } }

/-- Takes `--full-paths`; `list` does not, and the others only once. -/
def takeFullPaths (word : CommandWord) (given : Given) : Option Given :=
  if word = .list ∨ given.style.fullPaths then none
  else some { given with style := { given.style with fullPaths := true } }

def takeNames (word : CommandWord) : List String → Given → Option Given
  | [], given => some given
  | arg :: args, given => (given.takeName word arg).bind (takeNames word args)

end Given

def isOption (arg : String) : Bool :=
  match arg.toList with
  | '-' :: _ :: _ => true
  | _ => false

/-- An argument that asks for the version, in full or in short. -/
def asksVersion (arg : String) : Bool :=
  match arg.toList with
  | '-' :: 'V' :: _ => true
  | _ => arg == "--version"

/-- What follows the equals sign of a log format given in one argument. -/
def inlineFormat? (arg : String) : Option String :=
  let option := "--log-format=".toList
  if option.isPrefixOf arg.toList then some (String.ofList (arg.toList.drop option.length))
  else none

def readGiven (word : CommandWord) : List String → Given → Option Given
  | [], given => some given
  | ["--log-format"], _ => none
  | "--log-format" :: name :: args, given =>
    (given.takeFormat name).bind (readGiven word args)
  | "--" :: args, given => given.takeNames word args
  | "--json" :: args, given => (given.takeJson word).bind (readGiven word args)
  | "--full-paths" :: args, given => (given.takeFullPaths word).bind (readGiven word args)
  | arg :: args, given =>
    match inlineFormat? arg with
    | some name => (given.takeFormat name).bind (readGiven word args)
    | none =>
      if isOption arg then none else (given.takeName word arg).bind (readGiven word args)

def Given.command? (word : CommandWord) (given : Given) : Option Command :=
  match word with
  | .list => some .list
  | .show => given.name.map fun name => .show name given.style
  | .catalog => some (.catalog given.style)

namespace Invocation

/-- Reads the arguments from a command word on; a log format given after the word wins over one
given before. -/
def readCommand? (before : Option LogFormat) (word : CommandWord) (args : List String) :
    Option Invocation :=
  (readGiven word args {}).bind fun given =>
    (given.command? word).map (.run ((given.format.or before).getD .text))

/-- Reads a command line, given the log format read so far. -/
def readFrom? : List String → Option LogFormat → Option Invocation
  | [], _ => none
  | "--log-format" :: name :: args, none =>
    (LogFormat.ofName? name).bind fun format => readFrom? args (some format)
  | arg :: args, before =>
    if asksVersion arg then some .version
    else
      match inlineFormat? arg, before with
      | some name, none => (LogFormat.ofName? name).bind fun format => readFrom? args (some format)
      | some _, some _ => none
      | none, _ => (CommandWord.ofName? arg).bind fun word => readCommand? before word args

def read? (args : List String) : Option Invocation := readFrom? args none

end Invocation

end TypeShape
