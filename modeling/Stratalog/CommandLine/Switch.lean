/-!
# Switches and commands

The named arguments of the program and the commands it knows, with their spellings and with what
each is for. Reading arguments and writing the help both draw on these tables.
-/

namespace Stratalog.CommandLine

/-- The named arguments. -/
inductive Switch where
  | verbose
  | query
  | format
  | output
  | settings
  | threads
  | timeout
  | resolve
  | help
  | version
  deriving DecidableEq, Repr, Inhabited

namespace Switch

/-- The spelling behind two dashes. -/
def word : Switch → String
  | .verbose => "verbose"
  | .query => "query"
  | .format => "format"
  | .output => "output"
  | .settings => "config"
  | .threads => "threads"
  | .timeout => "timeout-ms"
  | .resolve => "resolve"
  | .help => "help"
  | .version => "version"

/-- The spelling behind one dash. -/
def letter? : Switch → Option Char
  | .verbose => some 'v'
  | .query => some 'q'
  | .format => some 'f'
  | .output => some 'o'
  | .settings => some 'c'
  | .threads => some 'j'
  | .timeout | .resolve => none
  | .help => some 'h'
  | .version => some 'V'

/-- What the value of a switch is called, where a switch takes one. -/
def valueName? : Switch → Option String
  | .query => some "QUERY"
  | .format => some "FORMAT"
  | .output => some "OUTPUT"
  | .settings => some "CONFIG"
  | .threads => some "THREADS"
  | .timeout => some "TIMEOUT_MS"
  | .verbose | .resolve | .help | .version => none

/-- Whether a switch takes a value. -/
def takesValue (switch : Switch) : Bool :=
  switch.valueName?.isSome

/-- What a switch is for. -/
def purpose : Switch → String
  | .verbose => "Log evaluation progress (overridden by RUST_LOG)"
  | .query => "Run only the named query"
  | .format => "Serialize results instead of printing a summary [possible values: json, yaml]"
  | .output => "Write results to a file"
  | .settings => "Evaluation config (YAML or JSON)"
  | .threads => "Worker threads"
  | .timeout => "Per-query deadline in milliseconds"
  | .resolve => "Expand entity values to label, kind and location"
  | .help => "Print help"
  | .version => "Print version"

/-- The spelling of a switch in accounts of it. -/
def text (switch : Switch) : String :=
  "--" ++ switch.word ++ ((switch.valueName?.map fun name => " <" ++ name ++ ">").getD "")

/-- The switch of a list that a word spells. -/
def ofWord? (switches : List Switch) (word : String) : Option Switch :=
  switches.find? fun switch => switch.word == word

/-- The switch of a list that a letter spells. -/
def ofLetter? (switches : List Switch) (letter : Char) : Option Switch :=
  switches.find? fun switch => switch.letter? == some letter

end Switch

/-- The commands. -/
inductive Verb where
  | run
  | check
  | stats
  deriving DecidableEq, Repr, Inhabited

/-- An argument that is known by its position. -/
structure Operand where
  name : String
  purpose : String := ""
  deriving Repr, Inhabited

namespace Verb

/-- All commands. -/
def all : List Verb := [.run, .check, .stats]

/-- The spelling of a command. -/
def word : Verb → String
  | .run => "run"
  | .check => "check"
  | .stats => "stats"

/-- The command that a word spells. -/
def ofWord? (word : String) : Option Verb :=
  all.find? fun verb => verb.word == word

/-- What a command is for. -/
def purpose : Verb → String
  | .run => "Evaluate one query or every query of a plan"
  | .check => "Validate a plan and print its strata"
  | .stats => "Describe a fact store"

/-- The operands of a command; none may be left out. -/
def operands : Verb → List Operand
  | .run =>
    [{ name := "STORE", purpose := "Fact store: JSON document or database directory" },
      { name := "PLAN", purpose := "Compiled plan (JSON)" }]
  | .check => [{ name := "STORE" }, { name := "PLAN" }]
  | .stats => [{ name := "STORE" }]

/-- The switches of a command. -/
def switches : Verb → List Switch
  | .run =>
    [.query, .verbose, .format, .output, .settings, .threads, .timeout, .resolve, .help]
  | .check | .stats => [.verbose, .help]

end Verb

/-- The switches that may stand before the command. -/
def globalSwitches : List Switch := [.verbose, .help, .version]

end Stratalog.CommandLine
