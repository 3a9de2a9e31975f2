import Stratalog.CommandLine.Arguments

/-!
# Help

What the program and its commands are for and how they are called, as text. Lists have two columns;
the second stands two blanks right of the longest entry of the first.
-/

namespace Stratalog.CommandLine

/-- The name of the program. -/
def programName : String := "qleval"

/-- The name and the version of the program. -/
def versionText : String := programName ++ " 0.3.0"

/-- What the program is for. -/
def programPurpose : String := "Stratified query evaluation over extracted program facts"

/-- The purpose of asking for help by a command. -/
def helpPurpose : String := "Print this message or the help of the given subcommand(s)"

/-- A text with blanks after it up to a width. -/
def padded (width : Nat) (text : String) : String :=
  text ++ "".pushn ' ' (width - text.length)

/-- Entries in two columns. -/
def columnLines (entries : List (String × String)) : List String :=
  let width := (entries.map fun entry => entry.1.length).foldl max 0
  entries.map fun (name, purpose) => "  " ++ padded width name ++ "  " ++ purpose

/-- A list under a title. -/
def listing (title : String) (entries : List (String × String)) : List String :=
  if entries.isEmpty then [] else ["", title ++ ":"] ++ columnLines entries

/-- An operand as it is written in help. -/
def Operand.text (operand : Operand) : String :=
  "<" ++ operand.name ++ ">"

/-- The spellings of a switch. -/
def Switch.spellings (switch : Switch) : String :=
  (match switch.letter? with
    | some letter => "-" ++ letter.toString ++ ", "
    | none => "    ") ++ switch.text

/-- Help on a command of a name. -/
def helpLines (purpose usage : String) (commands operands : List (String × String))
    (switches : List Switch) : List String :=
  [purpose, "", "Usage: " ++ usage] ++ listing "Commands" commands ++
    listing "Arguments" operands ++
    listing "Options" (switches.map fun switch => (switch.spellings, switch.purpose))

/-- Help on a topic. -/
def Topic.lines : Topic → List String
  | .program =>
    helpLines programPurpose (programName ++ " [OPTIONS] <COMMAND>")
      (Verb.all.map (fun verb => (verb.word, verb.purpose)) ++ [("help", helpPurpose)]) []
      globalSwitches
  | .verb command =>
    let operands := command.operands.map fun operand => (operand.text, operand.purpose)
    helpLines command.purpose
      (" ".intercalate ([programName, command.word, "[OPTIONS]"] ++ operands.map Prod.fst)) []
      operands command.switches
  | .help =>
    helpLines helpPurpose (programName ++ " help [COMMAND]...") []
      [("[COMMAND]...", "Print help for the subcommand(s)")] []

end Stratalog.CommandLine
