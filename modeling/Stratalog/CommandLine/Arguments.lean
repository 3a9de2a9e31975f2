import Stratalog.CommandLine.Switch
import Stratalog.Input.Settings
import Stratalog.Report.Format

/-!
# Arguments

Reading the arguments of the program. They are read from left to right, and the first that asks
for help or cannot be understood settles what is done. A value may stand in the argument of its
switch, with or without an equals sign, or in the argument after it; there it may not begin with a
dash, a lone dash apart. After two dashes every argument is an operand.
-/

namespace Stratalog.CommandLine

/-- Why arguments cannot be understood. -/
inductive Misuse where
  | noCommand
  | unknownCommand (word : String)
  | unknownSwitch (text : String)
  | missingValue (switch : Switch)
  | needlessValue (switch : Switch)
  | repeated (switch : Switch)
  | invalidValue (switch : Switch) (value : String)
  | emptyOperand
  | extraOperand (text : String)
  | missingOperands (verb : Verb)
  deriving DecidableEq, Repr, Inhabited

/-- The wording of a misuse. -/
def Misuse.text : Misuse → String
  | .noCommand => "a command is required"
  | .unknownCommand word => "unrecognized command '" ++ word ++ "'"
  | .unknownSwitch text => "unexpected argument '" ++ text ++ "' found"
  | .missingValue switch => "a value is required for '" ++ switch.text ++ "' but none was supplied"
  | .needlessValue switch => "unexpected value for '" ++ switch.text ++ "' found"
  | .repeated switch => "the argument '" ++ switch.text ++ "' cannot be used multiple times"
  | .invalidValue switch value =>
    "invalid value '" ++ value ++ "' for '" ++ switch.text ++ "'"
  | .emptyOperand => "a value is required but none was supplied"
  | .extraOperand text => "unexpected argument '" ++ text ++ "' found"
  | .missingOperands verb =>
    "required arguments of '" ++ verb.word ++ "': " ++
      " ".intercalate (verb.operands.map fun operand => "<" ++ operand.name ++ ">")

/-- What an argument, or a part of it, is. A switch without a value has an empty one. -/
inductive Item where
  | operand (text : String)
  | switch (switch : Switch) (value : String)
  | misuse (misuse : Misuse)
  deriving DecidableEq, Repr, Inhabited

/-- Items, and the switch that awaits its value in the next argument. -/
abbrev Reading := List Item × Option Switch

/-- Whether an argument is spelt as a switch. -/
def isSwitch (argument : String) : Bool :=
  argument.startsWith "-" && argument != "-"

/-- Read what follows two dashes. -/
def readWord (switches : List Switch) (argument : List Char) : Reading :=
  let word := String.ofList (argument.takeWhile (· != '='))
  match Switch.ofWord? switches word, argument.dropWhile (· != '=') with
  | none, _ => ([.misuse (.unknownSwitch ("--" ++ word))], none)
  | some switch, [] => if switch.takesValue then ([], some switch) else ([.switch switch ""], none)
  | some switch, _ :: value =>
    if switch.takesValue then ([.switch switch (String.ofList value)], none)
    else ([.misuse (.needlessValue switch)], none)

/-- Read the letters behind one dash. What follows the letter of a switch that takes a value is
that value. -/
def readLetters (switches : List Switch) : List Char → Reading
  | [] => ([], none)
  | letter :: rest =>
    match Switch.ofLetter? switches letter with
    | none => ([.misuse (.unknownSwitch ("-" ++ letter.toString))], none)
    | some switch =>
      if switch.takesValue then
        match rest with
        | [] => ([], some switch)
        | '=' :: value | value => ([.switch switch (String.ofList value)], none)
      else
        let (items, awaiting) := readLetters switches rest
        (.switch switch "" :: items, awaiting)

/-- Read an argument that is spelt as a switch. -/
def readSwitch (switches : List Switch) (argument : String) : Reading :=
  match argument.toList with
  | '-' :: '-' :: word => readWord switches word
  | _ :: letters => readLetters switches letters
  | [] => ([], none)

/-- Read arguments. -/
def readItems (switches : List Switch) : List String → List Item
  | [] => []
  | "--" :: rest => rest.map .operand
  | argument :: rest =>
    if isSwitch argument then
      let (items, awaiting) := readSwitch switches argument
      items ++
        match awaiting with
        | none => readItems switches rest
        | some switch =>
          match rest with
          | [] => [.misuse (.missingValue switch)]
          | value :: rest =>
            if isSwitch value then [.misuse (.missingValue switch)]
            else .switch switch value :: readItems switches rest
    else .operand argument :: readItems switches rest

/-- The format that a value names. -/
def format? : String → Option ReportFormat
  | "json" => some .json
  | "yaml" => some .yaml
  | _ => none

/-- The number that a value spells. -/
def number? (value : String) : Option Nat :=
  Settings.decimal? value.toList

/-- Whether a switch may have a value. -/
def Switch.accepts : Switch → String → Bool
  | .format, value => (format? value).isSome
  | .output, value | .settings, value => value != ""
  | .threads, value | .timeout, value => (number? value).isSome
  | _, _ => true

/-- What settles the matter before all arguments are read. -/
inductive Stop where
  | help
  | version
  | misuse (misuse : Misuse)
  deriving DecidableEq, Repr, Inhabited

/-- The operands and switches read so far. -/
structure Draft where
  operands : List String := []
  switches : List (Switch × String) := []
  deriving Repr, Inhabited

namespace Draft

/-- The value of a switch, if it was given. -/
def value? (draft : Draft) (switch : Switch) : Option String :=
  draft.switches.lookup switch

/-- Take one more item, where there may be a number of operands. -/
def take (limit : Nat) (draft : Draft) : Item → Except Stop Draft
  | .misuse reason => .error (.misuse reason)
  | .operand text =>
    if limit ≤ draft.operands.length then .error (.misuse (.extraOperand text))
    else if text = "" then .error (.misuse .emptyOperand)
    else .ok { draft with operands := draft.operands ++ [text] }
  | .switch .help _ => .error .help
  | .switch .version _ => .error .version
  | .switch switch value =>
    if (draft.value? switch).isSome then .error (.misuse (.repeated switch))
    else if switch.accepts value then
      .ok { draft with switches := draft.switches ++ [(switch, value)] }
    else .error (.misuse (.invalidValue switch value))

end Draft

/-- What help may be about. -/
inductive Topic where
  | program
  | verb (verb : Verb)
  | help
  deriving DecidableEq, Repr, Inhabited

/-- What an evaluation is asked for. -/
structure RunRequest where
  store : String
  program : String
  /-- The only query to answer. -/
  query : Option String := none
  /-- The format of the report, in place of a summary. -/
  format : Option ReportFormat := none
  /-- The file that the report goes to. -/
  output : Option String := none
  settings : Option String := none
  threads : Option Nat := none
  timeoutMs : Option Nat := none
  /-- Whether entities are written with what is known of them. -/
  resolve : Bool := false
  deriving Repr, Inhabited

/-- What the program is asked to do. -/
inductive Invocation where
  | run (request : RunRequest)
  | check (store program : String)
  | stats (store : String)
  | help (topic : Topic)
  | version
  | misuse (misuse : Misuse)
  deriving Repr, Inhabited

namespace Invocation

/-- What is done where a matter was settled early. -/
def ofStop (topic : Topic) : Stop → Invocation
  | .help => .help topic
  | .version => .version
  | .misuse reason => .misuse reason

/-- The request for an evaluation. -/
def ofDraft (verb : Verb) (draft : Draft) : Invocation :=
  match verb, draft.operands with
  | .run, [store, program] =>
    .run {
      store, program
      query := draft.value? .query
      format := (draft.value? .format).bind format?
      output := draft.value? .output
      settings := draft.value? .settings
      threads := (draft.value? .threads).bind number?
      timeoutMs := (draft.value? .timeout).bind number?
      resolve := (draft.value? .resolve).isSome }
  | .check, [store, program] => .check store program
  | .stats, [store] => .stats store
  | _, _ => .misuse (.missingOperands verb)

/-- Read the arguments of a command. -/
def ofCommand (verb : Verb) (arguments : List String) : Invocation :=
  let items := readItems verb.switches arguments
  match items.foldlM (Draft.take verb.operands.length) {} with
  | .error stop => ofStop (.verb verb) stop
  | .ok draft => ofDraft verb draft

/-- Read what help is asked for. -/
def ofHelp : List String → Invocation
  | [] => .help .program
  | [word] =>
    match Verb.ofWord? word with
    | some verb => .help (.verb verb)
    | none => if word = "help" then .help .help else .misuse (.unknownCommand word)
  | _ :: word :: _ => .misuse (.unknownCommand word)

/-- Read arguments after the switches that stand before the command. -/
def afterSwitches (draft : Draft) : List String → Invocation
  | [] => .misuse .noCommand
  | argument :: rest =>
    if isSwitch argument then
      match (readSwitch globalSwitches argument).1.foldlM (Draft.take 0) draft with
      | .error stop => ofStop .program stop
      | .ok draft => afterSwitches draft rest
    else if argument = "help" then ofHelp rest
    else
      match Verb.ofWord? argument with
      | some verb => ofCommand verb rest
      | none => .misuse (.unknownCommand argument)

/-- Read the arguments of the program. -/
def ofArguments (arguments : List String) : Invocation :=
  afterSwitches {} arguments

end Invocation

end Stratalog.CommandLine
