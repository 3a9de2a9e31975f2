import Stratalog.Fault
import Stratalog.Json.Writer
import Stratalog.Value

/-!
# Input errors

Why a store, a program or settings could not be taken in. An error has one cause and the stages of
the work it arose in, from the outermost inwards; its account is read in that order. Where the
cause is that a file cannot be read or a folder not be walked through, or that a text is no document
of the kind expected, the stages alone are the account.
-/

namespace Stratalog

/-- A stage of taking something in, or of writing something out. -/
inductive InputStage where
  | readStore (path : String)
  | loadStore (path : String)
  | parseStore
  | readPart (path : String)
  | parsePart (path : String)
  | loadPart (path : String)
  | walk (path : String)
  | row (index : Nat) (relation : String)
  | readProgram (path : String)
  | loadProgram (path : String)
  | parseProgram
  | readSettings (path : String)
  | parseSettings (path : String)
  | openSession
  | writeResult (path : String)
  deriving DecidableEq, Repr, Inhabited

/-- The wording of a stage. -/
def InputStage.text : InputStage → String
  | .readStore path => "reading fact store " ++ path
  | .loadStore path => "loading fact store " ++ path
  | .parseStore => "parsing fact store document"
  | .readPart path => "reading " ++ path
  | .parsePart path => "parsing " ++ path
  | .loadPart path => "loading " ++ path
  | .walk path => "walking " ++ path
  | .row index relation => "row " ++ toString index ++ " of " ++ quoted relation
  | .readProgram path => "reading query plan " ++ path
  | .loadProgram path => "loading " ++ path
  | .parseProgram => "parsing query plan"
  | .readSettings path => "reading config " ++ path
  | .parseSettings path => "parsing config " ++ path
  | .openSession => "building executor"
  | .writeResult path => "writing " ++ path

/-- The formats a document may be in. -/
inductive TextFormat where
  | json
  | yaml
  deriving DecidableEq, Repr, Inhabited

/-- What went wrong. -/
inductive InputCause where
  | fault (fault : Fault)
  | malformed (format : TextFormat)
  | inaccessible
  | noRelations (folder : String)
  | rowLength (index : Nat) (relation : String) (found expected : Nat)
  | cell (expected : ColumnType) (found : Json)
  | unknownFormat (extension : String)
  | notNatural (name value : String)
  deriving Repr, Inhabited

/-- The wording of a cause that has one. -/
def InputCause.text? : InputCause → Option String
  | .fault found => some found.message
  | .malformed _ | .inaccessible => none
  | .noRelations folder => some (folder ++ " has no relations/ directory")
  | .rowLength index relation found expected =>
    some ("row " ++ toString index ++ " of " ++ quoted relation ++ " has " ++ toString found ++
      " value(s), schema has " ++ toString expected)
  | .cell expected found =>
    some ("expected " ++ expected.text ++ " value, found " ++ found.canonical.compact)
  | .unknownFormat extension =>
    some ("unsupported config format " ++ quoted extension)
  | .notNatural name value =>
    some (name ++ " must be a non-negative integer, got " ++ quoted value)

/-- A cause and the stages it arose in, outermost first. -/
structure InputError where
  stages : List InputStage := []
  cause : InputCause
  deriving Repr, Inhabited

namespace InputError

/-- The messages of an error, outermost first. -/
def messages (error : InputError) : List String :=
  error.stages.map InputStage.text ++ error.cause.text?.toList

/-- The account of an error in one text. -/
def message (error : InputError) : String :=
  ": ".intercalate error.messages

/-- Place an error in a stage around those it has. -/
def within (stage : InputStage) (error : InputError) : InputError :=
  { error with stages := stage :: error.stages }

end InputError

/-- Do a part of the work as a stage of its own. -/
def atStage (stage : InputStage) (result : Except InputError α) : Except InputError α :=
  result.mapError (InputError.within stage)

/-- What was read, or the error that it is missing. -/
def orCause (cause : InputCause) : Option α → Except InputError α
  | some a => .ok a
  | none => .error { cause }

end Stratalog
