import Stratalog.CommandLine.Help
import Stratalog.Document.Result
import Stratalog.Input.Program
import Stratalog.Input.Store
import Stratalog.Pattern.Engine
import Stratalog.Report.Summary
import Stratalog.Session

/-!
# Outcomes

What an invocation of the program comes to: what it prints, the files it writes, and how it ends.
An invocation is carried out on a snapshot of the files it names. What was printed before a failure
stays printed, and what was written stays written.
-/

namespace Stratalog.CommandLine

/-- Where an invocation is carried out. -/
structure Surroundings where
  files : FileTree
  environment : Settings.Environment := []
  /-- The time that reports bear. -/
  time : String := ""

/-- Why an invocation failed. -/
inductive Failure where
  | input (error : InputError)
  | query (name : String) (fault : Fault)
  | batch (failed queries : Nat)
  | problems (count : Nat) (program : String)
  deriving Repr, Inhabited

/-- The messages of a failure, outermost first. -/
def Failure.messages : Failure → List String
  | .input error => error.messages
  | .query name fault => ["query " ++ quoted name ++ " failed: " ++ fault.message]
  | .batch failed queries =>
    [toString failed ++ " of " ++ toString queries ++ " queries failed"]
  | .problems count program =>
    [toString count ++ " problem(s) found in " ++ program]

/-- The causes of a failure, numbered where there are several. -/
def causeLines : List String → List String
  | [] => []
  | [cause] => ["", "Caused by:", "    " ++ cause]
  | causes => "" :: "Caused by:" :: causes.mapIdx fun i cause => "    " ++ toString i ++ ": " ++ cause

/-- The account of a failure: its outermost message, and below it what caused it. -/
def Failure.lines (failure : Failure) : List String :=
  ("Error: " ++ failure.messages.headD "") :: causeLines failure.messages.tail

/-- What an invocation came to. -/
structure Outcome where
  printed : String := ""
  /-- The files written, with what they hold. -/
  written : List (String × String) := []
  failure : Option Failure := none

namespace Outcome

/-- An invocation that failed before it printed anything. -/
def failed (failure : Failure) : Outcome :=
  { failure }

/-- Lines printed. -/
def ofLines (lines : List String) (failure : Option Failure := none) : Outcome :=
  { printed := Summary.text lines, failure }

/-- Go on unless something failed. -/
def andThen (outcome : Outcome) (next : Option Failure) : Outcome :=
  { outcome with failure := outcome.failure.or next }

end Outcome

/-- What comes of something that may fail. -/
def orFailed (result : Except InputError α) (next : α → Outcome) : Outcome :=
  match result with
  | .ok a => next a
  | .error error => .failed (.input error)

/-- The settings of an evaluation: from a file, from the environment, and from arguments, each
prevailing over those before. -/
def requestSettings (around : Surroundings) (request : RunRequest) :
    Except InputError Settings := do
  let settings ←
    match request.settings with
    | some path => Settings.load around.files path
    | none => .ok {}
  let settings ← settings.applyEnvironment around.environment
  let settings := request.threads.elim settings settings.withThreads
  return request.timeoutMs.elim settings settings.withTimeoutMs

/-- Open a session on a store and a program in files. -/
def openSession (around : Surroundings) (store program : String) (settings : Settings) :
    Except InputError Session := do
  let store ← FactStore.load around.files store
  let program ← Program.load around.files program
  atStage .openSession
    ((Session.start store program settings).mapError fun fault => { cause := .fault fault })

/-- Print a document, or write it to the file asked for. -/
def emit (around : Surroundings) (request : RunRequest) (document : Document) : Outcome :=
  match request.output with
  | none => .ofLines [(request.format.getD .json).write document]
  | some path =>
    let format := (request.format.or (ReportFormat.ofPath? path)).getD .json
    if around.files.isWritable path then
      { Outcome.ofLines ["Results saved to: " ++ path] with
        written := [(path, format.write document)] }
    else
      .failed (.input { stages := [.writeResult path], cause := .inaccessible })

/-- Whether an evaluation reports in documents instead of summaries. -/
def RunRequest.serialized (request : RunRequest) : Bool :=
  request.format.isSome || request.output.isSome

/-- The document on one answer. -/
def answerDocument (request : RunRequest) (store : FactStore) (result : ResultSet) : Document :=
  if request.resolve then (result.resolve store.entities).toDocument else result.toDocument

/-- The document on a batch. Where entities are resolved it has the answers only. -/
def batchDocument (request : RunRequest) (store : FactStore) (report : BatchReport) : Document :=
  if request.resolve then
    .list ((report.outcomes.filterMap fun outcome => outcome.result.toOption).map
      (answerDocument request store))
  else report.toDocument

/-- Answer one query. -/
def runQuery (around : Surroundings) (request : RunRequest) (session : Session) (name : String) :
    Outcome :=
  let result := (session.runNamed name).1
  let failure :=
    match result with
    | .error fault => some (.query name fault)
    | .ok _ => none
  if request.serialized then
    match result with
    | .error fault => .failed (.query name fault)
    | .ok result => emit around request (answerDocument request session.store result)
  else
    .ofLines
      (Summary.outcomeLines Summary.defaultPreview session.store.entities { query := name, result })
      failure

/-- Answer every query. -/
def runBatch (around : Surroundings) (request : RunRequest) (session : Session) : Outcome :=
  let report := { session.runAll.1 with createdAt := around.time }
  let outcome :=
    if request.serialized then
      emit around request (batchDocument request session.store report)
    else
      .ofLines (Summary.batchLines Summary.defaultPreview session.store.entities report)
  outcome.andThen
    (if report.failed = 0 then none
    else some (.batch report.failed report.outcomes.length))

/-- Evaluate one query or every query. -/
def run (around : Surroundings) (request : RunRequest) : Outcome :=
  let session := do
    let settings ← requestSettings around request
    openSession around request.store request.program settings
  orFailed session fun session =>
    match request.query with
    | some name => runQuery around request session name
    | none => runBatch around request session

/-- The line on a derived predicate, if it has a fault. -/
def predicateLine? (session : Session) (predicate : Predicate) : Option String :=
  (session.faultOf? predicate.name).map fun fault =>
    "  INVALID " ++ predicate.name ++ " " ++ fault.message

/-- The line on a query, and whether it passed. -/
def queryLine (session : Session) (query : Query) : String × Bool :=
  match session.prepare query with
  | .ok prepared =>
    ("  OK " ++ query.name ++ " (" ++ toString prepared.schema.arity ++ " column(s), " ++
      toString prepared.strata.length ++ " strata)", true)
  | .error fault =>
    ("  FAILED " ++ query.name ++ " [" ++ fault.kind ++ "] " ++ fault.message, false)

/-- Check every predicate and every query of a program. -/
def check (around : Surroundings) (store program : String) : Outcome :=
  orFailed (openSession around store program {}) fun session =>
    let invalid := session.program.predicates.filterMap (predicateLine? session)
    let queries := session.program.queries.map (queryLine session)
    let problems := invalid.length + queries.countP fun line => !line.2
    .ofLines (Summary.strataLines session.strata ++ [""] ++ invalid ++ queries.map Prod.fst)
      (if problems = 0 then none else some (.problems problems program))

/-- Describe a store. -/
def stats (around : Surroundings) (store : String) : Outcome :=
  orFailed (FactStore.load around.files store) fun store => .ofLines (Summary.storeLines store)

/-- How the program ends. -/
inductive Ending where
  | finished (outcome : Outcome)
  | misused (misuse : Misuse)

namespace Ending

/-- Carry out an invocation. -/
def ofInvocation (around : Surroundings) : Invocation → Ending
  | .run request => .finished (run around request)
  | .check store program => .finished (check around store program)
  | .stats store => .finished (stats around store)
  | .help topic => .finished (.ofLines topic.lines)
  | .version => .finished (.ofLines [versionText])
  | .misuse reason => .misused reason

/-- The exit code. -/
def code : Ending → Nat
  | .finished outcome => if outcome.failure.isSome then 1 else 0
  | .misused _ => 2

/-- What goes to the standard output. -/
def printed : Ending → String
  | .finished outcome => outcome.printed
  | .misused _ => ""

/-- What goes to the error output. -/
def complaint : Ending → String
  | .finished outcome => Summary.text ((outcome.failure.map Failure.lines).getD [])
  | .misused reason =>
    Summary.text ["error: " ++ reason.text, "", "For more information, try '--help'."]

/-- The files written, with what they hold. -/
def written : Ending → List (String × String)
  | .finished outcome => outcome.written
  | .misused _ => []

/-- Carry out what arguments ask for. -/
def ofArguments (around : Surroundings) (arguments : List String) : Ending :=
  ofInvocation around (Invocation.ofArguments arguments)

end Ending

end Stratalog.CommandLine
