import Stratalog.Json.Decode
import Stratalog.Settings

/-!
# Settings as documents

Every setting may be left out of a document and then has its default. A time limit may also be
null, which means that there is none.
-/

namespace Stratalog.Settings

/-- The names of the settings, in the order of an array of them. -/
def fieldNames : List String :=
  ["threads", "max_rounds", "max_tuples", "timeout_ms", "parallel_join_threshold"]

/-- Write settings. -/
def toJson (settings : Settings) : Json :=
  .object [("threads", .natural settings.threads), ("max_rounds", .natural settings.maxRounds),
    ("max_tuples", .natural settings.maxTuples),
    ("timeout_ms", .orNull (settings.timeoutMs.map Json.natural)),
    ("parallel_join_threshold", .natural settings.parallelJoinThreshold)]

/-- Read a setting that has a default. -/
def orDefault? (default : α) (read : β → Option α) : Option β → Option α
  | none => some default
  | some content => read content

/-- Settings from what is given for each of them; `size?` reads a number and `limit?` a number
that may be null. -/
def ofFields? (size? : α → Option Nat) (limit? : α → Option (Option Nat)) :
    List (Option α) → Option Settings
  | [threads, rounds, tuples, timeout, threshold] => do
    let default : Settings := {}
    return {
      threads := ← orDefault? default.threads size? threads
      maxRounds := ← orDefault? default.maxRounds size? rounds
      maxTuples := ← orDefault? default.maxTuples size? tuples
      timeoutMs := ← orDefault? default.timeoutMs limit? timeout
      parallelJoinThreshold := ← orDefault? default.parallelJoinThreshold size? threshold }
  | _ => none

/-- Read settings. -/
def ofJson? (depth : Nat) (json : Json) : Option Settings :=
  (json.record? depth fieldNames).bind fun (_, fields) =>
    ofFields? Json.size? (Json.optional? Json.size?) fields

end Stratalog.Settings
