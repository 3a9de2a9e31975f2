import Stratalog.Document.Settings
import Stratalog.Input.Error
import Stratalog.Input.FileTree
import Stratalog.Json.Reader
import Stratalog.Pattern.Category
import Stratalog.Yaml.Node

/-!
# Loading settings

Settings come from a file in JSON or in YAML, as its extension says, and from variables of the
environment, which prevail. In YAML a setting is a plain number; a document without content leaves
every setting at its default.
-/

namespace Stratalog

namespace Yaml.Node

/-- The tag of whole numbers. -/
def intTag : String := "tag:yaml.org,2002:int"

/-- The tag of nothing. -/
def nullTag : String := "tag:yaml.org,2002:null"

/-- A natural number of sixty-four bits, written plain, or in a literal block that is tagged as a
whole number. -/
def size? : Node → Option Nat
  | .scalar style tag text =>
    if style = .plain || style = .literal && tag = some intTag then
      (natural? text).filter (· < Nat.pow 2 64)
    else none
  | _ => none

/-- A natural number, or a plain scalar that means that there is none. With a tag that says so, it
may not be empty. -/
def limit? : Node → Option (Option Nat)
  | .scalar style tag text =>
    if style = .plain && isNull text && (tag = none || tag = some nullTag && text != "") then
      some none
    else if tag = some nullTag then none
    else (size? (.scalar style tag text)).map some
  | _ => none

/-- The text of a scalar, however it is written. -/
def text? : Node → Option String
  | .scalar _ _ text => some text
  | _ => none

/-- The values of the named fields of a mapping, or of a sequence in their order. -/
def fields? (names : List String) : Node → Option (List (Option Node))
  | .mapping pairs => do
    let fields ← pairs.mapM fun (key, value) => (text? key).map (·, value)
    if names.all fun name => (fields.countP fun field => field.1 == name) ≤ 1 then
      return names.map fun name => fields.lookup name
    else none
  | .sequence items =>
    if items.length ≤ names.length then some (names.mapIdx fun i _ => items[i]?) else none
  | .scalar .plain _ "" => some (names.map fun _ => none)
  | _ => none

end Yaml.Node

namespace Settings

/-- The settings a text in JSON is the written form of. -/
def ofJsonText? (text : String) : Option Settings :=
  (Json.parse? text).bind (ofJson? Json.deepest)

/-- The settings a text in YAML is the written form of. -/
def ofYamlText? (text : String) : Option Settings := do
  match ← Yaml.Node.parse? text with
  | none => return {}
  | some node => ofFields? Yaml.Node.size? Yaml.Node.limit? (← node.fields? fieldNames)

/-- The settings in a file. -/
def load (tree : FileTree) (path : String) : Except InputError Settings := do
  let text ← atStage (.readSettings path) (orCause .inaccessible (tree.text? path))
  let parse := fun format (settings : Option Settings) =>
    atStage (.parseSettings path) (orCause (.malformed format) settings)
  match Path.lowerExtension path with
  | "yaml" | "yml" => parse .yaml (ofYamlText? text)
  | "json" => parse .json (ofJsonText? text)
  | extension => .error { cause := .unknownFormat extension }

/-- Variables of the environment, by name. -/
abbrev Environment := List (String × String)

/-- Characters without the blanks around them. -/
def trim (cs : List Char) : List Char :=
  ((cs.dropWhile Pattern.blanks.mem).reverse.dropWhile Pattern.blanks.mem).reverse

/-- The natural number of sixty-four bits that a text spells in decimal digits, perhaps behind a
plus. -/
def decimal? (cs : List Char) : Option Nat :=
  let digits := match cs with
    | '+' :: rest => rest
    | cs => cs
  (Text.digits? 10 digits).filter (· < Nat.pow 2 64)

/-- Change settings as a variable says, if it is there. -/
def applyVariable (environment : Environment) (name : String)
    (change : Settings → Nat → Settings) (settings : Settings) : Except InputError Settings :=
  match environment.lookup name with
  | none => .ok settings
  | some value =>
    (orCause (.notNatural name value) (decimal? (trim value.toList))).map (change settings)

/-- The variables that are settings, and what each changes. -/
def overrides : List (String × (Settings → Nat → Settings)) :=
  [("QLEVAL_THREADS", fun settings threads => { settings with threads }),
    ("QLEVAL_MAX_ROUNDS", withMaxRounds),
    ("QLEVAL_MAX_TUPLES", withMaxTuples),
    ("QLEVAL_TIMEOUT_MS", withTimeoutMs)]

/-- The names of the variables that are settings. -/
def variableNames : List String :=
  overrides.map Prod.fst

/-- Let the environment prevail over settings. -/
def applyEnvironment (settings : Settings) (environment : Environment) :
    Except InputError Settings :=
  overrides.foldlM (fun settings (name, change) =>
    applyVariable environment name change settings) settings

end Settings

end Stratalog
