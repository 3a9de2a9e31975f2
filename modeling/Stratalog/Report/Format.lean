import Stratalog.Document.Basic
import Stratalog.Input.Path
import Stratalog.Json.Writer
import Stratalog.Yaml.Writer

/-!
# Report formats

Reports are written in JSON or in YAML. A format is named by a word, or by the extension of the
file that a report goes to.
-/

namespace Stratalog

/-- The formats a report may be written in. -/
inductive ReportFormat where
  | json
  | yaml
  deriving DecidableEq, Repr, Inhabited

namespace ReportFormat

/-- The extension of files in a format. -/
def extension : ReportFormat → String
  | .json => "json"
  | .yaml => "yaml"

/-- The format a word names, in upper or lower case. -/
def ofName? (name : String) : Option ReportFormat :=
  match name.map Char.toLower with
  | "json" => some .json
  | "yaml" | "yml" => some .yaml
  | _ => none

/-- The format the extension of a path names. -/
def ofPath? (path : String) : Option ReportFormat :=
  (Path.extension? path).bind ofName?

/-- A document in a format. -/
def write (format : ReportFormat) (document : Document) : String :=
  match format with
  | .json => document.toJson.pretty
  | .yaml => document.toYaml

end ReportFormat

end Stratalog
