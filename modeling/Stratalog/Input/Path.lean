/-!
# Paths

A path is a text whose parts are divided by slashes. Empty parts and single dots say nothing; two
dots step back to the folder above.
-/

namespace Stratalog.Path

/-- The parts of a path that name something. -/
def parts (path : String) : List String :=
  ((path.toList.splitOn '/').map String.ofList).filter fun part => part != "" && part != "."

/-- Take one more part: two dots undo the part before, if there is one to undo. -/
def step (above : List String) (part : String) : List String :=
  match part, above with
  | "..", last :: rest => if last = ".." || last = "/" then part :: above else rest
  | _, _ => part :: above

/-- Where a path leads: the names from the outermost folder inwards. A path that begins with a
slash leads there from the outermost folder of all, which is called `/`. -/
def place (path : String) : List String :=
  let start := if path.startsWith "/" then ["/"] else []
  ((parts path).foldl step start).reverse

/-- A path inside a folder. -/
def inside (folder name : String) : String :=
  if folder = "" || folder.endsWith "/" then folder ++ name else folder ++ "/" ++ name

/-- Whether the writing of a path makes it a folder. -/
def isFolder (path : String) : Bool :=
  path.endsWith "/" || path.endsWith "/."

/-- The last part of a path, unless it steps back. -/
def name? (path : String) : Option String :=
  match (parts path).getLast? with
  | some ".." | none => none
  | some name => some name

/-- What follows the last dot of a name, unless the name has no dot or begins with its only one. -/
def extensionOfName? (name : String) : Option String :=
  match (name.toList.splitOn '.').reverse with
  | extension :: stem :: rest =>
    if stem.isEmpty && rest.isEmpty then none else some (String.ofList extension)
  | _ => none

/-- The extension of the last part of a path. -/
def extension? (path : String) : Option String :=
  (name? path).bind extensionOfName?

/-- The extension in lower case, empty where there is none. -/
def lowerExtension (path : String) : String :=
  ((extension? path).getD "").map Char.toLower

end Stratalog.Path
