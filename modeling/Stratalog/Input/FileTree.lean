import Std.Data.TreeMap.Lemmas
import Stratalog.Input.Path

/-!
# File trees

A snapshot of files and folders. Files are kept by the place they stand at, so that they are
listed in the order of their names, folder by folder. A file may hold bytes that are no text; then
it is there and cannot be read.

A walk goes through all folders below one and follows links. It fails at a folder that cannot be
listed, and at a link that leads nowhere or back to a folder around it.
-/

namespace Stratalog

/-- Files and folders. A folder is there when it is listed or when something stands in it. -/
structure FileTree where
  files : Std.TreeMap (List String) (Option String) := ∅
  folders : List (List String) := []
  /-- The places at which a walk fails. -/
  deadEnds : List (List String) := []

namespace FileTree

/-- Put a file at a path, in place of any file there. -/
def addFile (tree : FileTree) (path : String) (content : Option String) : FileTree :=
  { tree with files := tree.files.insert (Path.place path) content }

/-- Make a folder. -/
def addFolder (tree : FileTree) (path : String) : FileTree :=
  { tree with folders := Path.place path :: tree.folders }

/-- Make a walk fail at a path. -/
def addDeadEnd (tree : FileTree) (path : String) : FileTree :=
  { tree with deadEnds := Path.place path :: tree.deadEnds }

/-- Whether a folder stands at a place. -/
def hasFolder (tree : FileTree) (place : List String) : Bool :=
  place.isEmpty || tree.folders.any place.isPrefixOf ||
    tree.files.keys.any fun file => place.isPrefixOf file && place != file

/-- Whether a path leads to a folder. -/
def isFolder (tree : FileTree) (path : String) : Bool :=
  path != "" && tree.hasFolder (Path.place path)

/-- Whether a path leads to a file. -/
def isFile (tree : FileTree) (path : String) : Bool :=
  !Path.isFolder path && tree.files.contains (Path.place path)

/-- The text of the file at a path, if there is one that holds text. -/
def text? (tree : FileTree) (path : String) : Option String :=
  if Path.isFolder path then none else (tree.files[Path.place path]?).join

/-- Whether a walk through the folder at a path comes to its end. -/
def isWalkable (tree : FileTree) (path : String) : Bool :=
  !tree.deadEnds.any (Path.place path).isPrefixOf

/-- What is left of a place below a folder. -/
def below? (folder place : List String) : Option (List String) :=
  if folder.isPrefixOf place then some (place.drop folder.length) else none

/-- The files anywhere below the folder at a path, as paths that begin with that path, in order. -/
def filesBelow (tree : FileTree) (path : String) : List String :=
  tree.files.keys.filterMap fun file =>
    (below? (Path.place path) file).map (List.foldl Path.inside path)

/-- Whether a file can be written at a path: its folder is there and it is no folder itself. -/
def isWritable (tree : FileTree) (path : String) : Bool :=
  !Path.isFolder path && tree.hasFolder (Path.place path).dropLast &&
    !tree.hasFolder (Path.place path)

end FileTree

end Stratalog
