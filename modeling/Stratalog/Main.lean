import Std.Time.DateTime.Timestamp
import Stratalog.CommandLine.Outcome
import Stratalog.Text.Moment

/-!
# The program

Takes a snapshot of the files that the arguments name, of the environment and of the clock, works
out how the program ends, and brings that about.
-/

namespace Stratalog.CommandLine

/-- A path as an entry of the current folder. -/
def entryAt (path : String) : IO.FS.DirEntry :=
  { root := ".", fileName := path }

/-- The text of a file, if it holds text and can be read. -/
def readText (path : String) : IO (Option String) := do
  match ← (IO.FS.readFile (entryAt path).path).toBaseIO with
  | .ok text => return some text
  | .error _ => return none

/-- Add what stands at a path, if there is anything. Of a folder only its being there is added. -/
def addEntry (tree : FileTree) (path : String) : IO FileTree := do
  if ← (entryAt path).path.isDir then return tree.addFolder path
  else if ← (entryAt path).path.pathExists then
    return tree.addFile path (← readText path)
  else return tree

/-- Add what stands at a path and, of a folder, all that stands in it. A folder that is one of those around
it is not gone into again; nor can a path be so long that it leads through more than `room` folders. -/
def addBelow : (room : Nat) → (around : List String) → FileTree → (path : String) → IO FileTree
  | 0, _, tree, path => return tree.addDeadEnd path
  | room + 1, around, tree, path => do
    if ← (entryAt path).path.isDir then
      let tree := tree.addFolder path
      let folder := (← IO.FS.realPath (entryAt path).path).toString
      match ← (entryAt path).path.readDir.toBaseIO with
      | .ok entries =>
        if around.contains folder then return tree.addDeadEnd path
        else
          entries.toList.foldlM (fun tree entry =>
            addBelow room (folder :: around) tree (Path.inside path entry.fileName)) tree
      | .error _ => return tree.addDeadEnd path
    else if ← (entryAt path).path.pathExists then
      return tree.addFile path (← readText path)
    else return tree.addDeadEnd path

/-- Add all that stands in a folder, if there is one. -/
def addFolder (tree : FileTree) (path : String) : IO FileTree := do
  if ← (entryAt path).path.isDir then addBelow 4096 [] tree path else return tree

/-- Add a store, whichever its layout. -/
def addStore (tree : FileTree) (path : String) : IO FileTree := do
  let tree ← addEntry tree path
  let tree ← addEntry tree (Path.inside path "entities.json")
  addFolder tree (Path.inside path "relations")

/-- Add what decides whether a file can be written. -/
def addTarget (tree : FileTree) (path : String) : IO FileTree := do
  let folder := "/".intercalate (Path.place path).dropLast
  addEntry (← if folder = "" then pure tree else addEntry tree folder) path

/-- The files that an invocation may read or write. -/
def snapshot : Invocation → IO FileTree
  | .run request => do
    let tree ← addEntry (← addStore {} request.store) request.program
    let tree ← request.settings.toList.foldlM addEntry tree
    request.output.toList.foldlM addTarget tree
  | .check store program => do
    addEntry (← addStore {} store) program
  | .stats store => addStore {} store
  | .help _ | .version | .misuse _ => return {}

/-- The variables of the environment that matter. -/
def readEnvironment : IO Settings.Environment :=
  Settings.variableNames.filterMapM fun name => do
    return (← IO.getEnv name).map (name, ·)

/-- The present moment. -/
def readClock : IO Moment := do
  let now := (← Std.Time.Timestamp.now).val
  return { seconds := now.second.val.toNat, nanoseconds := now.nano.val.toNat }

end Stratalog.CommandLine

open Stratalog.CommandLine in
/-- Do what the arguments ask for. -/
def main (arguments : List String) : IO UInt32 := do
  let invocation := Invocation.ofArguments arguments
  let around : Surroundings :=
    { files := ← snapshot invocation
      environment := ← readEnvironment
      time := (← readClock).text }
  let ending := Ending.ofInvocation around invocation
  for (path, content) in ending.written do
    IO.FS.writeFile (entryAt path).path content
  IO.print ending.printed
  IO.eprint ending.complaint
  return UInt32.ofNat ending.code
