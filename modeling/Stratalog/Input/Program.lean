import Stratalog.Document.Program
import Stratalog.Input.Error
import Stratalog.Input.FileTree

/-!
# Loading programs

A program is one document in a file.
-/

namespace Stratalog.Program

/-- The program a text is the written form of. -/
def ofText (text : String) : Except InputError Program :=
  atStage .parseProgram (orCause (.malformed .json) (parse? text))

/-- The program in a file. -/
def load (tree : FileTree) (path : String) : Except InputError Program := do
  let text ← atStage (.readProgram path) (orCause .inaccessible (tree.text? path))
  atStage (.loadProgram path) (ofText text)

end Stratalog.Program
