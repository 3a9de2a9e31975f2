import Stratalog.PatternEngine
import Stratalog.Pattern.Parser

/-!
# The engine of the program

Patterns are read by the grammar of this folder and are looked for by following them from every place of a
text. No pattern is refused for its size or for how deep it is nested.
-/

namespace Stratalog.Pattern

/-- Reading patterns and following them through texts. -/
instance engine : PatternEngine where
  compile? text := (parse? text).map isFoundIn

end Stratalog.Pattern
