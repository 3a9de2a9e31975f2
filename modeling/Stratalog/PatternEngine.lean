/-!
# Pattern engines

Texts are matched with regular expressions by an engine that is chosen where the program is put together.
All that is asked of an engine is that it takes the same patterns every time, and finds each in the same
texts.
-/

namespace Stratalog

/-- An engine that finds patterns in texts. -/
class PatternEngine where
  /-- In which texts a pattern is found, if the engine takes the pattern. -/
  compile? : (pattern : String) → Option (String → Bool)

end Stratalog
