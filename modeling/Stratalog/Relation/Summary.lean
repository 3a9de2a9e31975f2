import Stratalog.Relation.Basic
import Stratalog.Text.Quoted

/-!
# Summaries of relations

A relation in one line: its name, how wide and how long it is, and how many indices it has.
-/

namespace Stratalog.Relation

/-- A relation in one line. -/
def summary (relation : Relation) : String :=
  "Relation \x7b name: " ++ Text.quote relation.name ++ ", arity: " ++ toString relation.arity ++
    ", len: " ++ toString relation.size ++ ", indices: " ++ toString relation.indexCount ++ " \x7d"

end Stratalog.Relation
