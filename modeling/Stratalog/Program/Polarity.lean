/-!
# Polarities

A rule body reads a predicate positively, under a negation, or inside an aggregate. Only positive
reads may close a dependency cycle.
-/

namespace Stratalog

/-- How a rule body reads a predicate. -/
inductive Polarity where
  | positive
  | negative
  | aggregate
  deriving DecidableEq, Repr, Inhabited

/-- Whether a read may take part in recursion. -/
def Polarity.isMonotone : Polarity → Bool
  | .positive => true
  | _ => false

/-- What a cycle through such a read is called in messages. -/
def Polarity.text : Polarity → String
  | .positive => "recursion"
  | .negative => "negation"
  | .aggregate => "aggregation"

end Stratalog
