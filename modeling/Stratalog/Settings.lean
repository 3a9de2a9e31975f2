/-!
# Settings

The budgets of an evaluation. Every setting has a default, and sixty-four bits hold each.

Evaluation takes one step after another, as a single worker does. The number of workers and the size
from which joins are spread over them are kept and shown, and change no answer: a join that is
spread agrees with one that is not, and strata of one level may be gone through in any order.
-/

namespace Stratalog

/-- Budgets and the number of workers. -/
structure Settings where
  /-- Workers to spread work over. -/
  threads : Nat := 1
  /-- Rounds allowed for the fixpoint of one stratum. -/
  maxRounds : Nat := 100000
  /-- Rows allowed in a relation or an intermediate table. -/
  maxTuples : Nat := 50000000
  /-- Milliseconds allowed for a query. -/
  timeoutMs : Option Nat := none
  /-- Size from which a join may be spread over the workers. -/
  parallelJoinThreshold : Nat := 8192
  deriving DecidableEq, Repr, Inhabited

namespace Settings

/-- Set the number of workers, at least one. -/
def withThreads (settings : Settings) (threads : Nat) : Settings :=
  { settings with threads := max threads 1 }

/-- Set the rounds allowed. -/
def withMaxRounds (settings : Settings) (rounds : Nat) : Settings :=
  { settings with maxRounds := rounds }

/-- Set the rows allowed. -/
def withMaxTuples (settings : Settings) (tuples : Nat) : Settings :=
  { settings with maxTuples := tuples }

/-- Set the milliseconds allowed. -/
def withTimeoutMs (settings : Settings) (milliseconds : Nat) : Settings :=
  { settings with timeoutMs := some milliseconds }

/-- Set the size from which a join may be spread. -/
def withParallelJoinThreshold (settings : Settings) (threshold : Nat) : Settings :=
  { settings with parallelJoinThreshold := threshold }

end Settings

end Stratalog
