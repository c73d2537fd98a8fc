/-!
# Severity

How grave a problem is. A severity is written as a word in reports and ranked by a number in linter
messages.
-/

namespace Diagnosis

/-- How grave a problem is. -/
inductive Severity where
  /-- Something to look at. -/
  | warning
  /-- Something to mend. -/
  | error
  deriving Repr, DecidableEq, Inhabited

namespace Severity

/-- The rank of a severity. -/
def rank : Severity → Nat
  | warning => 1
  | error => 2

/-- The word for a severity. -/
def word : Severity → String
  | warning => "warning"
  | error => "error"

/-- The severity that a word names. -/
def ofWord? (w : String) : Option Severity :=
  [warning, error].find? (·.word == w)

end Severity

end Diagnosis
