/-!
# Reports

A report says why the program could not do its work: what it tried, and a chain of causes, each
the reason for the one before it.
-/

namespace CloudBilling

/-- A message and what it was caused by, nearest cause first. -/
structure Report where
  message : String
  causes : List String
  deriving DecidableEq, Repr

namespace Report

/-- A report with no cause. -/
def ofMessage (message : String) : Report :=
  ⟨message, []⟩

/-- The messages of a report, outermost first. -/
def chain (report : Report) : List String :=
  report.message :: report.causes

/-- The report of something that failed because of what another report says. -/
def within (report : Report) (message : String) : Report :=
  ⟨message, report.chain⟩

end Report

end CloudBilling
