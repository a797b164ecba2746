import CloudBilling.Settings.Report

/-!
# Halts

A run that cannot go on halts. It ends with a report, which whoever tried more may explain
further, or it breaks off at once, and then nothing can be added.
-/

namespace CloudBilling

/-- Why a run cannot go on. -/
inductive Halt where
  | reported (report : Report)
  /-- The run breaks off with a message. -/
  | aborted (message : String)
  deriving DecidableEq, Repr

namespace Halt

/-- A halt with a report that has no cause. -/
def ofMessage (message : String) : Halt :=
  .reported (.ofMessage message)

/-- The halt of something that could not go on because of another halt. -/
def within (halt : Halt) (message : String) : Halt :=
  match halt with
  | .reported report => .reported (report.within message)
  | .aborted reason => .aborted reason

end Halt

end CloudBilling
