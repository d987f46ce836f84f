/-
The outcome of one execution, as the driver learns it.
-/
namespace BranchCoverage

/-- How an execution ended.  A timeout is only ever the driver's verdict. -/
inductive Fault where
  | none
  | timeout
  | crash
  deriving DecidableEq

namespace Fault

/-- The code sent to the driver. -/
def code : Fault → Int32
  | .none => 0
  | .timeout => 1
  | .crash => 2

/-- The fault a peer means by a code; a code of no fault means a crash. -/
def ofCode (code : Int32) : Fault :=
  if code = 0 then .none else if code = 1 then .timeout else .crash

/-- Whether anything went wrong. -/
def isFault (fault : Fault) : Bool :=
  fault ≠ .none

/-- The word for a fault. -/
def name : Fault → String
  | .none => "none"
  | .timeout => "timeout"
  | .crash => "crash"

end Fault

end BranchCoverage
