import Guidebook.Text.Digit

namespace Guidebook

/-- How a command or an editor ended. -/
inductive Outcome where
  | ok
  | interrupted
  | error
  deriving DecidableEq, Repr

namespace Outcome

/-- From here on an exit code stands for a signal. -/
def signalBase : Int := 128

def ofCode (code : Int) : Outcome :=
  if code = 0 then .ok else if signalBase ≤ code then .interrupted else .error

def label : Outcome → Text
  | .ok => "ok".toList
  | .interrupted => "interrupted".toList
  | .error => "error".toList

end Outcome

end Guidebook
