/-! Arithmetic on the clock that has no result. It ends the program. -/
namespace IPsecControl

inductive Overflow where
  /-- An instant that the clock cannot show. -/
  | instant
  /-- A duration that is too long. -/
  | duration
  deriving DecidableEq, Repr

def Overflow.message : Overflow → String
  | .instant => "overflow when adding duration to instant"
  | .duration => "overflow when adding durations"

end IPsecControl
