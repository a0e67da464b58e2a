import IPsecControl.Control.Rpc
import IPsecControl.Text.Quoted

/-! Checks of recorded calls: which procedures were called, how often, and in which order. -/
namespace IPsecControl

inductive CallLogError where
  | notCalled (operation : String) (actual : List String)
  | unexpectedCall (operation : String) (actual : List String)
  | sequenceMismatch (expected actual : List String)
  | orderViolation (first second : String) (actual : List String)
  | countMismatch (expected actual : Nat)
  deriving DecidableEq, Repr

def CallLogError.message : CallLogError → String
  | .notCalled operation actual =>
    "Expected " ++ operation ++ " to be called, got " ++ Text.quotedList actual
  | .unexpectedCall operation actual =>
    "Expected " ++ operation ++ " not to be called, got " ++ Text.quotedList actual
  | .sequenceMismatch expected actual =>
    "Expected call sequence " ++ Text.quotedList expected ++ ", got " ++ Text.quotedList actual
  | .orderViolation first second actual =>
    "Expected " ++ first ++ " before " ++ second ++ ", got " ++ Text.quotedList actual
  | .countMismatch expected actual =>
    "Expected " ++ Text.decimal expected ++ " calls, found " ++ Text.decimal actual

/-- The names of the procedures called, in order. -/
def operations (calls : List Call) : List String := calls.map (·.rpc.name)

/-- What can be asked of a record of calls. -/
inductive CallCheck where
  | called (operation : String)
  | notCalled (operation : String)
  | sequence (expected : List String)
  /-- The first call of one procedure is before the first of the other. -/
  | before (first second : String)
  /-- The first call of one procedure is directly followed by the other. -/
  | adjacent (first second : String)
  | count (expected : Nat)
  deriving DecidableEq, Repr

def CallCheck.run (calls : List Call) : CallCheck → Except CallLogError Unit
  | .called operation =>
    let actual := operations calls
    if operation ∈ actual then .ok () else .error (.notCalled operation actual)
  | .notCalled operation =>
    let actual := operations calls
    if operation ∈ actual then .error (.unexpectedCall operation actual) else .ok ()
  | .sequence expected =>
    let actual := operations calls
    if actual = expected then .ok () else .error (.sequenceMismatch expected actual)
  | .before first second =>
    let actual := operations calls
    match actual.idxOf? first, actual.idxOf? second with
    | some i, some j => if i < j then .ok () else .error (.orderViolation first second actual)
    | _, _ => .error (.orderViolation first second actual)
  | .adjacent first second =>
    let actual := operations calls
    match actual.idxOf? first with
    | some i =>
      if actual[i + 1]? = some second then .ok ()
      else .error (.orderViolation first second actual)
    | none => .error (.orderViolation first second actual)
  | .count expected =>
    if calls.length = expected then .ok () else .error (.countMismatch expected calls.length)

end IPsecControl
