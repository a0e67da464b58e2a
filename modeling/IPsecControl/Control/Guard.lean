import IPsecControl.Control.Session

/-! Guards bound calls by one deadline and by cancellation. A call of a cancelled run is
not made; a call that is pending at the deadline, or when the run is cancelled, is
given up. An answer that arrives exactly at the deadline counts. -/
namespace IPsecControl

structure Guard where
  deadline : Instant
  /-- What the deadline allowed when it was set. -/
  budget : Duration
  deriving DecidableEq, Repr

namespace Guard
variable {α : Type}

/-- A guard whose deadline is `budget` from now. -/
def start (budget : Duration) : Run Guard := do
  match (← get).now.after? budget with
  | some deadline => return ⟨deadline, budget⟩
  | none => Run.halt .instant

/-- The outcome of a call whose wait ended in the given way. -/
def outcome (g : Guard) (operation : String) (reply : Reply α) : Run.Wake → Result α
  | .answered => reply.outcome
  | .expired => .error (.timedOut operation g.budget)
  | .cancelled => .error (.cancelled operation)

def failure? : Result α → Option Error
  | .ok _ => none
  | .error e => some e

/-- Waits for the answer to a call that was made. -/
def settle (g : Guard) (operation : String) (reply : Reply α) : Run (Result α) := do
  let wake ← Run.wait reply.delay g.deadline
  if wake = .answered then Run.logAll reply.remarks
  let result := g.outcome operation reply wake
  Run.record (.ended operation (failure? result))
  return result

/-- Makes a call and waits for its answer, unless the run is already cancelled. -/
def run (g : Guard) (operation : String) (call : Run (Reply α)) : Run (Result α) := do
  Run.log (Log.debug .tunnel "Issuing" [Log.shown "step" operation])
  if ← Run.look then return .error (.cancelled operation)
  g.settle operation (← call)

end Guard
end IPsecControl
