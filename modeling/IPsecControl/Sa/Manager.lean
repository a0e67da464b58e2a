import IPsecControl.Control.Guard
import IPsecControl.Sa.Request

/-! Adding and deleting static security associations. Each operation validates its input,
opens a client, makes one call and closes the client; nothing is kept or repeated. -/
namespace IPsecControl.Sa
open Message

/-- The time for a call, unless another is given. -/
def defaultTimeout : Duration := .ofSeconds 10

/-- A guard for one call. A deadline that the clock cannot show is as good as none. -/
def guardFor (timeout : Duration) : Run Guard := do
  let now := (← get).now
  return ⟨(now.after? timeout).getD now.farFuture, timeout⟩

/-- What is logged when the call about an association ends. -/
def endLine (id : Identifier) (success failure : String) {α : Type} : Result α → Log.Line
  | .ok _ => Log.info .staticSa success [Log.shown "sa" id.text]
  | .error e => Log.error .staticSa failure [Log.shown "sa" id.text, Log.shown "error" e.message]

/-- Opens a client, makes one call within the time, and closes the client. -/
def callOnce (timeout : Duration) (id : Identifier) (rpc : Rpc) (request : rpc.Request)
    (success failure : String) : Run (Result rpc.Response) := Run.uncancelled do
  match ← Run.openClient with
  | .error e => return .error e
  | .ok () =>
    Run.log (Log.debug .staticSa "Issuing RPC"
      [Log.quoted "operation" rpc.name, Log.shown "timeout" timeout.text])
    let guard ← guardFor timeout
    let result ← guard.settle rpc.name (← Run.send rpc request)
    Run.closeClient
    Run.log (endLine id success failure result)
    return result

def add (timeout : Duration) (id : Identifier) (params : Params) : Run (Result AddSaResponse) := do
  match addRequest id params with
  | .error e => return .error e
  | .ok request =>
    Run.log (Log.info .staticSa "Adding SA" [
      Log.shown "sa" id.text, Log.shown "mode" params.mode, Log.shown "enc" params.encAlg,
      Log.shown "int" params.intAlg,
      Log.shown "update" (if params.flags.update then "true" else "false")])
    callOnce timeout id .addSa request "SA added" "AddSA failed"

/-- Deletes an association. Whether a missing one is an error is up to the daemon. -/
def delete (timeout : Duration) (id : Identifier) : Run (Result DeleteSaResponse) := do
  match deleteRequest id with
  | .error e => return .error e
  | .ok request =>
    Run.log (Log.info .staticSa "Deleting SA" [Log.shown "sa" id.text])
    callOnce timeout id .deleteSa request "SA deleted" "DeleteSA failed"

end IPsecControl.Sa
