import IPsecControl.Control.Connector
import IPsecControl.Transport.Endpoint

/-! A control plane behind a channel. Its answers come as bytes or as a status; what a call
makes of them is the same whoever sent them. -/
namespace IPsecControl

inductive ServerAnswer where
  | response (bytes : Wire.Bytes)
  | status (status : Status)
  deriving DecidableEq, Repr

/-- What a call makes of an answer. A status without a failure is one too, as it leaves the
call without a response. -/
def ServerAnswer.outcome (rpc : Rpc) : ServerAnswer → Result rpc.Response
  | .response bytes =>
    match (Message.decode bytes : Except Wire.DecodeError rpc.Response) with
    | .ok m => .ok m
    | .error e => .error (.ofStatus rpc.name ⟨.internal, e.message⟩)
  | .status s =>
    if s.code = .ok then .error (.ofStatus rpc.name ⟨.internal, "Missing response message."⟩)
    else .error (.ofStatus rpc.name s)

/-- What a server receives of a call. -/
structure ServerRequest where
  path : String
  bytes : Wire.Bytes
  deriving DecidableEq, Repr

def Call.wire (c : Call) : ServerRequest := ⟨c.rpc.path, c.bytes⟩

/-- A server. What it answers to a request may depend on those that it received before. -/
structure RemotePlane where
  /-- What can be reached. -/
  network : Transport.Uri → Bool
  serve : List ServerRequest → ServerRequest → ServerAnswer := fun _ _ => .response []

namespace RemotePlane

/-- A server with answers for each path, one for each request; the last is given again and again, and a
path without one is answered with no bytes. -/
def scripted (network : Transport.Uri → Bool) (script : String → List ServerAnswer) : RemotePlane where
  network
  serve received request :=
    let answers := script request.path
    (answers[received.countP (·.path = request.path)]?.or answers.getLast?).getD (.response [])

def connector (plane : RemotePlane) (files : Files.Reader) (config : Transport.Config) : Connector :=
  let channel := config.connect files plane.network
  { openNotes := channel.notes
    opening := channel.result
    closeNotes := [Log.debug .service "Closed control-plane channel" [config.endpointField]]
    answer := fun earlier rpc request =>
      { outcome := (plane.serve (earlier.map Call.wire) (Call.wire ⟨rpc, request⟩)).outcome rpc } }

end RemotePlane
end IPsecControl
