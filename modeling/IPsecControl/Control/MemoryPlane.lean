import IPsecControl.Control.Connector

/-! A control plane in memory. It answers every procedure with success at once, unless a
behavior is set for the procedure; a behavior replaces the one before. -/
namespace IPsecControl
open Message

inductive Behavior where
  /-- The daemon refuses. -/
  | reject (code : StatusCode) (message : String)
  /-- The channel is lost. -/
  | unavailable (message : String)
  /-- The answer takes a while. -/
  | delay (time : Duration)
  deriving DecidableEq, Repr

structure MemoryPlane where
  behavior : Rpc → Option Behavior := fun _ => none
  /-- The security associations it lists. -/
  ikeSas : List ListIkeSa := []

namespace MemoryPlane

def behave (plane : MemoryPlane) (rpc : Rpc) (b : Behavior) : MemoryPlane :=
  { plane with behavior := fun r => if r = rpc then some b else plane.behavior r }

def listing (plane : MemoryPlane) (ikeSas : List ListIkeSa) : MemoryPlane := { plane with ikeSas }

/-- The response to a call that succeeds. -/
def response (plane : MemoryPlane) : (rpc : Rpc) → rpc.Request → rpc.Response
  | .addSa, _ => {}
  | .deleteSa, _ => {}
  | .version, _ => {
      daemon := "charon-systemd", version := "5.9.14", sysname := "Linux", release := "6.1.0",
      machine := "x86_64" }
  | .stats, _ => { status := "uptime: 1 minute, since Oct 19 10:00:00 2026" }
  | .loadConn, _ => { success := "Yes" }
  | .initiate, _ => {}
  | .listSas, _ => { ikesas := plane.ikeSas }
  | .listConns, (request : ListConnsRequest) => {
      connection := [{ name := request.ike, version := "IKEv2" }] }
  | .listCerts, _ => {}
  | .rekey, _ => { success := "Yes", matched := 1 }
  | .terminate, _ => { success := "Yes", matched := 1, terminated := 1 }
  | .unloadConn, _ => { success := "Yes" }

def note (rpc : Rpc) : Log.Line :=
  Log.debug .recording "Recorded call" [Log.quoted "operation" rpc.name]

def answer (plane : MemoryPlane) (rpc : Rpc) (request : rpc.Request) : Reply rpc.Response :=
  let notes := [note rpc]
  match plane.behavior rpc with
  | none => { outcome := .ok (plane.response rpc request), notes }
  | some (.delay time) => { delay := time, outcome := .ok (plane.response rpc request), notes }
  | some (.reject code message) => { outcome := .error (.rejected rpc.name ⟨code, message⟩), notes }
  | some (.unavailable message) => { outcome := .error (.transport rpc.name message), notes }

def connector (plane : MemoryPlane) : Connector where
  answer _ := plane.answer

/-- The plane behind a connector that opens no client. -/
def refusing (plane : MemoryPlane) (message : String) : Connector where
  opening := .error (.transport "recording" message)
  answer _ := plane.answer

/-- An established association of a connection with one installed child. -/
def establishedIkeSa (connection child : String) : ListIkeSa := {
  name := connection
  uniqueid := "1"
  version := "2"
  ikestate := "ESTABLISHED"
  localHost := "192.168.200.200"
  localId := "hacker@strongswan.org"
  remoteHost := "192.168.200.210"
  remoteId := "server.strongswan.org"
  encrAlg := "AES_CBC"
  integAlg := "HMAC_SHA2_256_128"
  dhGroup := "CURVE_25519"
  established := "1"
  rekeyTime := "13565"
  childsas := [{
    name := child
    protocol := "ESP"
    spiIn := "c5a9d7a0"
    spiOut := "c1f0a3b2"
    mode := "TUNNEL"
    state := "INSTALLED"
    encrAlg := "AES_GCM_16"
    localTs := ["10.3.0.0/16"]
    remoteTs := ["10.1.0.0/16"] }] }

end MemoryPlane
end IPsecControl
