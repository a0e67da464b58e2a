import IPsecControl.CommandLine.Reading
import IPsecControl.Sa.Manager
import IPsecControl.Transport.Endpoint
import IPsecControl.Tunnel.Daemon
import IPsecControl.Tunnel.Document

/-! Command lines that were understood: a command with its arguments, and where and for how
long to run it. All arguments are UTF-8 texts here. Only the file with a connection could be named by
other bytes, which would be its path as they are. -/
namespace IPsecControl.CommandLine

/-- The identity of an association, with the protocol by name. -/
structure IdentifierArgs where
  src : Net.Address
  dst : Net.Address
  spi : UInt32
  proto : String
  ifId : UInt32
  deriving DecidableEq, Repr

/-- The identity, if the protocol is known. -/
def IdentifierArgs.identifier (a : IdentifierArgs) : Result Sa.Identifier :=
  (Algorithm.protocols.lookup a.proto).map fun protocol => ⟨a.src, a.dst, a.spi, protocol, a.ifId⟩

structure TunnelArgs where
  conn : String
  child : String
  localAddr : String
  remoteAddr : String
  localId : String
  remoteId : String
  auth : String
  proposal : List String
  integ : List String
  dh : List String
  localTs : String
  remoteTs : String
  pingAddr : String
  certType : String
  connFile : Option Files.Path
  /-- Seconds for each cleanup call. -/
  cleanupTimeout : Nat
  advisoryIntrospection : Bool
  deriving DecidableEq, Repr

namespace TunnelArgs
variable (a : TunnelArgs)

def definition : Tunnel.Definition where
  name := a.conn
  localAddresses := [a.localAddr]
  remoteAddresses := [a.remoteAddr]
  localAuth := ⟨a.auth, a.localId⟩
  remoteAuth := ⟨a.auth, a.remoteId⟩
  children := [{
    name := a.child
    proposal := ⟨a.proposal, a.integ, a.dh⟩
    localSelectors := [a.localTs]
    remoteSelectors := [a.remoteTs] }]

/-- What the run exercises: the definition in the file, if one is given, or the options'. -/
def config (files : Files.Reader) (timeout : Duration) : Result Tunnel.Config := do
  let definition ← match a.connFile with
    | some path => Tunnel.Definition.load files path
    | none => pure a.definition
  return {
    definition
    child := a.child
    probeTarget := a.pingAddr
    timeout
    cleanupTimeout := .ofSeconds a.cleanupTimeout
    certType := a.certType
    advisoryIntrospection := a.advisoryIntrospection }

end TunnelArgs

inductive Command where
  | addSa (id : IdentifierArgs) (params : Sa.Params)
  | delSa (id : IdentifierArgs)
  | stats
  | tunnelTest (args : TunnelArgs)
  deriving DecidableEq, Repr

namespace Command

def verb : Command → Verb
  | .addSa .. => .addSa
  | .delSa _ => .delSa
  | .stats => .stats
  | .tunnelTest _ => .tunnelTest

/-- The time for a command, unless another is given. -/
def defaultTimeout : Command → Duration
  | .addSa .. | .delSa _ => Sa.defaultTimeout
  | .stats => Tunnel.queryTimeout
  | .tunnelTest _ => .ofSeconds 30

end Command

namespace Settings
variable (s : Settings)

/-- The failure of a command that lacks options. -/
def lacking (verb : Verb) : Failure := .missing ((Level.required verb).filter (!s.isSet ·))

def identifierArgs (verb : Verb) : Except Failure IdentifierArgs :=
  match s.value? .src, s.value? .dst, s.value? .spi, s.value? .ifId with
  | some src, some dst, some spi, some ifId =>
    .ok { src, dst, spi, ifId, proto := (s.value? .proto).getD "esp" }
  | _, _, _, _ => .error (s.lacking verb)

def flags : Sa.Flags where
  encap := s.isSet .encap
  esn := s.isSet .esn
  copyDf := s.isSet .copyDf
  copyEcn := s.isSet .copyEcn
  copyDscp := s.isSet .copyDscp
  initiator := s.isSet .initiator
  inbound := s.isSet .inbound
  update := s.isSet .update

def params : Except Failure Sa.Params :=
  match s.value? .encAlg with
  | none => .error (s.lacking .addSa)
  | some encAlg => .ok {
      reqid := (s.value? .reqid).getD 0
      mode := (s.value? .mode).getD "tunnel"
      interface := (s.value? .interface).getD ""
      encAlg
      encKey := (s.value? .encKey).getD []
      intAlg := (s.value? .intAlg).getD "none"
      intKey := (s.value? .intKey).getD []
      replayWindow := (s.value? .replayWindow).getD 32
      tfc := (s.value? .tfc).getD 0
      flags := s.flags }

/-- The names in all lists of an option, or the default if it is not given. -/
def namesOr (default : List String) (lists : List (List String)) : List String :=
  if lists.isEmpty then default else lists.flatten

def tunnelArgs : TunnelArgs where
  conn := (s.value? .conn).getD "opi-test"
  child := (s.value? .child).getD "opi-child"
  localAddr := (s.value? .localAddr).getD "192.168.200.200"
  remoteAddr := (s.value? .remoteAddr).getD "192.168.200.210"
  localId := (s.value? .localId).getD "hacker@strongswan.org"
  remoteId := (s.value? .remoteId).getD "server.strongswan.org"
  auth := (s.value? .auth).getD "psk"
  proposal := namesOr ["aes_gcm_icv_16"] (s.values .proposal)
  integ := namesOr [] (s.values .integ)
  dh := namesOr ["curve25519"] (s.values .dh)
  localTs := (s.value? .localTs).getD "10.3.0.0/16"
  remoteTs := (s.value? .remoteTs).getD "10.1.0.0/16"
  pingAddr := (s.value? .pingAddr).getD "10.1.0.2"
  certType := (s.value? .certType).getD "X509"
  connFile := (s.value? .connFile).map .ofText
  cleanupTimeout := (s.value? .cleanupTimeout).getD 5
  advisoryIntrospection := s.isSet .advisoryIntrospection

def command : Verb → Except Failure Command
  | .addSa => do return .addSa (← s.identifierArgs .addSa) (← s.params)
  | .delSa => do return .delSa (← s.identifierArgs .delSa)
  | .stats => .ok .stats
  | .tunnelTest => .ok (.tunnelTest s.tunnelArgs)

end Settings

structure Invocation where
  command : Command
  addr : String
  tls : Option String
  /-- Seconds for the command. -/
  seconds : Option Nat
  logLevel : String
  deriving DecidableEq, Repr

namespace Invocation

/-- A command with the global options; one behind the command counts more than one in front. -/
def of (command : Command) (outside inside : Settings) : Invocation where
  command
  addr := ((inside.value? .addr).or (outside.value? .addr)).getD "localhost:50151"
  tls := (inside.value? .tls).or (outside.value? .tls)
  seconds := (inside.value? .timeout).or (outside.value? .timeout)
  logLevel := ((inside.value? .logLevel).or (outside.value? .logLevel)).getD "info"

def parse (args : List String) : Except Failure Invocation := do
  let (r, command?) ← read .top {} args
  match command? with
  | none =>
    let outside ← r.settle
    .error (if outside.isEmpty then .nothing else .noSubcommand)
  | some (verb, rest) =>
    let inside ← readInside verb rest
    let command ← inside.command verb
    let outside ← r.settle
    return .of command outside inside

variable (i : Invocation)

def timeout : Duration :=
  match i.seconds with
  | some n => .ofSeconds n
  | none => i.command.defaultTimeout

/-- Where the control plane is, if the files for TLS are well written. -/
def transport : Result Transport.Config := do
  let tls ← match i.tls with
    | some spec => some <$> Transport.TlsFiles.parse spec
    | none => pure none
  return { endpoint := i.addr, tls }

end Invocation
end IPsecControl.CommandLine
