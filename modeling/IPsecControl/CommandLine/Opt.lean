import IPsecControl.CommandLine.Value

/-! The commands of the program and their options. An option has a long name, some have a
letter; an option that takes a value shows where it stands by a word in angle brackets. -/
namespace IPsecControl.CommandLine

inductive Verb where
  | addSa
  | delSa
  | stats
  | tunnelTest
  deriving DecidableEq, Repr

def Verb.all : List Verb := [.addSa, .delSa, .stats, .tunnelTest]

def Verb.name : Verb → String
  | .addSa => "add-sa"
  | .delSa => "del-sa"
  | .stats => "stats"
  | .tunnelTest => "tunnel-test"

def Verb.ofName? (name : String) : Option Verb := Verb.all.find? (·.name = name)

inductive Opt where
  | help | version
  | addr | tls | timeout | logLevel
  | src | dst | spi | proto | ifId
  | reqid | mode | interface | encAlg | encKey | intAlg | intKey | replayWindow | tfc
  | encap | esn | copyDf | copyEcn | copyDscp | initiator | inbound | update
  | conn | child | localAddr | remoteAddr | localId | remoteId | auth
  | proposal | integ | dh | localTs | remoteTs
  | pingAddr | certType | connFile | cleanupTimeout | advisoryIntrospection
  deriving DecidableEq, Repr

namespace Opt

def name : Opt → String
  | .help => "help"
  | .version => "version"
  | .addr => "addr"
  | .tls => "tls"
  | .timeout => "timeout"
  | .logLevel => "log-level"
  | .src => "src"
  | .dst => "dst"
  | .spi => "spi"
  | .proto => "proto"
  | .ifId => "if_id"
  | .reqid => "reqid"
  | .mode => "mode"
  | .interface => "interface"
  | .encAlg => "enc_alg"
  | .encKey => "enc_key"
  | .intAlg => "int_alg"
  | .intKey => "int_key"
  | .replayWindow => "replay_window"
  | .tfc => "tfc"
  | .encap => "encap"
  | .esn => "esn"
  | .copyDf => "copy_df"
  | .copyEcn => "copy_ecn"
  | .copyDscp => "copy_dscp"
  | .initiator => "initiator"
  | .inbound => "inbound"
  | .update => "update"
  | .conn => "conn"
  | .child => "child"
  | .localAddr => "local"
  | .remoteAddr => "remote"
  | .localId => "local-id"
  | .remoteId => "remote-id"
  | .auth => "auth"
  | .proposal => "proposal"
  | .integ => "integ"
  | .dh => "dh"
  | .localTs => "local-ts"
  | .remoteTs => "remote-ts"
  | .pingAddr => "ping-addr"
  | .certType => "cert-type"
  | .connFile => "conn-file"
  | .cleanupTimeout => "cleanup-timeout"
  | .advisoryIntrospection => "advisory-introspection"

def letter? : Opt → Option Char
  | .help => some 'h'
  | .version => some 'V'
  | .logLevel => some 'l'
  | _ => none

abbrev kind : Opt → Kind
  | .help | .version | .encap | .esn | .copyDf | .copyEcn | .copyDscp | .initiator | .inbound
  | .update | .advisoryIntrospection => .flag
  | .timeout | .cleanupTimeout => .long
  | .src | .dst => .address
  | .spi => .index
  | .ifId | .reqid | .replayWindow | .tfc => .word
  | .encKey | .intKey => .key
  | .proposal | .integ | .dh => .names
  | .connFile => .path
  | .addr | .tls | .logLevel | .proto | .mode | .interface | .encAlg | .intAlg | .conn | .child
  | .localAddr | .remoteAddr | .localId | .remoteId | .auth | .localTs | .remoteTs | .pingAddr
  | .certType => .text

def shown (o : Opt) : String :=
  let placeholder := o.name.toList.map fun c => if c = '-' then '_' else c.toUpper
  if o.kind = .flag then "--" ++ o.name
  else "--" ++ o.name ++ " <" ++ String.ofList placeholder ++ ">"

/-- Options that every command takes, too. -/
def globals : List Opt := [.addr, .tls, .timeout, .logLevel]

/-- Options that identify an association. -/
def identifiers : List Opt := [.src, .dst, .spi, .proto, .ifId]

/-- Options that define a connection. -/
def definitions : List Opt :=
  [.conn, .localAddr, .remoteAddr, .localId, .remoteId, .auth, .proposal, .integ, .dh, .localTs,
   .remoteTs]

/-- A definition from a file leaves no room for options that define a connection. -/
def clashes (a b : Opt) : Bool :=
  (a = .connFile && b ∈ definitions) || (b = .connFile && a ∈ definitions)

end Opt

/-- Where an option stands: in front of the command, or behind it. -/
inductive Level where
  | top
  | inside (verb : Verb)
  deriving DecidableEq, Repr

namespace Level

/-- The options of a command, without the global ones. -/
def own : Verb → List Opt
  | .addSa => Opt.identifiers ++
    [.reqid, .mode, .interface, .encAlg, .encKey, .intAlg, .intKey, .replayWindow, .tfc, .encap,
     .esn, .copyDf, .copyEcn, .copyDscp, .initiator, .inbound, .update]
  | .delSa => Opt.identifiers
  | .stats => []
  | .tunnelTest => Opt.definitions ++
    [.child, .pingAddr, .certType, .connFile, .cleanupTimeout, .advisoryIntrospection]

def options : Level → List Opt
  | .top => [.help, .version] ++ Opt.globals
  | .inside verb => .help :: Opt.globals ++ own verb

def named? (l : Level) (name : String) : Option Opt := l.options.find? (·.name = name)

def lettered? (l : Level) (c : Char) : Option Opt := l.options.find? (·.letter? = some c)

def required : Verb → List Opt
  | .addSa => [.src, .dst, .spi, .ifId, .encAlg]
  | .delSa => [.src, .dst, .spi, .ifId]
  | .stats | .tunnelTest => []

end Level
end IPsecControl.CommandLine
