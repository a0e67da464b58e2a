import IPsecControl.Control.Rpc
import IPsecControl.Error.Basic
import IPsecControl.Probe.Statistics
import IPsecControl.Tunnel.Config

/-! Steps, states and reports of the tunnel lifecycle. -/
namespace IPsecControl.Tunnel
open Message

/-- Where a run stands. -/
inductive State where
  | unloaded
  | loaded
  | negotiating
  | established
  | rekeyed
  | terminated
  deriving DecidableEq, Repr

def State.name : State → String
  | .unloaded => "unloaded"
  | .loaded => "loaded"
  | .negotiating => "negotiating"
  | .established => "established"
  | .rekeyed => "rekeyed"
  | .terminated => "terminated"

/-- The steps of a run, in order. -/
inductive Step where
  | connect
  | version
  | stats
  | loadConn
  | initiate
  | listSas
  | listConns
  | listCerts
  | probe
  | rekey
  | terminate
  | unloadConn
  deriving DecidableEq, Repr

namespace Step

def rpc? : Step → Option Rpc
  | .connect | .probe => none
  | .version => some .version
  | .stats => some .stats
  | .loadConn => some .loadConn
  | .initiate => some .initiate
  | .listSas => some .listSas
  | .listConns => some .listConns
  | .listCerts => some .listCerts
  | .rekey => some .rekey
  | .terminate => some .terminate
  | .unloadConn => some .unloadConn

def name : Step → String
  | .connect => "Connect"
  | .probe => "Probe"
  | .version => Rpc.version.name
  | .stats => Rpc.stats.name
  | .loadConn => Rpc.loadConn.name
  | .initiate => Rpc.initiate.name
  | .listSas => Rpc.listSas.name
  | .listConns => Rpc.listConns.name
  | .listCerts => Rpc.listCerts.name
  | .rekey => Rpc.rekey.name
  | .terminate => Rpc.terminate.name
  | .unloadConn => Rpc.unloadConn.name

/-- Failures of these steps are logged and the run goes on. -/
def isAdvisory : Step → Bool
  | .version | .stats => true
  | _ => false

/-- The steps that look at what the daemon has. -/
def isListing : Step → Bool
  | .listSas | .listConns | .listCerts => true
  | _ => false

/-- The state in which a step is carried out, where it differs from the one before. -/
def during? : Step → Option State
  | .initiate => some .negotiating
  | .probe => some .established
  | _ => none

/-- The state that a successful step leads to. -/
def reached? : Step → Option State
  | .loadConn => some .loaded
  | .rekey => some .rekeyed
  | .terminate => some .terminated
  | .unloadConn => some .unloaded
  | _ => none

/-- What a step brings when it succeeds. -/
abbrev Outcome : Step → Type
  | .connect => Unit
  | .probe => Probe.Statistics
  | .version => VersionResponse
  | .stats => StatsResponse
  | .loadConn => LoadConnResponse
  | .initiate => InitiateResponse
  | .listSas => ListSasResponse
  | .listConns => ListConnsResponse
  | .listCerts => ListCertsResponse
  | .rekey => RekeyResponse
  | .terminate => TerminateResponse
  | .unloadConn => UnloadConnResponse

end Step

structure Failure where
  step : Step
  error : Error
  deriving DecidableEq, Repr

/-- Something worth telling about a step that did not stop the run. -/
structure Warning where
  step : Step
  message : String
  deriving DecidableEq, Repr

def Failure.warning (f : Failure) : Warning := ⟨f.step, f.error.message⟩

/-- Everything observed during a run. -/
structure Report where
  connection : String
  child : String
  state : State := .unloaded
  /-- The states before this one, latest first. -/
  passed : List State := []
  /-- The steps that succeeded, in order. -/
  completed : List Step := []
  warnings : List Warning := []
  cleanupFailures : List Warning := []
  daemon : Option VersionResponse := none
  daemonStatus : Option String := none
  ikeSas : List ListIkeSa := []
  connections : List ListConnResp := []
  certificates : Nat := 0
  probe : Option Probe.Statistics := none
  deriving DecidableEq, Repr

namespace Report

/-- The report of a run that has done nothing yet. -/
def start (config : Config) : Report where
  connection := config.connection
  child := config.child

/-- All states from the first to the current one. -/
def path (r : Report) : List State := (r.state :: r.passed).reverse

def enter (state : State) (r : Report) : Report := { r with state, passed := r.state :: r.passed }

def complete (step : Step) (r : Report) : Report := { r with completed := r.completed ++ [step] }

def warn (w : Warning) (r : Report) : Report := { r with warnings := r.warnings ++ [w] }

/-- One of the associations is the connection's. -/
def lists (connection : String) (response : ListSasResponse) : Bool :=
  response.ikesas.any (·.name = connection)

/-- Keeps what a successful step brought. -/
def keep (r : Report) : (step : Step) → step.Outcome → Report
  | .version, response => { r with daemon := some response }
  | .stats, (response : StatsResponse) => { r with daemonStatus := some response.status }
  | .listSas, (response : ListSasResponse) =>
    let r := { r with ikeSas := response.ikesas }
    if lists r.connection response then r
    else r.warn ⟨.listSas, "no IKE SA listed for '" ++ r.connection ++ "'"⟩
  | .listConns, (response : ListConnsResponse) => { r with connections := response.connection }
  | .listCerts, (response : ListCertsResponse) => { r with certificates := response.certs.length }
  | .probe, statistics => { r with probe := some statistics }
  | .connect, _ | .loadConn, _ | .initiate, _ | .rekey, _ | .terminate, _ | .unloadConn, _ => r

/-- Moves on to the state that a step leads to, if it leads to one. -/
def advance (state? : Option State) (r : Report) : Report :=
  match state? with
  | some state => r.enter state
  | none => r

def succeed (r : Report) (step : Step) (outcome : step.Outcome) : Report :=
  ((r.keep step outcome).complete step).advance step.reached?

/-- At least one listing succeeded. -/
def introspected (r : Report) : Bool := r.completed.any Step.isListing

end Report
end IPsecControl.Tunnel
