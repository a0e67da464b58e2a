import IPsecControl.Control.Guard
import IPsecControl.Tunnel.Report

/-! The lifecycle of a tunnel. A run loads a connection, negotiates, looks at what the
daemon has, probes the tunnel and rekeys, all under one deadline; then it terminates and
unloads, each with time of its own. A failure before the negotiation ends the run at once,
a later one after the cleanup. A cancelled run calls nothing any more, so the daemon stays
in the state that the report shows. -/
namespace IPsecControl.Tunnel
open Message

/-- A run that failed, and what it had done by then. -/
structure Aborted where
  failure : Failure
  report : Report
  deriving DecidableEq

def Aborted.message (a : Aborted) : String :=
  a.failure.step.name ++ " failed: " ++ a.failure.error.message

namespace Config
variable (config : Config)

def conn : Log.Field := Log.shown "conn" config.connection

/-- Sends the request of a step, or starts the probe. -/
def issue (load : LoadConnRequest) : (step : Step) → Run (Reply step.Outcome)
  | .connect => return { outcome := .ok () }
  | .version => Run.send .version {}
  | .stats => Run.send .stats {}
  | .loadConn => Run.send .loadConn load
  | .initiate => Run.send .initiate { child := config.child, ike := config.connection }
  | .listSas => Run.send .listSas { ike := config.connection }
  | .listConns => Run.send .listConns { ike := config.connection }
  | .listCerts => Run.send .listCerts { type := config.certType }
  | .probe => do
    let reply ← Run.startProbe config.probeTarget Probe.verificationCount
    return Probe.verified config.probeTarget reply
  | .rekey => Run.send .rekey { ike := config.connection }
  | .terminate => Run.send .terminate { ike := config.connection }
  | .unloadConn => Run.send .unloadConn { name := config.connection }

/-- What is logged when a step begins. -/
def entryLines : Step → List Log.Line
  | .probe => [Log.info .tunnel "Tunnel established" [config.conn]]
  | _ => []

/-- What is logged when a step succeeds. -/
def successLines : (step : Step) → step.Outcome → List Log.Line
  | .connect, _ | .probe, _ => []
  | .version, (response : VersionResponse) =>
    [Log.info .tunnel "Daemon version"
      [Log.shown "daemon" response.daemon, Log.shown "version" response.version]]
  | .stats, (response : StatsResponse) =>
    [Log.debug .tunnel "Daemon statistics" [Log.shown "status" response.status]]
  | .loadConn, _ => [Log.info .tunnel "Connection loaded" [config.conn]]
  | .initiate, _ =>
    [Log.info .tunnel "Negotiation initiated" [config.conn, Log.shown "child" config.child]]
  | .listSas, (response : ListSasResponse) =>
    (if Report.lists config.connection response then []
      else [Log.warn .tunnel "Daemon reports no IKE SA for the connection" [config.conn]]) ++
    [Log.info .tunnel "Listed SAs" [config.conn, Log.counted "ike_sas" response.ikesas.length]]
  | .listConns, (response : ListConnsResponse) =>
    [Log.info .tunnel "Listed connections"
      [config.conn, Log.counted "connections" response.connection.length]]
  | .listCerts, (response : ListCertsResponse) =>
    [Log.info .tunnel "Listed certificates"
      [Log.shown "cert_type" config.certType, Log.counted "certs" response.certs.length]]
  | .rekey, (response : RekeyResponse) =>
    [Log.info .tunnel "IKE SA rekeyed" [config.conn, Log.counted "matches" response.matched.toNat]]
  | .terminate, (response : TerminateResponse) =>
    [Log.info .tunnel "IKE SA terminated"
      [config.conn, Log.counted "terminated" response.terminated.toNat]]
  | .unloadConn, _ => [Log.info .tunnel "Connection unloaded" [config.conn]]

/-- A failure that does not stop the run. Giving up always stops it. -/
def tolerates (f : Failure) : Bool :=
  !f.error.isCancelled &&
    (f.step.isAdvisory || (f.step.isListing && config.advisoryIntrospection))

end Config

def Failure.fields (f : Failure) : List Log.Field :=
  [Log.shown "step" f.step.name, Log.shown "error" f.error.message]

def Failure.toleratedLine (f : Failure) : Log.Line :=
  if f.step.isAdvisory then Log.warn .tunnel "Advisory step failed, continuing" f.fields
  else Log.warn .tunnel "Introspection failed, continuing" f.fields

/-- A run under way: its report, and the first listing that failed. -/
structure Progress where
  report : Report
  failedListing : Option Failure := none

namespace Progress
variable (p : Progress)

/-- Begins a step. The probe needs a listing that succeeded, if any was tried. -/
def begin? (step : Step) : Except Failure Progress :=
  match step, p.failedListing, p.report.introspected with
  | .probe, some f, false => .error f
  | _, _, _ => .ok { p with report := p.report.advance step.during? }

def succeed (step : Step) (outcome : step.Outcome) : Progress :=
  { p with report := p.report.succeed step outcome }

def tolerate (f : Failure) : Progress where
  report := p.report.warn f.warning
  failedListing := if f.step.isListing then p.failedListing.or (some f) else p.failedListing

end Progress

/-- The steps that share one deadline. -/
def sharedSteps : List Step :=
  [.version, .stats, .loadConn, .initiate, .listSas, .listConns, .listCerts, .probe, .rekey]

/-- The steps that undo a negotiation. -/
def cleanupSteps : List Step := [.terminate, .unloadConn]

/-- The steps before a negotiation; when they fail there is nothing to undo. -/
def Step.precedesNegotiation : Step → Bool
  | .connect | .version | .stats | .loadConn => true
  | _ => false

section
variable (config : Config) (load : LoadConnRequest)

/-- Carries out steps under one guard, up to the first failure that is not tolerated. -/
def drive (guard : Guard) : List Step → Progress → Run (Report × Option Failure)
  | [], p => return (p.report, none)
  | step :: rest, p => do
    match p.begin? step with
    | .error f => return (p.report, some f)
    | .ok p =>
      Run.logAll (config.entryLines step)
      match ← guard.run step.name (config.issue load step) with
      | .ok outcome =>
        Run.logAll (config.successLines step outcome)
        drive guard rest (p.succeed step outcome)
      | .error e =>
        let f : Failure := ⟨step, e⟩
        if config.tolerates f then
          Run.log f.toleratedLine
          drive guard rest (p.tolerate f)
        else return (p.report, some f)

def Config.cleanupLine (f : Failure) : Log.Line :=
  let fields := [config.conn, Log.shown "error" f.error.message]
  match f.step with
  | .terminate => Log.error .tunnel "Terminate failed, connection left loaded" fields
  | _ => Log.error .tunnel "Unload failed" fields

/-- Carries out cleanup steps, each under a guard of its own, up to the first failure. -/
def tearDown : List Step → Report → Run (Report × Option Failure)
  | [], r => return (r, none)
  | step :: rest, r => do
    let guard ← Guard.start config.cleanupTimeout
    match ← guard.run step.name (config.issue load step) with
    | .ok outcome =>
      Run.logAll (config.successLines step outcome)
      tearDown rest (r.succeed step outcome)
    | .error e =>
      let f : Failure := ⟨step, e⟩
      Run.log (config.cleanupLine f)
      return ({ r with cleanupFailures := r.cleanupFailures ++ [f.warning] }, some f)

/-- Cleans up after a negotiation, unless the run is cancelled. -/
def cleanup (r : Report) : Run (Report × Option Failure) := do
  if ← Run.look then
    Run.log (Log.warn .tunnel "Cancelled, connection left on daemon"
      [config.conn, Log.shown "state" r.state.name])
    return (r, none)
  else tearDown config load cleanupSteps r

/-- Everything a run does with its client. An earlier failure outweighs one of the cleanup. -/
def exercise : Run (Report × Option Failure) := do
  let guard ← Guard.start config.timeout
  let (report, failure) ← drive config load guard sharedSteps ⟨Report.start config, none⟩
  if failure.any (·.step.precedesNegotiation) then return (report, failure)
  let (report, cleanupFailure) ← cleanup config load report
  return (report, failure.or cleanupFailure)

end

/-- Opens the client of a run, unless the run is cancelled. -/
def connect : Run (Result Unit) := do
  if ← Run.look then return .error (.cancelled Step.connect.name)
  Run.openClient

/-- A whole run. The connection is validated before a client is opened, and a client that
was opened is closed. -/
def run (config : Config) : Run (Except Aborted Report) := do
  match config.loadRequest with
  | .error e => return .error ⟨⟨.loadConn, e⟩, Report.start config⟩
  | .ok load =>
    match ← connect with
    | .error e =>
      Run.log (Log.error .tunnel "Could not open control-plane client"
        [config.conn, Log.shown "error" e.message])
      return .error ⟨⟨.connect, e⟩, Report.start config⟩
    | .ok () =>
      Run.log (Log.info .tunnel "Starting tunnel lifecycle"
        [config.conn, Log.shown "child" config.child])
      let (report, failure) ← exercise config load
      Run.closeClient
      match failure with
      | none =>
        Run.log (Log.info .tunnel "Tunnel lifecycle complete"
          [config.conn, Log.shown "state" report.state.name])
        return .ok report
      | some f =>
        Run.log (Log.error .tunnel "Tunnel lifecycle failed"
          [config.conn, Log.shown "step" f.step.name, Log.shown "state" report.state.name,
           Log.shown "error" f.error.message])
        return .error ⟨f, report⟩

end IPsecControl.Tunnel
