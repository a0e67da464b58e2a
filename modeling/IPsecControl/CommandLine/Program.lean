import IPsecControl.CommandLine.Invocation
import IPsecControl.Control.RemotePlane
import IPsecControl.Log.Filter
import IPsecControl.Probe.Ping
import IPsecControl.Tunnel.Lifecycle

/-! The program: what it prints and logs for a command line, and how it ends. -/
namespace IPsecControl.CommandLine
open Message

/-- What the program finds around it. -/
structure World where
  plane : RemotePlane
  files : Files.Reader
  machine : Shell.Machine
  /-- The log filter that is set from outside. -/
  logFilter : Option String := none
  now : Instant := ⟨0⟩

inductive Written where
  | printed (text : String)
  /-- Written where errors go. -/
  | complained (text : String)
  | logged (line : Log.Line)
  deriving DecidableEq, Repr

structure Outcome where
  exitCode : Nat
  written : List Written := []
  /-- The calls that were made. -/
  calls : List Call := []
  /-- The probes that were started. -/
  probes : List (String × Nat) := []

/-! ### Texts -/

/-- An error with the one behind it. -/
def errorText (e : Error) : String :=
  match e.cause? with
  | some cause => e.message ++ ": " ++ cause.message
  | none => e.message

def errorIn (context : String) (e : Error) : String := context ++ ": " ++ errorText e

def ikeSaLines (sa : ListIkeSa) : List String :=
  ("  ike " ++ sa.name ++ " #" ++ sa.uniqueid ++ " " ++ sa.ikestate ++ " " ++ sa.localHost ++
    " <-> " ++ sa.remoteHost) ::
  sa.childsas.map fun child =>
    "    child " ++ child.name ++ " " ++ child.mode ++ " " ++ child.state ++
      " in " ++ child.spiIn ++
      " out " ++ child.spiOut

def warningLine (label : String) (w : Tunnel.Warning) : String :=
  "  " ++ label ++ ": " ++ w.step.name ++ ": " ++ w.message

def reportLines (r : Tunnel.Report) : List String :=
  ["connection " ++ r.connection ++ " child " ++ r.child ++ ": " ++ r.state.name,
    "  completed: " ++ ", ".intercalate (r.completed.map Tunnel.Step.name)] ++
  r.ikeSas.flatMap ikeSaLines ++
  (match r.probe with
    | some s => ["  probe: " ++ s.text]
    | none => []) ++
  r.warnings.map (warningLine "warning") ++
  r.cleanupFailures.map (warningLine "cleanup failed")

def daemonLines (d : Tunnel.DaemonInfo) : List String :=
  let v := d.version
  [v.daemon ++ " " ++ v.version ++ " (" ++ v.sysname ++ " " ++ v.release ++ " " ++ v.machine ++ ")",
    d.status]

/-! ### Running -/

/-- What a command prints in the end, and its failure if it failed. -/
structure Verdict where
  lines : List String := []
  failure : Option String := none

def Verdict.ofResult {α : Type} (context : String) (lines : α → List String) : Result α → Verdict
  | .ok a => { lines := lines a }
  | .error e => { failure := some (errorIn context e) }

def Command.run (files : Files.Reader) (timeout : Duration) : Command → Run Verdict
  | .addSa a params =>
    match a.identifier with
    | .error e => return { failure := some (errorText e) }
    | .ok id => do
      let result ← Sa.add timeout id params
      return .ofResult "AddSA failed" (fun _ => ["Added SA " ++ id.text]) result
  | .delSa a =>
    match a.identifier with
    | .error e => return { failure := some (errorText e) }
    | .ok id => do
      let result ← Sa.delete timeout id
      return .ofResult "DeleteSA failed" (fun _ => ["Deleted SA " ++ id.text]) result
  | .stats => do
    return .ofResult "Daemon query failed" daemonLines (← Tunnel.queryDaemon timeout)
  | .tunnelTest a =>
    match a.config files timeout with
    | .error e => return { failure := some (errorText e) }
    | .ok config => do
      match ← Tunnel.run config with
      | .ok report => return { lines := reportLines report }
      | .error aborted => return {
          lines := reportLines aborted.report
          failure := some (errorIn aborted.message aborted.failure.error) }

def startLine (c : Transport.Config) : Log.Line :=
  Log.info .program "Starting ipsecmgr" [c.endpointField, c.tlsField]

def failureLine (text : String) : Log.Line := Log.error .program text

/-- The longest run of `ping`. -/
def probeDeadline (timeout : Duration) : Duration := timeout.min Probe.defaultDeadline

/-- The exit code of a program that is ended by a halt. -/
def haltCode : Nat := 101

def Invocation.run (i : Invocation) (w : World) : Outcome :=
  match i.transport with
  | .error e =>
    { exitCode := 1
      written := [.logged (failureLine (errorIn "Invalid transport configuration" e))] }
  | .ok transport =>
    let transport := { transport with connectTimeout := i.timeout }
    let environment : Environment := {
      connector := w.plane.connector w.files transport
      prober := Probe.ping w.machine (probeDeadline i.timeout) }
    let logged (s : Session) := (startLine transport :: s.log).map Written.logged
    match i.command.run w.files i.timeout environment { now := w.now } with
    | .error halt =>
      { exitCode := haltCode
        written := logged halt.session
        calls := halt.session.calls
        probes := halt.session.probes }
    | .ok (verdict, s) =>
      { exitCode := if verdict.failure.isSome then 1 else 0
        written := logged s ++ verdict.lines.map .printed ++
          (verdict.failure.toList.map fun text => .logged (failureLine text))
        calls := s.calls
        probes := s.probes }

/-- Leaves out the lines that a filter does not show. -/
def Outcome.filtered (filter : Log.Filter) (o : Outcome) : Outcome :=
  { o with
    written := o.written.filter fun
      | .printed _ | .complained _ => true
      | .logged line => filter.shows line }

/-- The files that an invocation may read. -/
def Invocation.paths (i : Invocation) : List Files.Path :=
  let tls := match i.transport with
    | .ok { tls := some t, .. } => [t.clientCert, t.clientKey, t.caCert]
    | _ => []
  match i.command with
  | .tunnelTest a => tls ++ a.connFile.toList
  | _ => tls

def run (w : World) (args : List String) : Outcome :=
  match Invocation.parse args with
  | .ok i =>
    match Log.filterOf w.logFilter i.logLevel with
    | some filter => (i.run w).filtered filter
    | none => { exitCode := haltCode }
  | .error failure =>
    let written : Written :=
      if failure.exitCode = 0 then .printed failure.message else .complained failure.message
    { exitCode := failure.exitCode, written := if failure.message = "" then [] else [written] }

end IPsecControl.CommandLine
