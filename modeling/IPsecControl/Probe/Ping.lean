import IPsecControl.Probe.Prober
import IPsecControl.Probe.Summary
import IPsecControl.Shell.Command

/-! Probing with the `ping` of a machine. It bounds its own run by a deadline; a run that
goes on after that and a grace time is given up. A run that printed a summary succeeded,
whatever its exit code. -/
namespace IPsecControl.Probe

def pingProgram : String := "/bin/ping"

def defaultDeadline : Duration := .ofSeconds 10

/-- How long after its deadline a run is given up. -/
def graceTime : Duration := .ofSeconds 2

def pingCommand (deadline : Duration) (target : String) (count : Nat) : String :=
  pingProgram ++ " -c " ++ Text.decimal count ++ " -w " ++
    Text.decimal (Nat.max deadline.seconds 1) ++ " " ++ Shell.quote target

/-- What the output of a run says. -/
def pingOutcome (command : String) (o : Shell.Output) : Result Statistics :=
  match Statistics.parse o.stdout with
  | .ok s => .ok s
  | .error e =>
    if o.success then .error e else .error (.commandFailed command o.exitCode o.combined)

def finishLines (target : String) : Result Statistics → List Log.Line
  | .ok s =>
    [Log.info .probe "Probe finished" [Log.shown "target" target, Log.shown "stats" s.text]]
  | .error _ => []

/-- The answer to a run that is given up after a time. -/
def giveUp (budget : Duration) (target : String) (reply : Reply Statistics) : Reply Statistics :=
  if reply.delay.nanos ≤ budget.nanos then reply
  else
    { delay := budget
      outcome := .error (.timedOut ("ping " ++ target) budget)
      notes := reply.notes }

def ping (m : Shell.Machine) (deadline : Duration) : Prober := fun target count =>
  match deadline.add? graceTime with
  | none => .error .duration
  | some budget =>
    let command := pingCommand deadline target count
    let run := m.exec command
    let outcome := run.outcome.bind (pingOutcome command)
    .ok <| giveUp budget target {
      delay := run.delay
      outcome
      notes :=
        Log.debug .probe "Probing" [Log.shown "target" target, Log.counted "count" count] ::
          run.notes
      remarks := run.remarks ++ finishLines target outcome }

end IPsecControl.Probe
