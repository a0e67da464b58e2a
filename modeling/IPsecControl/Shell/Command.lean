import IPsecControl.Control.Connector
import IPsecControl.Shell.Run

/-! Commands that a shell runs on a machine, and what is kept of them. A command that fails
is an answer like any other; only one that cannot be started is an error. -/
namespace IPsecControl.Shell

/-- Where commands run: the programs there are, and how long a command takes. -/
structure Machine where
  host : Host
  /-- The files in the directory where commands run. -/
  files : List (String × Bytes) := []
  runtime : String → Duration := fun _ => .zero

def longestCommand : Nat := 131071

/-- Why a command cannot be started. -/
def obstacle? (command : String) : Option SystemError :=
  if command.toList.any (·.toNat = 0) then some .zeroInArgument
  else if longestCommand < command.utf8ByteSize then some .argumentTooLong
  else none

def commandField (command : String) : Log.Field := Log.shown "command" command

/-- What is logged about a command that ended. -/
def endLines (command : String) (o : Output) : List Log.Line :=
  if o.success then []
  else [Log.debug .shell "Non-zero exit"
    [commandField command, ⟨"exit_code", Text.signedDecimal o.exitCode⟩]]

def Machine.exec (m : Machine) (command : String) : Reply Output :=
  let notes := [Log.debug .shell "Running" [commandField command]]
  match obstacle? command with
  | some cause => { outcome := .error (.spawnFailed command cause), notes }
  | none =>
    let o := Output.ofFinished (execute m.host m.files command)
    { delay := m.runtime command, outcome := .ok o, notes, remarks := endLines command o }

end IPsecControl.Shell
