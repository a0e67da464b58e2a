import IPsecControl.Shell.Output
import IPsecControl.Shell.Printing
import IPsecControl.Shell.Script

/-! What a shell knows while it runs: variables, arguments, functions, the status of the last
command, where its outputs go and what it can still read. -/
namespace IPsecControl.Shell
open Text

inductive Target where
  /-- A text that is kept, by its number. -/
  | kept (n : Nat)
  | file (name : String)
  | nowhere
  deriving DecidableEq, Repr

/-- What is left at once. -/
inductive Leaving where
  | shell (e : Ending)
  | function
  /-- This many loops around the command. -/
  | loops (n : Nat)
  /-- The turn of the loop that this many loops around the command make. -/
  | turn (n : Nat)
  deriving DecidableEq, Repr

structure State where
  name : String := "/bin/sh"
  /-- What it says in front of complaints. -/
  speaker : String := ""
  /-- The number of the process. -/
  process : String := "4242"
  arguments : List String := []
  /-- The variables and their values. -/
  settings : List (String × String) := []
  exported : List String := []
  readOnly : List String := []
  functions : List (String × Script) := []
  /-- Letters of the options that are on. -/
  options : List Char := []
  /-- Whether a failure is looked at, and does not end the shell. -/
  tested : Bool := false
  /-- What is run when a signal arrives, or at the end for signal zero. -/
  traps : List (Nat × String) := []
  /-- Signals that arrived and are not dealt with. -/
  pending : List Nat := []
  /-- Processes in the background, the last one first, and their statuses. -/
  background : List (String × Nat) := []
  directory : String := "."
  mask : String := "0022"
  files : List (String × Bytes) := []
  status : Nat := 0
  /-- The status of the last substitution in a command. -/
  substituted : Nat := 0
  leaving : Option Leaving := none
  /-- The loops and the functions around the command. -/
  loops : Nat := 0
  calls : Nat := 0
  /-- What variables of the function held outside it. -/
  outside : List (String × Option String) := []
  /-- What can still be read. -/
  input : Bytes := []
  descriptors : List (Nat × Target) := [(1, .kept 0), (2, .kept 1)]
  kept : List Bytes := [[], []]

namespace State

def target? (s : State) (descriptor : Nat) : Option Target := s.descriptors.lookup descriptor

def redirect (descriptor : Nat) (target? : Option Target) (s : State) : State :=
  let others := s.descriptors.filter (·.1 ≠ descriptor)
  { s with descriptors := match target? with
      | some t => (descriptor, t) :: others
      | none => others }

def putFile (name : String) (bytes : Bytes) (s : State) : State :=
  { s with files := (name, bytes) :: s.files.filter (·.1 ≠ name) }

def write (descriptor : Nat) (bytes : Bytes) (s : State) : State :=
  match s.target? descriptor with
  | some (.kept n) => { s with kept := s.kept.modify n (· ++ bytes) }
  | some (.file name) => s.putFile name ((s.files.lookup name).getD [] ++ bytes)
  | some .nowhere | none => s

def print (bytes : Bytes) (s : State) : State := s.write 1 bytes

def printLine (line : String) (s : State) : State := s.write 2 (Utf8.bytes (line ++ "\n"))

/-- Complains about something in a line of the script. -/
def complain (line : Nat) (message : String) (s : State) : State :=
  s.printLine (s.name ++ ": " ++ decimal line ++ ": " ++ message)

/-- Complains about the script itself, or a command that is not its own. -/
def complainOf (line : Nat) (message : String) (s : State) : State :=
  s.complain line (s.speaker ++ message)

def withStatus (status : Nat) (s : State) : State := { s with status }

def leave (leaving : Leaving) (s : State) : State := { s with leaving := some leaving }

def finish (ending : Ending) (s : State) : State :=
  { s with
    leaving := some (.shell ending)
    status := match ending with
      | .exited code => code
      | .killed signal => 128 + signal }

/-- Ends the shell because of a mistake of a command. -/
def fail (line : Nat) (message : String) (s : State) : State :=
  (s.complain line message).finish (.exited 2)

/-- Ends the shell because of a mistake in the script. -/
def failOf (line : Nat) (message : String) (s : State) : State :=
  (s.complainOf line message).finish (.exited 2)

/-- Complains in the name of a command, which fails. -/
def refuse (line status : Nat) (message : String) (s : State) : State :=
  (s.complain line message).withStatus status

def has (option : Char) (s : State) : Bool := s.options.contains option

/-- The value of a parameter, if it is set. -/
def value? (s : State) (name : String) : Option String :=
  match name with
  | "0" => some s.name
  | "$" => some s.process
  | "?" => some (decimal s.status)
  | "#" => some (decimal s.arguments.length)
  | "-" => some (String.ofList s.options)
  | "!" => s.background.head?.map (·.1)
  | "@" | "*" => if s.arguments.isEmpty then none else some (" ".intercalate s.arguments)
  | _ =>
    match (readBounded 10 (1 <<< 31) name.toList).toOption with
    | some n => s.arguments[n - 1]?
    | none => s.settings.lookup name

def value (s : State) (name : String) : String := (s.value? name).getD ""

def assign (name value : String) (s : State) : State :=
  { s with settings := (name, value) :: s.settings.filter (·.1 ≠ name) }

/-- Sets a variable that may be protected. -/
def set (line : Nat) (name value : String) (s : State) : State :=
  if s.readOnly.contains name then s.failOf line (name ++ ": is read only")
  else s.assign name value

/-- Keeps what a run writes to its first output. -/
def capture (run : State → State) (s : State) : Bytes × State :=
  let n := s.kept.length
  let t := run (({ s with kept := s.kept ++ [[]] } : State).redirect 1 (some (.kept n)))
  (t.kept.getD n [], { t with kept := t.kept.take n, descriptors := s.descriptors })

/-- The state after a run that could not change what the shell knows. Whoever kills the
shell's process ends it from there too. -/
def rejoin (before after : State) : State :=
  { before with
    kept := after.kept, files := after.files, input := after.input, status := after.status
    leaving := match after.leaving with
      | some (.shell (.killed signal)) => some (.shell (.killed signal))
      | _ => before.leaving }

/-- How a shell ends that ran its script. -/
def ending (s : State) : Ending :=
  match s.leaving with
  | some (.shell e) => e
  | _ => .exited (s.status % 256)

/-- Runs with failures looked at. -/
def testing (run : State → State) (s : State) : State :=
  { run { s with tested := true } with tested := s.tested }

/-- Ends the shell if a command failed and that is to end it. -/
def mind (s : State) : State :=
  if !s.tested && s.has 'e' && s.status ≠ 0 && s.leaving.isNone then s.finish (.exited s.status)
  else s

end State

/-- What the shell tells of a program that was killed, if it tells anything. -/
def killedText? (signal : Nat) : Option String :=
  if signal = 2 ∨ signal = 13 then none
  else some <| ([
    (1, "Hangup"), (3, "Quit"), (4, "Illegal instruction"), (5, "Trace/breakpoint trap"),
    (6, "Aborted"), (7, "Bus error"), (8, "Floating point exception"), (9, "Killed"),
    (10, "User defined signal 1"), (11, "Segmentation fault"), (12, "User defined signal 2"),
    (14, "Alarm clock"), (15, "Terminated"), (16, "Stack fault"), (24, "CPU time limit exceeded"),
    (25, "File size limit exceeded"), (26, "Virtual timer expired"),
    (27, "Profiling timer expired"), (29, "I/O possible"), (30, "Power failure"),
    (31, "Bad system call")].lookup signal).getD
      ("Signal " ++ decimal signal)

def State.adopt (e : Ending) (s : State) : State :=
  match e with
  | .exited code => s.withStatus (code % 256)
  | .killed signal =>
    (match killedText? signal with
      | some text => s.printLine text
      | none => s).withStatus (128 + signal)

end IPsecControl.Shell
