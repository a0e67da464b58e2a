import IPsecControl.Shell.Condition

/-! Commands of the shell itself that run no scripts. -/
namespace IPsecControl.Shell
open Text

def signals : List (String × Nat) := [
  ("EXIT", 0), ("HUP", 1), ("INT", 2), ("QUIT", 3), ("ILL", 4), ("TRAP", 5), ("ABRT", 6),
  ("BUS", 7), ("FPE", 8), ("KILL", 9), ("USR1", 10), ("SEGV", 11), ("USR2", 12), ("PIPE", 13),
  ("ALRM", 14), ("TERM", 15), ("STKFLT", 16), ("CHLD", 17), ("CONT", 18), ("STOP", 19),
  ("TSTP", 20), ("TTIN", 21), ("TTOU", 22), ("URG", 23), ("XCPU", 24), ("XFSZ", 25),
  ("VTALRM", 26), ("PROF", 27), ("WINCH", 28), ("IO", 29), ("PWR", 30), ("SYS", 31)]

def signal? (name : String) : Option Nat :=
  (signals.lookup name.toUpper).or (((readBounded 10 64 name.toList).toOption).filter fun _ =>
    name.toList.all Char.isDigit)

/-- Signals that end nothing. -/
def isHarmless (signal : Nat) : Bool := signal ∈ [0, 17, 18, 23, 28]

def number? (text : String) : Option Nat :=
  (readBounded 10 (1 <<< 31 - 1) (text.toList.dropWhile isBlank)).toOption

def isName (text : String) : Bool :=
  text.toList.head?.any isNameStart && text.toList.all isNameChar

/-- Sends a signal to the shell's own process. -/
def State.receive (signal : Nat) (s : State) : State :=
  match s.traps.lookup signal with
  | some _ => if signal = 9 then s.finish (.killed 9) else
    { s with pending := s.pending ++ [signal], status := 0 }
  | none => if isHarmless signal then s.withStatus 0 else s.finish (.killed signal)

def kill (line : Nat) (args : List String) (s : State) : State :=
  match args with
  | [] =>
    s.refuse line 2 ("kill: Usage: kill [-s sigspec | -signum | -sigspec] [pid | job]... or\n" ++
      "kill -l [exitstatus]")
  | ["-l", text] =>
    match (number? text).bind fun n => signals.find? fun (_, m) => m = n % 128 with
    | some (name, _) => (s.print (Utf8.bytes (name ++ "\n"))).withStatus 0
    | none => s.refuse line 2 ("kill: invalid signal number or exit status: " ++ text)
  | "-s" :: name :: targets =>
    match signal? name with
    | some signal => send signal targets
    | none => s.refuse line 2 ("kill: invalid signal number or name: " ++ name)
  | "--" :: targets => send 15 targets
  | arg :: targets =>
    if arg.startsWith "-" then
      let name := (arg.drop 1).toString
      match signal? name with
      | some signal => send signal targets
      | none => s.refuse line 2 ("kill: Illegal option -" ++ (name.take 1).toString)
    else send 15 args
where
  send (signal : Nat) (targets : List String) : State :=
    targets.foldl (fun s target =>
      if target = s.process then s.receive signal
      else if (number? target).isSome then s.refuse line 1 "kill: No such process"
      else s.refuse line 2 ("kill: Illegal number: " ++ target)) s

/-- Prints its arguments with escapes, and a line end unless that is turned off. -/
def echo (args : List String) (s : State) : State :=
  let (quiet, args) := match args with
    | "-n" :: rest => (true, rest)
    | args => (false, args)
  let (bytes, ends) := escapedBytes (" ".intercalate args).toList
  (s.print (bytes ++ if quiet || ends then [] else [10])).withStatus 0

def printf (line : Nat) (args : List String) (s : State) : State :=
  match args with
  | "--" :: format :: rest => formatted format rest
  | [] | ["--"] => s.refuse line 2 "printf: usage: printf format [arg ...]"
  | format :: rest =>
    if format.startsWith "-" && format ≠ "-" then
      s.refuse line 2 ("printf: Illegal option -" ++ ((format.drop 1).take 1).toString)
    else formatted format rest
where
  formatted (format : String) (rest : List String) : State :=
    let (bytes, complaints, refused) :=
      formatAll format.toList (rest.length + 1) (rest.map String.toList)
    let s := complaints.foldl (fun s c => s.complain line ("printf: " ++ c)) (s.print bytes)
    s.withStatus (if refused then 2 else if complaints.isEmpty then 0 else 1)

/-- The words of a line: all but the last are cut at blanks, and the last is the rest. -/
def cutWords : Nat → List Char → List (List Char)
  | 0, _ => []
  | 1, cs =>
    [((cs.dropWhile isBlank).reverse.dropWhile isBlank).reverse]
  | n + 2, cs =>
    let cs := cs.dropWhile isBlank
    let word := cs.takeWhile (!isBlank ·)
    word :: cutWords (n + 1) (cs.drop word.length)

def readLine (line : Nat) (args : List String) (s : State) : State :=
  let (raw, names) := match args with
    | "-r" :: names => (true, names)
    | names => (false, names)
  let (text, rest, whole) := readBytes raw s.input
  let words := cutWords names.length (Utf8.lossy text)
  let s := (names.zip words).foldl (fun s (name, word) => s.set line name (String.ofList word))
    { s with input := rest }
  if names.isEmpty then s.refuse line 2 "read: arg count"
  else
    match names.find? (!isName ·) with
    | some wrong => s.refuse line 2 ("read: " ++ wrong ++ ": bad variable name")
    | none => s.withStatus (if whole then 0 else 1)
where
  /-- The bytes of a line, what follows it, and whether it has an end. -/
  readBytes (raw : Bool) : Bytes → Bytes × Bytes × Bool
    | [] => ([], [], false)
    | [b] => if b = 10 then ([], [], true) else ([b], [], false)
    | b :: c :: rest =>
      if b = 10 then ([], c :: rest, true)
      else if b = 92 ∧ !raw then
        let (text, rest, whole) := readBytes raw rest
        (if c = 10 then text else c :: text, rest, whole)
      else
        let (text, rest, whole) := readBytes raw (c :: rest)
        (b :: text, rest, whole)

def test (line : Nat) (name : String) (args : List String) (s : State) : State :=
  let outcome :=
    if name = "[" then
      if args.getLast? = some "]" then Condition.holds s args.dropLast else .error .missingBracket
    else Condition.holds s args
  match outcome with
  | .ok holds => s.withStatus (if holds then 0 else 1)
  | .error e => s.refuse line 2 (name ++ ": " ++ e.message)

def changeDirectory (line : Nat) (args : List String) (s : State) : State :=
  match args.dropWhile fun arg => arg = "-P" || arg = "-L" || arg = "--" with
  | [] | [""] => s.withStatus 0
  | path :: _ =>
    if Condition.isDirectory path then { s with directory := path, status := 0 }
    else s.refuse line 2 ("cd: can't cd to " ++ path)

def optionLetters : List Char := "efIimnsxvVECabu".toList

def State.turn (on : Bool) (letters : List Char) (s : State) : State :=
  let others := s.options.filter (!letters.contains ·)
  { s with options := if on then others ++ letters else others }

/-- Turns options on and off, and sets the arguments to what follows them. -/
def setOptions (line : Nat) : List String → State → State
  | [], s => s.withStatus 0
  | arg :: rest, s =>
    match arg.toList with
    | ['-', '-'] => { s with arguments := rest, status := 0 }
    | sign :: letter :: letters =>
      if sign = '-' ∨ sign = '+' then
        match (letter :: letters).find? (!optionLetters.contains ·) with
        | some wrong => s.fail line ("set: Illegal option -" ++ String.singleton wrong)
        | none => setOptions line rest (s.turn (sign = '-') (letter :: letters))
      else { s with arguments := arg :: rest, status := 0 }
    | _ => { s with arguments := arg :: rest, status := 0 }

def shift (line : Nat) (args : List String) (s : State) : State :=
  match number? (args.headD "1") with
  | none => s.fail line ("shift: Illegal number: " ++ args.headD "")
  | some n =>
    if s.arguments.length < n then s.fail line "shift: can't shift that many"
    else { s with arguments := s.arguments.drop n, status := 0 }

/-- The name and the value of an argument that assigns. -/
def assignmentOf (arg : String) : String × Option String :=
  let cs := arg.toList
  let name := cs.takeWhile (· ≠ '=')
  (String.ofList name,
    if name.length = cs.length then none else some (String.ofList (cs.drop (name.length + 1))))

def exportName (name : String) (s : State) : State := { s with exported := name :: s.exported }
def protectName (name : String) (s : State) : State := { s with readOnly := name :: s.readOnly }

def declare (line : Nat) (command : String) (mark : String → State → State) (args : List String)
    (s : State) : State :=
  let args := args.filter fun arg => !arg.startsWith "-"
  match args.find? fun arg => !isName (assignmentOf arg).1 with
  | some wrong => s.fail line (command ++ ": " ++ (assignmentOf wrong).1 ++ ": bad variable name")
  | none =>
    args.foldl (fun s arg =>
      match assignmentOf arg with
      | (name, some value) => mark name (s.set line name value)
      | (name, none) => mark name s) (s.withStatus 0)

def unset (line : Nat) (args : List String) (s : State) : State :=
  let names := args.filter fun arg => !arg.startsWith "-"
  if args.head? = some "-f" then
    { s with functions := s.functions.filter (!names.contains ·.1), status := 0 }
  else
    match names.find? (!isName ·), names.find? s.readOnly.contains with
    | some wrong, _ => s.fail line ("unset: " ++ wrong ++ ": bad variable name")
    | none, some name => s.fail line ("unset: " ++ name ++ ": is read only")
    | none, none => { s with settings := s.settings.filter (!names.contains ·.1), status := 0 }

/-- Variables that get their values back when the function ends. -/
def locally (line : Nat) (args : List String) (s : State) : State :=
  if s.calls = 0 then s.fail line "local: not in a function"
  else declare line "local" (fun _ s => s) args { s with
    outside := s.outside ++ args.map fun arg =>
      let name := (assignmentOf arg).1
      (name, s.settings.lookup name) }

def exit (line : Nat) (args : List String) (s : State) : State :=
  match args with
  | [] => s.finish (.exited s.status)
  | arg :: _ =>
    match number? arg with
    | some n => s.finish (.exited (n % 256))
    | none => s.fail line ("exit: Illegal number: " ++ arg)

def returning (line : Nat) (args : List String) (s : State) : State :=
  match args with
  | [] => s.leave .function
  | arg :: _ =>
    match number? arg with
    | some n => (s.withStatus n).leave .function
    | none => s.fail line ("return: Illegal number: " ++ arg)

def leaveLoops (line : Nat) (name : String) (leaving : Nat → Leaving) (args : List String)
    (s : State) : State :=
  match number? (args.headD "1") with
  | some (n + 1) =>
    if s.loops = 0 then s.withStatus 0
    else (s.withStatus 0).leave (leaving (Nat.min (n + 1) s.loops))
  | _ => s.fail line (name ++ ": Illegal number: " ++ args.headD "")

def trap (args : List String) (s : State) : State :=
  match args with
  | [] => s.withStatus 0
  | [signal] => setAll none [signal]
  | text :: names => setAll (if text = "-" then none else some text) names
where
  setAll (text? : Option String) (names : List String) : State :=
    names.foldl (fun s name =>
      match signal? name with
      | none => (s.printLine ("trap: " ++ name ++ ": bad trap")).withStatus 1
      | some signal =>
        let others := s.traps.filter (·.1 ≠ signal)
        { s with traps := match text? with
            | some text => (signal, text) :: others
            | none => others }) (s.withStatus 0)

/-- Commands whose mistakes end the shell, and whose assignments last. -/
def specialCommands : List String :=
  [":", ".", "break", "continue", "eval", "exec", "exit", "export", "readonly", "return", "set",
    "shift", "times", "trap", "unset"]

/-- The other commands of the shell. -/
def ordinaryCommands : List String :=
  ["[", "cd", "command", "echo", "false", "hash", "jobs", "kill", "local", "printf", "pwd", "read",
    "test", "true", "type", "ulimit", "umask", "wait"]

/-- What a name is, if it names a command. -/
def commandKind? (s : State) (name : String) : Option String :=
  if keywords.contains name then some "is a shell keyword"
  else if (s.functions.lookup name).isSome then some "is a shell function"
  else if specialCommands.contains name then some "is a special shell builtin"
  else if ordinaryCommands.contains name then some "is a shell builtin"
  else none

def describe (args : List String) (s : State) : State :=
  args.foldl (fun s name =>
    let (text, status) := match commandKind? s name with
      | some kind => (name ++ " " ++ kind, s.status)
      | none => (name ++ ": not found", 127)
    (s.print (Utf8.bytes (text ++ "\n"))).withStatus status) (s.withStatus 0)

/-- What the shell does itself for a command. -/
def builtin? (line : Nat) (name : String) (args : List String) : Option (State → State) :=
  match name with
  | "true" | ":" | "hash" | "jobs" | "ulimit" | "times" => some (·.withStatus 0)
  | "wait" => some fun s => s.withStatus (match args with
      | [] => 0
      | process :: _ => (s.background.lookup process).getD 127)
  | "false" => some (·.withStatus 1)
  | "exit" => some (exit line args)
  | "return" => some (returning line args)
  | "break" => some (leaveLoops line name .loops args)
  | "continue" => some (leaveLoops line name .turn args)
  | "echo" => some (echo args)
  | "printf" => some (printf line args)
  | "kill" => some (kill line args)
  | "read" => some (readLine line args)
  | "test" | "[" => some (test line name args)
  | "cd" => some (changeDirectory line args)
  | "pwd" => some fun s => (s.print (Utf8.bytes (s.directory ++ "\n"))).withStatus 0
  | "set" => some (setOptions line args)
  | "shift" => some (shift line args)
  | "export" => some (declare line name exportName args)
  | "readonly" => some (declare line name protectName args)
  | "unset" => some (unset line args)
  | "local" => some (locally line args)
  | "trap" => some (trap args)
  | "type" => some (describe args)
  | "umask" => some fun s => match args with
      | [] => (s.print (Utf8.bytes (s.mask ++ "\n"))).withStatus 0
      | mask :: _ => { s with mask := String.ofList (zeroFill 4 mask.toList), status := 0 }
  | _ => none

end IPsecControl.Shell
