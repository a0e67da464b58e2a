import IPsecControl.Shell.State

/-! Conditions that the shell can test: texts, numbers and files, with signs between. -/
namespace IPsecControl.Shell.Condition
open Text

inductive Fault where
  | illegalNumber (text : String)
  | unexpected (text : String)
  | missingArgument (sign : String)
  | missingParenthesis
  | missingBracket
  deriving DecidableEq, Repr

def Fault.message : Fault → String
  | .illegalNumber text => "Illegal number: " ++ text
  | .unexpected text => text ++ ": unexpected operator"
  | .missingArgument sign => sign ++ ": argument expected"
  | .missingParenthesis => "closing paren expected"
  | .missingBracket => "missing ]"

def isDirectory (path : String) : Bool :=
  path ∈ ["/", ".", "..", "./", "../", "/bin", "/dev", "/etc", "/proc", "/tmp", "/usr", "/var",
    "/bin/", "/dev/", "/etc/", "/proc/", "/tmp/", "/usr/", "/var/"]

/-- Files of every machine that are no places to keep things. -/
def isDevice (path : String) : Bool := path ∈ ["/dev/null", "/dev/zero"]

def isProgram (path : String) : Bool :=
  path ∈ ["/bin/sh", "/bin/cat", "/bin/sleep", "/bin/ls", "/usr/bin/env"]

/-- The name of a file in the directory where the shell runs. -/
def fileName (path : String) : String :=
  if path.startsWith "./" then (path.drop 2).toString else path

/-- Tests one text. -/
def single? (s : State) (sign : String) : Option (String → Bool) :=
  let file? (path : String) := s.files.lookup (fileName path)
  let there (path : String) : Bool :=
    (file? path).isSome || isDirectory path || isDevice path || isProgram path
  match sign with
  | "-n" => some (· ≠ "")
  | "-z" => some (· = "")
  | "-e" | "-r" | "-w" => some there
  | "-f" => some fun path => (file? path).isSome || isProgram path
  | "-d" => some isDirectory
  | "-c" => some isDevice
  | "-s" => some fun path => (file? path).any (!·.isEmpty) || isDirectory path || isProgram path
  | "-x" => some fun path => isDirectory path || isProgram path
  | "-t" | "-b" | "-p" | "-S" | "-L" | "-h" | "-u" | "-g" | "-k" => some fun _ => false
  | _ => none

/-- Compares two texts or numbers. -/
def double? (sign : String) : Option (String → String → Except Fault Bool) :=
  let texts (holds : String → String → Bool) : Option (String → String → Except Fault Bool) :=
    some fun a b => .ok (holds a b)
  let numbers (holds : Int → Int → Bool) : Option (String → String → Except Fault Bool) :=
    some fun a b => do return holds (← number a) (← number b)
  match sign with
  | "=" | "==" => texts (· = ·)
  | "!=" => texts (· ≠ ·)
  | "<" => texts fun a b => decide (a < b)
  | ">" => texts fun a b => decide (b < a)
  | "-eq" => numbers (· = ·)
  | "-ne" => numbers (· ≠ ·)
  | "-lt" => numbers (· < ·)
  | "-le" => numbers (· ≤ ·)
  | "-gt" => numbers fun a b => b < a
  | "-ge" => numbers fun a b => b ≤ a
  | _ => none
where
  number (text : String) : Except Fault Int :=
    match readSigned (1 <<< 63 - 1) text.toList with
    | .ok n => .ok n
    | .error _ => .error (.illegalNumber text)

abbrev Parser := List String → Except Fault (Bool × List String)

/-- A test of one text, of two, or of none. -/
def basic (s : State) : Parser
  | [] => .ok (false, [])
  | [a] =>
    match single? s a with
    | some _ => .error (.missingArgument a)
    | none => .ok (a ≠ "", [])
  | a :: b :: rest =>
    match single? s a with
    | some holds => .ok (holds b, rest)
    | none =>
      match double? b, rest with
      | some holds, c :: rest => do return (← holds a c, rest)
      | some _, [] => .error (.missingArgument b)
      | none, _ => .ok (a ≠ "", b :: rest)

mutual

def factor (s : State) : Nat → Parser
  | 0, ts => .ok (false, ts)
  | fuel + 1, ts =>
    match ts with
    | "!" :: rest => do
      let (holds, rest) ← factor s fuel rest
      return (!holds, rest)
    | "(" :: rest => do
      let (holds, rest) ← any s fuel rest
      match rest with
      | ")" :: rest => return (holds, rest)
      | _ => throw .missingParenthesis
    | _ => basic s ts

def all (s : State) : Nat → Parser
  | 0, ts => .ok (false, ts)
  | fuel + 1, ts => do
    let (first, rest) ← factor s fuel ts
    match rest with
    | "-a" :: rest =>
      let (second, rest) ← all s fuel rest
      return (first && second, rest)
    | _ => return (first, rest)

def any (s : State) : Nat → Parser
  | 0, ts => .ok (false, ts)
  | fuel + 1, ts => do
    let (first, rest) ← all s fuel ts
    match rest with
    | "-o" :: rest =>
      let (second, rest) ← any s fuel rest
      return (first || second, rest)
    | _ => return (first, rest)

end

/-- Whether a condition holds. Few arguments are read by their number. -/
def holds (s : State) (args : List String) : Except Fault Bool :=
  match args with
  | [] => .ok false
  | [a] => .ok (a ≠ "")
  | ["!", a] => .ok (a = "")
  | [a, b] =>
    match single? s a with
    | some test => .ok (test b)
    | none => .error (if (double? b).isSome then .missingArgument b else .unexpected a)
  | [a, sign, b] =>
    match double? sign with
    | some test => test a b
    | none => whole [a, sign, b]
  | args => whole args
where
  whole (args : List String) : Except Fault Bool := do
    match ← any s (4 * args.length + 4) args with
    | (holds, []) => return holds
    | (_, t :: _) => throw (.unexpected (if args.length = 3 then args.headD t else t))

end IPsecControl.Shell.Condition
