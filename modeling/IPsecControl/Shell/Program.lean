import IPsecControl.Shell.Builtin

/-! Programs that commands name. A host has programs of its own; `cat` is one that every host
has. -/
namespace IPsecControl.Shell
open Text

/-- The programs of a host: what a command line does, if its program is there. -/
abbrev Host := List String → Option Finished

/-- Copies files, or what can be read, to the output. -/
def concatenate (args : List String) (s : State) : State :=
  (if args.isEmpty then ["-"] else args).foldl (fun s path =>
    if path = "-" then { s.print s.input with input := [] }
    else
      match s.files.lookup (Condition.fileName path) with
      | some bytes => s.print bytes
      | none =>
        if path = "/dev/null" then s
        else
          let reason :=
            if Condition.isDirectory path then "Is a directory" else "No such file or directory"
          (s.printLine ("cat: " ++ path ++ ": " ++ reason)).withStatus 1) (s.withStatus 0)

/-- Commands of the shell that are programs of every host too. -/
def commonPrograms : List String := ["echo", "false", "kill", "printf", "pwd", "test", "true"]

/-- The name of a program without the directory it is in. -/
def programName (name : String) : String :=
  if name.startsWith "/bin/" then (name.drop 5).toString
  else if name.startsWith "/usr/bin/" then (name.drop 9).toString
  else name

def State.missing (line : Nat) (said name : String) (s : State) : State :=
  let there := Condition.isDirectory name || (s.files.lookup (Condition.fileName name)).isSome
  let (status, reason) :=
    if name = "" then (127, "Permission denied")
    else if name.toList.contains '/' && there then (126, "Permission denied")
    else (127, "not found")
  (s.complainOf line (said ++ name ++ ": " ++ reason)).withStatus status

end IPsecControl.Shell
