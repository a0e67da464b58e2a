import IPsecControl.Shell.Builtin

/-! Redirections: files that outputs go to and inputs come from, and outputs that go where
another goes. -/
namespace IPsecControl.Shell
open Text

def openOutput (append : Bool) (descriptor : Nat) (path : String) (s : State) :
    Except String State :=
  let name := Condition.fileName path
  if path = "/dev/null" then .ok (s.redirect descriptor (some .nowhere))
  else if path = "/dev/stdout" then .ok (s.redirect descriptor (s.target? 1))
  else if path = "/dev/stderr" then .ok (s.redirect descriptor (s.target? 2))
  else if Condition.isDirectory path then .error ("cannot create " ++ path ++ ": Is a directory")
  else if name.toList.contains '/' || name = "" then
    .error ("cannot create " ++ path ++ ": Directory nonexistent")
  else
    let s := if append && (s.files.lookup name).isSome then s else s.putFile name []
    .ok (s.redirect descriptor (some (.file name)))

def openInput (descriptor : Nat) (path : String) (s : State) : Except String State :=
  let found? := if path = "/dev/null" || Condition.isDirectory path then some []
    else s.files.lookup (Condition.fileName path)
  match found? with
  | some bytes => .ok (if descriptor = 0 then { s with input := bytes } else s)
  | none => .error ("cannot open " ++ path ++ ": No such file")

/-- Makes one descriptor the same as another, or closes it. -/
def duplicate (descriptor : Nat) (source : String) (s : State) : Except String State :=
  if source = "-" then .ok (s.redirect descriptor none)
  else
    match number? source with
    | none => .error "Syntax error: Bad fd number"
    | some n =>
      match s.target? n with
      | some t => .ok (s.redirect descriptor (some t))
      | none =>
        if n = 0 then .ok (s.redirect descriptor (some .nowhere))
        else .error (source ++ ": Bad file descriptor")

end IPsecControl.Shell
