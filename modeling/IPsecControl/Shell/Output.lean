import IPsecControl.Text.Blank
import IPsecControl.Text.Utf8

/-! What is kept of a command that ended: its exit code, and its two outputs as text
without blanks around them. -/
namespace IPsecControl.Shell

inductive Ending where
  | exited (code : Nat)
  | killed (signal : Nat)
  deriving DecidableEq, Repr

/-- A process that ended, with the bytes it wrote. -/
structure Finished where
  ending : Ending
  stdout : List UInt8 := []
  stderr : List UInt8 := []
  deriving DecidableEq, Repr

structure Output where
  /-- Minus one for a process that was killed. -/
  exitCode : Int
  stdout : String
  stderr : String
  deriving DecidableEq, Repr

/-- The text of a byte string, without blanks around it. -/
def shownText (bytes : List UInt8) : String :=
  String.ofList (Text.trim (Text.Utf8.lossy bytes))

namespace Output

def ofFinished (f : Finished) : Output where
  exitCode := match f.ending with
    | .exited code => code
    | .killed _ => -1
  stdout := shownText f.stdout
  stderr := shownText f.stderr

def success (o : Output) : Bool := o.exitCode = 0

/-- Both outputs together: one alone if the other is empty, a line break between them
otherwise. -/
def combined (o : Output) : String :=
  if o.stderr = "" then o.stdout
  else if o.stdout = "" then o.stderr
  else o.stdout ++ "\n" ++ o.stderr

end Output
end IPsecControl.Shell
