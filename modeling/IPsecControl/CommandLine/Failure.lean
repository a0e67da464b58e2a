import IPsecControl.CommandLine.Opt
import IPsecControl.Text.Terminal

/-! Command lines that run no command: requests for help or for the version, and mistakes. The
message of a mistake is written for a terminal, with what is wrong in colour; it is told as the
terminal would show it. -/
namespace IPsecControl.CommandLine
open Text

inductive Failure where
  /-- Help was asked for. -/
  | help
  /-- Nothing was asked for. -/
  | nothing
  | version
  | unknownArgument (argument : String)
  | unknownSubcommand (name : String)
  | noSubcommand
  /-- An option without its value. -/
  | noValue (o : Opt)
  /-- A flag with a value. -/
  | needlessValue (o : Opt) (value : String)
  | invalidValue (o : Opt) (value reason : String)
  | repeated (o : Opt)
  | conflict (o : Opt) (others : List Opt)
  | missing (os : List Opt)
  deriving DecidableEq, Repr

namespace Failure

def programName : String := "ipsecmgr"
def programVersion : String := "0.1.0"

def indented (line : String) : String := "\n  " ++ line

/-- What is wrong, in yellow. -/
def wrong (text : String) : String := Terminal.styled 33 text

/-- The message of a mistake, with its colours. -/
def reason : Failure → String
  | .help | .nothing | .version => ""
  | .unknownArgument argument => "unexpected argument '" ++ wrong argument ++ "' found"
  | .unknownSubcommand name => "unrecognized subcommand '" ++ wrong name ++ "'"
  | .noSubcommand =>
    "'" ++ programName ++ "' requires a subcommand but one was not provided" ++
      indented ("[subcommands: " ++ ", ".intercalate (Verb.all.map Verb.name ++ ["help"]) ++ "]")
  | .noValue o => "a value is required for '" ++ o.shown ++ "' but none was supplied"
  | .needlessValue o value =>
    "unexpected value '" ++ wrong value ++ "' for '" ++ o.shown ++ "' found; no more were expected"
  | .invalidValue o value reason =>
    "invalid value '" ++ wrong value ++ "' for '" ++ o.shown ++ "': " ++ reason
  | .repeated o => "the argument '" ++ o.shown ++ "' cannot be used multiple times"
  | .conflict o others =>
    "the argument '" ++ o.shown ++ "' cannot be used with" ++
      match others with
      | [other] => " '" ++ other.shown ++ "'"
      | _ => ":" ++ String.join (others.map fun other => indented other.shown)
  | .missing os =>
    "the following required arguments were not provided:" ++
      String.join (os.map fun o => indented o.shown)

/-- Where more is told, in a paragraph of its own. -/
def advice : String :=
  "\n\nFor more information, try '" ++ Terminal.styled 1 "--help" ++ "'.\n"

/-- What is told of a command line that runs no command, apart from help and usage. -/
def message : Failure → String
  | .help | .nothing => ""
  | .version => programName ++ " " ++ programVersion
  | f => Terminal.shown ("error: " ++ f.reason ++ advice)

/-- Help and the version are no mistakes. -/
def exitCode : Failure → Nat
  | .help | .version => 0
  | _ => 2

end Failure
end IPsecControl.CommandLine
