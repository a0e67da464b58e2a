import IPsecControl.Error.Status
import IPsecControl.Error.System
import IPsecControl.Time.Duration

/-! What can go wrong. Configuration errors are found before anything is sent,
transport errors mean that the channel or the time was lost, and a rejection
carries the daemon's words unchanged. -/
namespace IPsecControl

inductive Error where
  /-- A field of the configuration is invalid. -/
  | invalidConfig (field text : String)
  /-- A name that a table does not know. -/
  | unknownName (table name : String)
  /-- A malformed list of TLS files. -/
  | tlsSpec (text : String)
  /-- A TLS file that cannot be read. -/
  | tlsFile (path : String) (cause : SystemError)
  /-- The channel could not be opened or was lost. -/
  | transport (target text : String)
  /-- A call was not answered within its budget. -/
  | timedOut (operation : String) (after : Duration)
  /-- The caller gave up a call. -/
  | cancelled (operation : String)
  /-- The daemon refused a call. -/
  | rejected (operation : String) (status : Status)
  /-- A command that could not be started. -/
  | spawnFailed (command : String) (cause : SystemError)
  /-- A command that failed without usable output. -/
  | commandFailed (command : String) (exitCode : Int) (output : String)
  /-- No echo reply came back. -/
  | noReply (target : String) (sent received : Nat)
  /-- Probe output without a readable summary. -/
  | unreadableProbe (text : String)
  deriving DecidableEq, Repr

namespace Error

def message : Error → String
  | .invalidConfig field text => "Invalid configuration for " ++ field ++ ": " ++ text
  | .unknownName table name => "Unknown " ++ table ++ " algorithm '" ++ name ++ "'"
  | .tlsSpec text => "Invalid TLS file spec: " ++ text
  | .tlsFile path cause => "Failed to read TLS file '" ++ path ++ "': " ++ cause.message
  | .transport target text => "Transport to '" ++ target ++ "' failed: " ++ text
  | .timedOut operation after => operation ++ " timed out after " ++ after.text
  | .cancelled operation => operation ++ " cancelled"
  | .rejected operation status =>
    operation ++ " rejected by remote (" ++ status.code.name ++ "): " ++ status.message
  | .spawnFailed command cause => "Failed to spawn '" ++ command ++ "': " ++ cause.message
  | .commandFailed command exitCode output =>
    "'" ++ command ++ "' exited with " ++ Text.signedDecimal exitCode ++ ": " ++ output
  | .noReply target sent received =>
    "Probe to " ++ target ++ " failed: " ++ Text.decimal received ++ "/" ++ Text.decimal sent ++
      " replies"
  | .unreadableProbe text => "Failed to parse probe output: " ++ text

def cause? : Error → Option SystemError
  | .tlsFile _ cause | .spawnFailed _ cause => some cause
  | _ => none

/-- The error of a call that ended with a failed status: an unavailable channel is a
transport error, and every other code a rejection. -/
def ofStatus (operation : String) (status : Status) : Error :=
  if status.code = .unavailable then .transport operation status.message
  else .rejected operation status

/-- Raised before anything is sent. -/
def isConfig : Error → Bool
  | .invalidConfig .. | .unknownName .. | .tlsSpec _ | .tlsFile .. => true
  | _ => false

/-- The channel failed, the time ran out, or the caller gave up. -/
def isTransport : Error → Bool
  | .transport .. | .timedOut .. | .cancelled _ => true
  | _ => false

/-- The daemon answered with a failure. -/
def isRejection : Error → Bool
  | .rejected .. => true
  | _ => false

def isCancelled : Error → Bool
  | .cancelled _ => true
  | _ => false

end Error

abbrev Result (α : Type) := Except Error α

end IPsecControl
