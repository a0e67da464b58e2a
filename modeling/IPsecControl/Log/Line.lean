import IPsecControl.Text.Quoted

/-! Log lines: the part of the program that writes them, a level, a message, and named values
in order. -/
namespace IPsecControl.Log

inductive Level where
  | debug
  | info
  | warn
  | error
  deriving DecidableEq, Repr

def Level.name : Level → String
  | .debug => "DEBUG"
  | .info => "INFO"
  | .warn => "WARN"
  | .error => "ERROR"

/-- The rank of a level. A filter that shows lines of a rank shows those of every lower one. -/
def Level.rank : Level → Nat
  | .error => 1
  | .warn => 2
  | .info => 3
  | .debug => 4

/-- The parts of the program that write lines. -/
inductive Part where
  | program
  | staticSa
  | tunnel
  | verifier
  | transport
  | service
  | shell
  | probe
  | recording
  deriving DecidableEq, Repr

/-- What filters call a part. -/
def Part.path : Part → String
  | .program => "ipsecmgr"
  | .staticSa => "ipsecmgr::static_sa"
  | .tunnel => "ipsecmgr::tunnel"
  | .verifier => "ipsecmgr::verifier"
  | .transport => "ipsec_common::transport"
  | .service => "ipsec_common::service"
  | .shell => "ipsec_common::shell"
  | .probe => "ipsec_common::probe"
  | .recording => "ipsec_test::recording"

/-- A named value, as it is shown. -/
structure Field where
  name : String
  value : String
  deriving DecidableEq, Repr

def shown (name value : String) : Field := ⟨name, value⟩

def quoted (name value : String) : Field := ⟨name, Text.quoted value⟩

def counted (name : String) (value : Nat) : Field := ⟨name, Text.decimal value⟩

structure Line where
  part : Part
  level : Level
  message : String
  fields : List Field := []
  deriving DecidableEq, Repr

/-- The values of a line behind a text. -/
def Line.withFields (line : Line) (text : String) : String :=
  line.fields.foldl (fun text f => text ++ " " ++ f.name ++ "=" ++ f.value) text

def Line.text (line : Line) : String := line.withFields (line.level.name ++ " " ++ line.message)

/-- A character of a message, so that it has no power over a terminal. -/
def harmless (c : Char) : List Char :=
  let n := c.toNat
  if n = 0x1B ∨ n = 7 ∨ n = 8 ∨ n = 0x0C ∨ n = 0x7F then
    '\\' :: 'x' :: Text.zeroFill 2 (Text.hexDigits n)
  else if 0x80 ≤ n ∧ n ≤ 0x9F then '\\' :: 'u' :: '\x7b' :: Text.hexDigits n ++ ['\x7d']
  else [c]

def Line.terminalText (line : Line) : String :=
  line.withFields (line.level.name ++ " " ++ .ofList (line.message.toList.flatMap harmless))

def debug (part : Part) (message : String) (fields : List Field := []) : Line :=
  ⟨part, .debug, message, fields⟩

def info (part : Part) (message : String) (fields : List Field := []) : Line :=
  ⟨part, .info, message, fields⟩

def warn (part : Part) (message : String) (fields : List Field := []) : Line :=
  ⟨part, .warn, message, fields⟩

def error (part : Part) (message : String) (fields : List Field := []) : Line :=
  ⟨part, .error, message, fields⟩

end IPsecControl.Log
