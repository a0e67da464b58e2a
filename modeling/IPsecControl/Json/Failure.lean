import IPsecControl.Text.Quoted
import IPsecControl.Text.Utf8

/-! Why a text is not the JSON that is wanted, and where. A failure keeps what was not read
yet, so that its line and column are those of the bytes before. -/
namespace IPsecControl.Json
open Text

abbrev Bytes := List UInt8

/-- What stands where something else is wanted. -/
inductive Unexpected where
  | null
  | boolean (b : Bool)
  | integer (n : Int)
  /-- A number with a fraction or an exponent, by its text. -/
  | float (text : String)
  | text (s : String)
  | sequence
  | map
  deriving DecidableEq, Repr

def Unexpected.description : Unexpected → String
  | .null => "null"
  | .boolean b => "boolean `" ++ (if b then "true" else "false") ++ "`"
  | .integer n => "integer `" ++ signedDecimal n ++ "`"
  | .float shown => "floating point `" ++ shown ++ "`"
  | .text s => "string " ++ quoted s
  | .sequence => "sequence"
  | .map => "map"

inductive Cause where
  | endInValue
  | endInList
  | endInObject
  | endInString
  | noColon
  | noListEnd
  | noObjectEnd
  | noLiteral
  | noValue
  | invalidEscape
  | invalidNumber
  | numberOutOfRange
  | loneSurrogate
  | unfinishedPair
  | controlCharacter
  | keyNotText
  | trailingComma
  | trailingCharacters
  | invalidType (unexpected : Unexpected) (expected : String)
  | invalidLength (length : Nat) (expected : String)
  | missingField (key : String)
  | duplicateField (key : String)
  deriving DecidableEq, Repr

def Cause.message : Cause → String
  | .endInValue => "EOF while parsing a value"
  | .endInList => "EOF while parsing a list"
  | .endInObject => "EOF while parsing an object"
  | .endInString => "EOF while parsing a string"
  | .noColon => "expected `:`"
  | .noListEnd => "expected `,` or `]`"
  | .noObjectEnd => "expected `,` or `\x7d`"
  | .noLiteral => "expected ident"
  | .noValue => "expected value"
  | .invalidEscape => "invalid escape"
  | .invalidNumber => "invalid number"
  | .numberOutOfRange => "number out of range"
  | .loneSurrogate => "lone leading surrogate in hex escape"
  | .unfinishedPair => "unexpected end of hex escape"
  | .controlCharacter => "control character (\\u0000-\\u001F) found while parsing a string"
  | .keyNotText => "key must be a string"
  | .trailingComma => "trailing comma"
  | .trailingCharacters => "trailing characters"
  | .invalidType unexpected expected =>
    "invalid type: " ++ unexpected.description ++ ", expected " ++ expected
  | .invalidLength length expected =>
    "invalid length " ++ decimal length ++ ", expected " ++ expected
  | .missingField key => "missing field `" ++ key ++ "`"
  | .duplicateField key => "duplicate field `" ++ key ++ "`"

/-- A cause, and the bytes behind the place where it was found. -/
structure Failure where
  cause : Cause
  rest : Bytes
  deriving DecidableEq, Repr

def newline : UInt8 := 10

/-- Line, from one, and column of the end of a byte string. -/
def position (consumed : Bytes) : Nat × Nat :=
  (consumed.count newline + 1, (consumed.reverse.takeWhile (· ≠ newline)).length)

def Failure.message (text : Bytes) (f : Failure) : String :=
  let (line, column) := position (text.take (text.length - f.rest.length))
  f.cause.message ++ " at line " ++ decimal line ++ " column " ++ decimal column

abbrev Reader (α : Type) := StateT Bytes (Except Failure) α

namespace Reader
variable {α : Type}

/-- Fails at the next byte, which is not counted. -/
def fail (cause : Cause) : Reader α := fun rest => .error ⟨cause, rest⟩

/-- Fails behind the next byte, if there is one. -/
def failPast (cause : Cause) : Reader α := fun rest => .error ⟨cause, rest.drop 1⟩

/-- The next byte, which stays. -/
def next? : Reader (Option UInt8) := fun rest => .ok (rest.head?, rest)

/-- The next byte, which is taken. -/
def take? : Reader (Option UInt8) := fun rest => .ok (rest.head?, rest.drop 1)

def skip : Reader Unit := fun rest => .ok ((), rest.drop 1)

def isBlankByte (b : UInt8) : Bool := b == 32 || b == 10 || b == 9 || b == 13

/-- Drops blanks and tells the next byte, which stays. -/
def peek : Reader (Option UInt8) := fun rest =>
  let rest := rest.dropWhile isBlankByte
  .ok (rest.head?, rest)

def isDigitByte (b : UInt8) : Bool := 48 ≤ b && b ≤ 57

def digits : Reader (List Nat) := fun rest =>
  .ok ((rest.takeWhile isDigitByte).map fun b => b.toNat - 48, rest.dropWhile isDigitByte)

end Reader

def byte (c : Char) : UInt8 := UInt8.ofNat c.toNat

end IPsecControl.Json
