import IPsecControl.Net.Address
import IPsecControl.Text.Hex
import IPsecControl.Text.Scan
import IPsecControl.Text.Split

/-! Values of options on a command line. The kind of an option says which texts it takes and
what they stand for. -/
namespace IPsecControl.CommandLine
open Text

inductive Kind where
  /-- Takes no text. -/
  | flag
  | text
  /-- A path, which is not empty. -/
  | path
  /-- A number below `2 ^ 32`. -/
  | word
  /-- A number below `2 ^ 64`. -/
  | long
  /-- A number below `2 ^ 32`, in hexadecimal behind `0x`. -/
  | index
  /-- Bytes in hexadecimal. -/
  | key
  | address
  /-- Texts with commas between them. An option of this kind can come again. -/
  | names
  deriving DecidableEq, Repr

/-- What the texts of a kind stand for. -/
abbrev Kind.Value : Kind → Type
  | .flag => Unit
  | .text | .path => String
  | .word | .index => UInt32
  | .long => Nat
  | .key => List UInt8
  | .address => Net.Address
  | .names => List String

inductive Refusal where
  | empty
  | because (reason : String)
  deriving DecidableEq, Repr

/-- Drops every `0x` in front. -/
def dropMarks : List Char → List Char
  | '0' :: 'x' :: cs => dropMarks cs
  | cs => cs

/-- The bytes of a key: pairs of hexadecimal digits, in which colons count for nothing. -/
def readKey (cs : List Char) : Except String (List UInt8) :=
  (Hex.decode ((dropMarks cs).filter (· ≠ ':'))).mapError fun e =>
    "invalid hex key: " ++ e.message

def readIndex (cs : List Char) : Except String UInt32 :=
  let number := match cs with
    | '0' :: 'x' :: rest | '0' :: 'X' :: rest => readBounded 16 (1 <<< 32 - 1) rest
    | _ => readBounded 10 (1 <<< 32 - 1) cs
  match number with
  | .ok n => .ok (UInt32.ofNat n)
  | .error e => .error ("invalid SPI '" ++ String.ofList cs ++ "': " ++ e.message)

/-- A number below `2 ^ 32`. Larger ones and negative ones are numbers still. -/
def readWord (cs : List Char) : Except String UInt32 :=
  match readSigned (1 <<< 63 - 1) cs with
  | .error e => .error e.message
  | .ok n =>
    if n < 0 ∨ 4294967296 ≤ n then .error (signedDecimal n ++ " is not in 0..=4294967295")
    else .ok (UInt32.ofNat n.toNat)

def Kind.read : (k : Kind) → String → Except Refusal k.Value
  | .flag, _ => .ok ()
  | .text, given => .ok given
  | .path, given => if given = "" then .error .empty else .ok given
  | .word, given => (readWord given.toList).mapError .because
  | .long, given =>
    (readBounded 10 (1 <<< 64 - 1) given.toList).mapError fun e => .because e.message
  | .index, given => (readIndex given.toList).mapError .because
  | .key, given => (readKey given.toList).mapError .because
  | .address, given =>
    match Net.Address.parse? given.toList with
    | some a => .ok a
    | none => .error (.because "invalid IP address syntax")
  | .names, given => .ok ((split ',' given.toList).map String.ofList)

end IPsecControl.CommandLine
