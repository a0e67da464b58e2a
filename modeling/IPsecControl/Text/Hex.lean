import IPsecControl.Text.Quoted

/-! Byte strings as pairs of hexadecimal digits. Writing is in lower case;
reading takes either case and names the first offending character with its
index, counted in bytes of the text. -/
namespace IPsecControl.Text.Hex

def ofByte (b : UInt8) : List Char :=
  [digitChar (b.toNat / 16), digitChar (b.toNat % 16)]

def encode (bytes : List UInt8) : List Char := bytes.flatMap ofByte

def text (bytes : List UInt8) : String := String.ofList (encode bytes)

inductive Error where
  | oddLength
  /-- The byte value, read as a character, of the first byte that is no digit. -/
  | invalidDigit (found : Char) (index : Nat)
  deriving DecidableEq, Repr

def Error.message : Error → String
  | .oddLength => "Odd number of digits"
  | .invalidDigit found index =>
    "Invalid character " ++ quotedSingle found ++ " at position " ++ decimal index

/-- Reads pairs of digits; `index` is the position of the first one. -/
def decodeFrom (index : Nat) : List Char → Except Error (List UInt8)
  | [] => .ok []
  | [_] => .error .oddLength
  | high :: low :: rest =>
    match digitValue? 16 high with
    | none => .error (.invalidDigit high index)
    | some h =>
      match digitValue? 16 low with
      | none => .error (.invalidDigit low (index + 1))
      | some l => (decodeFrom (index + 2) rest).map (UInt8.ofNat (16 * h + l) :: ·)

/-- The bytes of a text, one character for each. -/
def octets (cs : List Char) : List Char :=
  cs.flatMap fun c => (String.utf8EncodeChar c).map fun b => Char.ofNat b.toNat

/-- Reads a hexadecimal byte string; an odd number of bytes is refused first. -/
def decode (cs : List Char) : Except Error (List UInt8) :=
  let bytes := octets cs
  if bytes.length % 2 = 1 then .error .oddLength else decodeFrom 0 bytes

end IPsecControl.Text.Hex
