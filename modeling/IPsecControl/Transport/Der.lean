import IPsecControl.Number.Modular

/-! Values in DER: a tag, a length, and that many bytes of content. -/
namespace IPsecControl.Transport.Der
open Number

abbrev Bytes := List UInt8

def booleanTag : UInt8 := 0x01
def integerTag : UInt8 := 0x02
def bitsTag : UInt8 := 0x03
def octetsTag : UInt8 := 0x04
def oidTag : UInt8 := 0x06
def sequenceTag : UInt8 := 0x30

def contextTag (n : UInt8) : UInt8 := 0xA0 + n

structure Value where
  tag : UInt8
  content : Bytes
  deriving DecidableEq, Repr

/-- Lengths are below this. -/
def tooLong : Nat := 65535

/-- A length, and what follows it. A length below 128 is one byte; a longer one comes behind the
number of its bytes, which are as few as can be. -/
def length? : Bytes → Option (Nat × Bytes)
  | 0x81 :: n :: rest => if 0x80 ≤ n then some (n.toNat, rest) else none
  | 0x82 :: high :: low :: rest =>
    let n := high.toNat * 256 + low.toNat
    if 0x100 ≤ n ∧ n < tooLong then some (n, rest) else none
  | n :: rest => if n < 0x80 then some (n.toNat, rest) else none
  | [] => none

/-- The value in front, and what follows it. Tags of more than one byte are not read. -/
def value? : Bytes → Option (Value × Bytes)
  | [] => none
  | tag :: rest => do
    let (n, rest) ← length? rest
    if tag &&& 0x1F ≠ 0x1F ∧ n ≤ rest.length then return (⟨tag, rest.take n⟩, rest.drop n)
    else none

/-- The content of a value in front that has a tag, and what follows it. -/
def tagged? (tag : UInt8) (bs : Bytes) : Option (Bytes × Bytes) := do
  let (v, rest) ← value? bs
  if v.tag = tag then return (v.content, rest) else none

/-- The content of a value that is all there is. -/
def whole? (tag : UInt8) (bs : Bytes) : Option Bytes := do
  let (content, rest) ← tagged? tag bs
  if rest.isEmpty then return content else none

/-- The bytes of a string of bits that fills them. -/
def wholeBits? : Bytes → Option Bytes
  | 0 :: bytes => some bytes
  | _ => none

/-- The number that the content of an integer stands for. It has no sign and no needless zero
in front. -/
def natural? : Bytes → Option Nat
  | [] => none
  | b :: rest =>
    if 0x80 ≤ b ∨ (b = 0 ∧ rest.head?.any (· < 0x80)) then none
    else some (ofBigEndian (b :: rest))

/-! ### Writing -/

def lengthBytes (n : Nat) : Bytes :=
  if n < 0x80 then [UInt8.ofNat n]
  else if n < 0x100 then [0x81, UInt8.ofNat n]
  else 0x82 :: bigEndian 2 n

def encode (tag : UInt8) (content : Bytes) : Bytes := tag :: lengthBytes content.length ++ content

/-- A number as an integer, with a zero in front if it would look negative. -/
def encodeNatural (n : Nat) : Bytes := encode integerTag (bigEndian (bitLength n / 8 + 1) n)

def encodeBits (bytes : Bytes) : Bytes := encode bitsTag (0 :: bytes)

end IPsecControl.Transport.Der
