/-! Variable-length integers: seven bits to a byte, least significant first, and
the top bit set on every byte but the last. A number below `2 ^ 64` takes at most
ten bytes, and the tenth holds its top bit only. -/
namespace IPsecControl.Wire

abbrev Bytes := List UInt8

namespace Varint

/-- The bytes of `n`, continuing for at most `more` bytes after the first. -/
def groups : Nat → Nat → Bytes
  | 0, n => [UInt8.ofNat n]
  | more + 1, n =>
    if n < 128 then [UInt8.ofNat n] else UInt8.ofNat (128 + n % 128) :: groups more (n / 128)

/-- The bytes of a number below `2 ^ 64`. -/
def encode (n : Nat) : Bytes := groups 9 n

/-- The number of bytes that `groups` writes. -/
def sizeWithin : Nat → Nat → Nat
  | 0, _ => 1
  | more + 1, n => if n < 128 then 1 else 1 + sizeWithin more (n / 128)

/-- The number of bytes of a number below `2 ^ 64`. -/
def size (n : Nat) : Nat := sizeWithin 9 n

/-- Reads a number of at most `left` bytes; the last one allowed may be 0 or 1. -/
def readWithin : Nat → Bytes → Option (Nat × Bytes)
  | 0, _ => none
  | _ + 1, [] => none
  | left + 1, b :: rest =>
    if b.toNat < 128 then
      if left = 0 ∧ 2 ≤ b.toNat then none else some (b.toNat, rest)
    else (readWithin left rest).map fun (n, rest) => (b.toNat % 128 + 128 * n, rest)

/-- Reads a number below `2 ^ 64` from the front. -/
def read? (bytes : Bytes) : Option (Nat × Bytes) := readWithin 10 bytes

end Varint
end IPsecControl.Wire
