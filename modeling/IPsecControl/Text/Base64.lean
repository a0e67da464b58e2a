/-! Base 64: groups of four digits for three bytes, the last of which may be padded.
Blanks between the digits count for nothing. -/
namespace IPsecControl.Text.Base64

abbrev code (c : Char) : UInt8 := UInt8.ofNat c.toNat

def digit? (b : UInt8) : Option Nat :=
  if code 'A' ≤ b ∧ b ≤ code 'Z' then some (b.toNat - 65)
  else if code 'a' ≤ b ∧ b ≤ code 'z' then some (b.toNat - 71)
  else if code '0' ≤ b ∧ b ≤ code '9' then some (b.toNat + 4)
  else if b = code '+' then some 62
  else if b = code '/' then some 63
  else none

/-- A line break, a tab, a space or the like. -/
def isBlank (b : UInt8) : Bool := 9 ≤ b && b ≤ 13 || b == 32

def isPad (b : UInt8) : Bool := b == code '='

/-- The bytes of digits. What is left over at the end stands for one byte or two; its last bits
count for nothing. -/
def groups : List Nat → List UInt8
  | a :: b :: c :: d :: rest =>
    let n := ((a * 64 + b) * 64 + c) * 64 + d
    UInt8.ofNat (n / 65536) :: UInt8.ofNat (n / 256) :: UInt8.ofNat n :: groups rest
  | [a, b, c] =>
    let n := (a * 64 + b) * 64 + c
    [UInt8.ofNat (n / 1024), UInt8.ofNat (n / 4)]
  | [a, b] => [UInt8.ofNat ((a * 64 + b) / 16)]
  | _ => []

/-- The bytes that a text stands for. The last group is padded to four digits, or not at all. -/
def decode? (text : List UInt8) : Option (List UInt8) := do
  let text := text.filter (!isBlank ·)
  let front := text.takeWhile (!isPad ·)
  let pads := text.drop front.length
  let digits ← front.mapM digit?
  let isFilled := if pads.isEmpty then front.length % 4 ≠ 1
    else pads.all isPad ∧ pads.length ≤ 2 ∧ text.length % 4 = 0
  if isFilled then return groups digits else none

end IPsecControl.Text.Base64
