/-! Arithmetic of natural numbers to a modulus. -/
namespace IPsecControl.Number

/-- An element combined with itself a number of times, by halving the number. -/
def repeated {α : Type} (combine : α → α → α) (unit : α) (n : Nat) (a : α) : α :=
  if n = 0 then unit
  else
    let half := repeated combine unit (n / 2) a
    let whole := combine half half
    if n % 2 = 0 then whole else combine whole a

def powMod (modulus base exponent : Nat) : Nat :=
  repeated (fun a b => a * b % modulus) (1 % modulus) exponent base

/-- A difference to a modulus, of numbers below it. -/
def subMod (modulus a b : Nat) : Nat := (a + modulus - b) % modulus

/-- The inverse to a prime modulus: as a number to the power of the modulus less one is one, it
is the number to the power of the modulus less two. -/
def inverseMod (prime a : Nat) : Nat := powMod prime a (prime - 2)

def bitLength (n : Nat) : Nat := if n = 0 then 0 else n.log2 + 1

/-- The largest number whose power is no more than `n`, if it is below `2 ^ bits`. -/
def root (degree bits n : Nat) : Nat :=
  (List.range bits).reverse.foldl (fun r i =>
    if Nat.pow (r + 1 <<< i) degree ≤ n then r + 1 <<< i else r) 0

/-- The last bytes of a number, with the least one first. -/
def littleEndian : Nat → Nat → List UInt8
  | 0, _ => []
  | size + 1, n => UInt8.ofNat n :: littleEndian size (n / 256)

/-- The last bytes of a number, with the least one last. -/
def bigEndian (size n : Nat) : List UInt8 := (littleEndian size n).reverse

/-- The number of bytes with the least one last. -/
def ofBigEndian (bytes : List UInt8) : Nat := bytes.foldl (fun n b => n * 256 + b.toNat) 0

/-- The number of bytes with the least one first. -/
def ofLittleEndian (bytes : List UInt8) : Nat := ofBigEndian bytes.reverse

end IPsecControl.Number
