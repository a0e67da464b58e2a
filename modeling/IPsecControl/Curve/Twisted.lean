import IPsecControl.Number.Digest

/-! The curve of points with `y ^ 2 - x ^ 2 = 1 + d * x ^ 2 * y ^ 2` to the modulus
`2 ^ 255 - 19`. Its points are a group with the zero `(0, 1)`. A private key is a seed; its
digest gives the number whose multiple of a fixed point is the public key. -/
namespace IPsecControl.Curve.Twisted
open Number

def prime : Nat := 1 <<< 255 - 19

/-- The number `d` of the curve. -/
def coefficient : Nat := (prime - 121665) * inverseMod prime 121666 % prime

/-- The point whose multiples are the public keys. -/
def base : Nat × Nat :=
  (15112221349535400772501151409588531511454012693041857206046113283949847762202,
    46316835694926478169428394003475163141307993866256225615783033603165251855960)

def add (a b : Nat × Nat) : Nat × Nat :=
  let across := a.1 * b.2 + b.1 * a.2
  let along := a.2 * b.2 + a.1 * b.1
  let twist := coefficient * (a.1 * b.1 % prime) * (a.2 * b.2 % prime) % prime
  (across * inverseMod prime (1 + twist) % prime,
    along * inverseMod prime (subMod prime 1 twist) % prime)

def multiple (n : Nat) : Nat × Nat := repeated add (0, 1) n base

/-- A point as 32 bytes: its second coordinate, with the last bit of the first on top. -/
def encode (p : Nat × Nat) : List UInt8 := littleEndian 32 (p.2 + (p.1 % 2) <<< 255)

/-- The number that a seed stands for: a multiple of eight with 255 bits. -/
def scalar (seed : List UInt8) : Nat :=
  let n := ofLittleEndian ((Digest.digest seed).take 32)
  1 <<< 254 + n % (1 <<< 254) / 8 * 8

def publicKey (seed : List UInt8) : List UInt8 := encode (multiple (scalar seed))

end IPsecControl.Curve.Twisted
