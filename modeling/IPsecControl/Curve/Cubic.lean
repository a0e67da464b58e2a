import IPsecControl.Number.Modular

/-! Curves of points whose coordinates solve `y ^ 2 = x ^ 3 - 3 * x + b` to a prime modulus.
Together with one point at infinity, which is its zero, the points are a group. A private key
is a number, and its public key is that multiple of a fixed point. -/
namespace IPsecControl.Curve
open Number

/-- A point of a curve; none is the one at infinity. -/
abbrev Point := Option (Nat × Nat)

structure Cubic where
  prime : Nat
  /-- The point whose multiples are the public keys. -/
  base : Nat × Nat
  /-- How many multiples the base point has. -/
  order : Nat
  /-- How many bytes a coordinate takes. -/
  size : Nat
  deriving DecidableEq, Repr

namespace Cubic

def bits256 : Cubic where
  prime := 1 <<< 256 - 1 <<< 224 + 1 <<< 192 + 1 <<< 96 - 1
  base :=
    (0x6B17D1F2E12C4247F8BCE6E563A440F277037D812DEB33A0F4A13945D898C296,
      0x4FE342E2FE1A7F9B8EE7EB4A7C0F9E162BCE33576B315ECECBB6406837BF51F5)
  order := 0xFFFFFFFF00000000FFFFFFFFFFFFFFFFBCE6FAADA7179E84F3B9CAC2FC632551
  size := 32

/-- The coordinates of the base point with 384 bits. -/
def baseX384 : Nat :=
  0xAA87CA22BE8B05378EB1C71EF320AD746E1D3B628BA79B9859F741E082542A385502F25DBF55296C3A545E3872760AB7
def baseY384 : Nat :=
  0x3617DE4A96262C6F5D9E98BF9292DC29F8F41DBD289A147CE9DA3113B5F0B8C00A60B1CE1D7E819D7A431D7C90EA0E5F

/-- The number of multiples of that point. -/
def order384 : Nat :=
  0xFFFFFFFFFFFFFFFFFFFFFFFFFFFFFFFFFFFFFFFFFFFFFFFFC7634D81F4372DDF581A0DB248B0A77AECEC196ACCC52973

def bits384 : Cubic where
  prime := 1 <<< 384 - 1 <<< 128 - 1 <<< 96 + 1 <<< 32 - 1
  base := (baseX384, baseY384)
  order := order384
  size := 48

variable (c : Cubic)

/-- The sum of two points. The line through them, which touches the curve if they are the same,
meets it in one more point, and the sum lies on the other side of that. -/
def add : Point → Point → Point
  | none, b => b
  | a, none => a
  | some (x, y), some (u, v) =>
    if x = u ∧ (y + v) % c.prime = 0 then none
    else
      let (rise, run) :=
        if x = u then (subMod c.prime (3 * x * x % c.prime) 3, 2 * y % c.prime)
        else (subMod c.prime v y, subMod c.prime u x)
      let slope := rise * inverseMod c.prime run % c.prime
      let far := subMod c.prime (slope * slope % c.prime) ((x + u) % c.prime)
      some (far, subMod c.prime (slope * subMod c.prime x far % c.prime) y)

def multiple (n : Nat) : Point := repeated c.add none n (some c.base)

/-- A point as bytes: both of its coordinates behind a mark. -/
def encode : Point → List UInt8
  | none => [0]
  | some (x, y) => 4 :: bigEndian c.size x ++ bigEndian c.size y

/-- The public key to a private one, which is positive and below the order. -/
def publicKey? (secret : List UInt8) : Option (List UInt8) :=
  let n := ofBigEndian secret
  if secret.length = c.size ∧ 0 < n ∧ n < c.order then some (c.encode (c.multiple n)) else none

end Cubic
end IPsecControl.Curve
