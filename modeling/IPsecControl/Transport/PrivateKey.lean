import IPsecControl.Curve.Cubic
import IPsecControl.Curve.Twisted
import IPsecControl.Transport.Der
import IPsecControl.Transport.Pem

/-! Private keys, and the public keys to them in the form that certificates have. A key is a
number on a curve, a seed, or the factors of a product; in a section for keys of all kinds, the
name of its algorithm is in front. -/
namespace IPsecControl.Transport.PrivateKey
open Der Number Curve

/-- The identifiers of algorithms and curves. -/
def factorsOid : Bytes := [0x2A, 0x86, 0x48, 0x86, 0xF7, 0x0D, 0x01, 0x01, 0x01]
def curveOid : Bytes := [0x2A, 0x86, 0x48, 0xCE, 0x3D, 0x02, 0x01]
def curve256Oid : Bytes := [0x2A, 0x86, 0x48, 0xCE, 0x3D, 0x03, 0x01, 0x07]
def curve384Oid : Bytes := [0x2B, 0x81, 0x04, 0x00, 0x22]
def twistedOid : Bytes := [0x2B, 0x65, 0x70]

/-- The algorithm of products, which has no parameter. -/
def factorsAlgorithm : Bytes := encode oidTag factorsOid ++ [0x05, 0x00]

def twistedAlgorithm : Bytes := encode oidTag twistedOid

structure NamedCurve where
  curve : Cubic
  oid : Bytes
  deriving DecidableEq, Repr

def NamedCurve.all : List NamedCurve :=
  [⟨.bits256, curve256Oid⟩, ⟨.bits384, curve384Oid⟩]

def NamedCurve.algorithm (c : NamedCurve) : Bytes :=
  encode oidTag curveOid ++ encode oidTag c.oid

/-- A public key as certificates have it. -/
def certified (algorithm key : Bytes) : Bytes := encode sequenceTag algorithm ++ encodeBits key

/-! ### Keys in a frame -/

/-- A key behind the name of its algorithm. -/
structure Framed where
  version : Nat
  algorithm : Bytes
  key : Bytes
  /-- What follows the key and its attributes. -/
  rest : Bytes
  deriving DecidableEq, Repr

def Framed.parse? (bytes : Bytes) : Option Framed := do
  let content ← whole? sequenceTag bytes
  let (version, rest) ← tagged? integerTag content
  let (algorithm, rest) ← tagged? sequenceTag rest
  let (key, rest) ← tagged? octetsTag rest
  let rest := match tagged? (contextTag 0) rest with
    | some (_, rest) => rest
    | none => rest
  return ⟨← natural? version, algorithm, key, rest⟩

/-- The key to an algorithm, with nothing behind it. -/
def Framed.plain? (f : Framed) (algorithm : Bytes) : Option Bytes :=
  if f.version = 0 ∧ f.algorithm = algorithm ∧ f.rest.isEmpty then some f.key else none

/-! ### Curves -/

/-- The public key to a number on a curve, which comes with that key and may come with the name
of the curve. -/
def curveKey? (c : NamedCurve) (bytes : Bytes) : Option Bytes := do
  let content ← whole? sequenceTag bytes
  let (version, rest) ← tagged? integerTag content
  let (secret, rest) ← tagged? octetsTag rest
  let rest ← match tagged? (contextTag 0) rest with
    | some (name, rest) => if name = encode oidTag c.oid then some rest else none
    | none => some rest
  let given ← wholeBits? (← whole? bitsTag (← whole? (contextTag 1) rest))
  let key ← c.curve.publicKey? secret
  if version = [1] ∧ given = key then return certified c.algorithm key else none

/-! ### Seeds -/

/-- The public key that may follow a seed: none in the first version, one in the second. -/
def givenKey? (version : Nat) (rest : Bytes) : Option (Option Bytes) :=
  match version with
  | 0 => if rest.isEmpty then some none else none
  | 1 => do
    let bits ← (whole? 0x81 rest).or ((whole? (contextTag 1) rest).bind (whole? bitsTag))
    return some (← wholeBits? bits)
  | _ => none

def seedKey? (f : Framed) : Option Bytes := do
  let seed ← whole? octetsTag f.key
  let given ← givenKey? f.version f.rest
  let key := Twisted.publicKey seed
  if f.algorithm = twistedAlgorithm ∧ seed.length = 32 ∧ given.all (· = key) then
    return certified twistedAlgorithm key
  else none

/-! ### Products -/

/-- A private key for a product: the product, two exponents, two factors, and what makes
computing with these faster. -/
structure Factors where
  product : Nat
  publicExponent : Nat
  exponent : Nat
  first : Nat
  second : Nat
  firstExponent : Nat
  secondExponent : Nat
  coefficient : Nat
  deriving DecidableEq, Repr

namespace Factors

/-- Reads so many numbers, which are all there is. -/
def naturals? : Nat → Bytes → Option (List Nat)
  | 0, bs => if bs.isEmpty then some [] else none
  | count + 1, bs => do
    let (content, rest) ← tagged? integerTag bs
    return (← natural? content) :: (← naturals? count rest)

def parse? (bytes : Bytes) : Option Factors := do
  match ← naturals? 9 (← whole? sequenceTag bytes) with
  | [0, product, publicExponent, exponent, first, second, firstExponent, secondExponent,
      coefficient] =>
    return { product, publicExponent, exponent, first, second, firstExponent, secondExponent,
             coefficient }
  | _ => none

/-- How many digits a factor has: half of those of the product, rounded up. -/
def half (k : Factors) : Nat := (bitLength k.product + 1) / 2

def isFactor (k : Factors) (factor exponent : Nat) : Bool :=
  factor % 2 == 1 && bitLength factor == k.half && k.half % 512 == 0 &&
    exponent % 2 == 1 && exponent < factor

/-- Whether the numbers belong together and are neither too small nor too large. -/
def isGood (k : Factors) : Bool :=
  k.product % 2 == 1 && 2048 ≤ (bitLength k.product + 7) / 8 * 8 && bitLength k.product ≤ 4096 &&
    k.publicExponent % 2 == 1 && 65537 ≤ k.publicExponent && k.publicExponent < 1 <<< 33 &&
    k.first * k.second == k.product &&
    k.exponent % 2 == 1 && k.half < bitLength k.exponent && k.exponent < k.product &&
    k.isFactor k.first k.firstExponent && k.isFactor k.second k.secondExponent &&
    k.coefficient < k.first && k.coefficient * k.second % k.first == 1

/-- The public key: the product and the public exponent. -/
def publicKey (k : Factors) : Bytes :=
  encode sequenceTag (encodeNatural k.product ++ encodeNatural k.publicExponent)

end Factors

def factorsKey? (bytes : Bytes) : Option Bytes := do
  let k ← Factors.parse? bytes
  if k.isGood then return certified factorsAlgorithm k.publicKey else none

/-! ### Sections -/

/-- The public key to the key in a section, as certificates have it. -/
def certified? (s : Pem.Section) : Option Bytes :=
  match s.kind with
  | .rsaKey => factorsKey? s.content
  | .ecKey => NamedCurve.all.findSome? (curveKey? · s.content)
  | .key => do
    let f ← Framed.parse? s.content
    ((f.plain? factorsAlgorithm).bind factorsKey?)
      |>.or (NamedCurve.all.findSome? fun c => (f.plain? c.algorithm).bind (curveKey? c))
      |>.or (seedKey? f)
  | _ => none

end IPsecControl.Transport.PrivateKey
