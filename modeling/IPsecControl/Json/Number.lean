import IPsecControl.Json.Failure
import IPsecControl.Number.Binary64

/-! JSON numbers. A number without fraction and exponent that fits 64 bits is an integer;
every other one is a binary64 number, computed from the first digits that fit 64 bits and
a power of ten, each step rounded. -/
namespace IPsecControl.Json
open Reader Text

inductive Number where
  | integer (n : Int)
  | float (negative : Bool) (magnitude : Binary64)
  deriving DecidableEq, Repr

namespace Number

/-- Digits of `n`, with a point after the first if there are more. -/
def pointed : List Char → List Char
  | [] => []
  | [d] => [d]
  | d :: ds => d :: '.' :: ds

def exponentText (e : Int) : List Char :=
  (if e < 0 then '-' else '+') :: zeroFill 2 (digits e.natAbs)

/-- Shortest digits: positional between `10 ^ -5` and `10 ^ 16`, with an exponent elsewhere. -/
def floatDigits : Binary64 → List Char
  | .infinite => ['i', 'n', 'f']
  | .finite m shift =>
    if m = 0 then ['0', '.', '0']
    else
      let (n, exponent) := Binary64.shortestDecimal m shift
      let scientific := exponent + (digits n).length - 1
      if -5 ≤ scientific ∧ scientific < 16 then
        Binary64.positional n exponent ++ if 0 ≤ exponent then ['.', '0'] else []
      else pointed (digits n) ++ 'e' :: exponentText scientific

/-- What a number is called where it is not wanted. -/
def unexpected : Number → Unexpected
  | .integer n => .integer n
  | .float negative magnitude =>
    .float (String.ofList ((if negative then ['-'] else []) ++ floatDigits magnitude))

/-- The most digits that fit 64 bits, their value, and the number of digits left. -/
def significand : Nat → List Nat → Nat × Nat
  | n, [] => (n, 0)
  | n, d :: ds => if n * 10 + d < 1 <<< 64 then significand (n * 10 + d) ds else (n, ds.length + 1)

def powerOfTen (n : Nat) : Binary64 := .ofNat (Nat.pow 10 n)

/-- Divides by `10 ^ 308` until the rest of the exponent is in range. -/
def scaleDown : Nat → Binary64 → Nat → Binary64
  | 0, x, _ => x
  | fuel + 1, x, exponent =>
    if exponent ≤ 308 then x.div (powerOfTen exponent)
    else if x = .zero then x
    else scaleDown fuel (x.div (powerOfTen 308)) (exponent - 308)

/-- `significand * 10 ^ exponent`; four divisions leave nothing of 64 bits. -/
def scale? (significand : Nat) (exponent : Int) : Option Binary64 :=
  let x := Binary64.ofNat significand
  if exponent < 0 then some (scaleDown 4 x exponent.natAbs)
  else if exponent ≤ 308 then
    match x.mul (powerOfTen exponent.toNat) with
    | .infinite => none
    | y => some y
  else if significand = 0 then some .zero
  else none

/-- The limits of exponents, which are signed 32-bit numbers. -/
def clampExponent (e : Int) : Int := max (-2147483648) (min 2147483647 e)

def finish (negative : Bool) (significand : Nat) (exponent : Int) : Reader Number := do
  match scale? significand exponent with
  | some x => return .float negative x
  | none => fail .numberOutOfRange

/-- The value of an exponent, unless it needs more than 31 bits, and what was not read. -/
def exponentValue : Nat → Bytes → Option Nat × Bytes
  | n, [] => (some n, [])
  | n, b :: rest =>
    if isDigitByte b then
      let n := n * 10 + (b.toNat - 48)
      if n < 1 <<< 31 then exponentValue n rest else (none, rest)
    else (some n, b :: rest)

def readExponent (negative : Bool) (significand : Nat) (start : Int) : Reader Number := do
  skip
  let down ← match ← next? with
    | some 43 => skip; pure false
    | some 45 => skip; pure true
    | _ => pure false
  match ← take? with
  | none => fail .endInValue
  | some b =>
    if !isDigitByte b then fail .invalidNumber
    else
      match exponentValue (b.toNat - 48) (← get) with
      | (some e, rest) =>
        set rest
        finish negative significand (clampExponent (if down then start - e else start + e))
      | (none, rest) =>
        set rest
        if significand ≠ 0 ∧ !down then fail .numberOutOfRange
        else
          let _ ← Reader.digits
          return .float negative .zero

def readScale (negative : Bool) (significand : Nat) (start : Int) : Reader Number := do
  match ← next? with
  | some 101 | some 69 => readExponent negative significand start
  | _ => finish negative significand start

def readFraction (negative : Bool) (whole : Nat) (start : Int) : Reader Number := do
  skip
  let places ← Reader.digits
  if places.isEmpty then
    match ← next? with
    | some _ => failPast .invalidNumber
    | none => failPast .endInValue
  else
    let (n, left) := significand whole places
    readScale negative n (start - (places.length - left : Nat))

/-- Reads what follows the whole part of a number. -/
def readRest (negative : Bool) (ds : List Nat) : Reader Number := do
  let (n, left) := significand 0 ds
  match ← next? with
  | some 46 => readFraction negative n left
  | some 101 | some 69 => readExponent negative n left
  | _ =>
    if left ≠ 0 then finish negative n left
    else if !negative then return .integer n
    else if n = 0 ∨ 1 <<< 63 < n then return .float true (.ofNat n)
    else return .integer (-n)

/-- Reads a number behind its sign. -/
def read (negative : Bool) : Reader Number := do
  match ← next? with
  | none => fail .endInValue
  | some b =>
    if !isDigitByte b then
      skip
      fail .invalidNumber
    else if b = 48 then
      skip
      match ← next? with
      | some c => if isDigitByte c then failPast .invalidNumber else readRest negative [0]
      | none => readRest negative [0]
    else readRest negative (← Reader.digits)

/-! ### Reading over numbers -/

/-- What a number begins with decides whether more digits may follow. -/
def passFirst : Option UInt8 → Reader Unit
  | some 48 => do
    if (← next?).any isDigitByte then failPast .invalidNumber
  | some b => if isDigitByte b then discard Reader.digits else fail .invalidNumber
  | none => fail .invalidNumber

def passPlaces : Reader Unit := do
  if (← next?) = some 46 then
    skip
    if (← Reader.digits).isEmpty then failPast .invalidNumber

def passSign : Reader Unit := do
  if (← next?) = some 43 || (← next?) = some 45 then skip

def passPower : Reader Unit := do
  match ← take? with
  | some b => if isDigitByte b then discard Reader.digits else fail .invalidNumber
  | none => fail .invalidNumber

def passExponent : Reader Unit := do
  if (← next?) = some 101 || (← next?) = some 69 then
    skip
    passSign
    passPower

/-- Reads over a number behind its sign, whatever its size. -/
def pass : Reader Unit := do
  passFirst (← take?)
  passPlaces
  passExponent

end Number
end IPsecControl.Json
