import IPsecControl.Text.Decimal

/-! Non-negative binary64 numbers, as exact dyadic rationals. `ofRatio` rounds a
quotient to the nearest number, ties to even; `shortest` writes the fewest digits
that read back as the same number, without an exponent; `fixed` writes a set
number of places, a half going to the even neighbour. -/
namespace IPsecControl

/-- A number `mantissa * 2 ^ (shift - 1074)`, or infinity. -/
inductive Binary64 where
  | finite (mantissa shift : Nat)
  | infinite
  deriving DecidableEq, Repr, Inhabited

namespace Binary64
open Text

def zero : Binary64 := .finite 0 0

/-- `num / den` to the nearest integer, a half to the even one. -/
def roundDiv (num den : Nat) : Nat :=
  let q := num / den
  let r := num % den
  if den < 2 * r || (den == 2 * r && q % 2 == 1) then q + 1 else q

/-- The number of unit steps below `num <<< 1074 / den` that leave 53 bits. -/
def stepFor (num den : Nat) : Nat :=
  let scaled := num <<< 1074 / den
  Nat.log2 scaled - 52

/-- The binary64 number nearest to `num / den`, for a positive `den`. -/
def ofRatio (num den : Nat) : Binary64 :=
  let shift := stepFor num den
  let m := roundDiv (num <<< 1074) (den <<< shift)
  let (m, shift) := if m = 1 <<< 53 then (1 <<< 52, shift + 1) else (m, shift)
  if 2045 < shift then .infinite else .finite m shift

/-- The integer `n`, rounded. -/
def ofNat (n : Nat) : Binary64 := ofRatio n 1

def mul : Binary64 → Binary64 → Binary64
  | .finite m s, .finite n t => ofRatio ((m * n) <<< (s + t)) (1 <<< 2148)
  | _, _ => .infinite

/-- The quotient by a positive number, rounded. -/
def div : Binary64 → Binary64 → Binary64
  | .finite m s, .finite n t => ofRatio (m <<< s) (n <<< t)
  | _, _ => .infinite

def digitsValue (ds : List Char) : Nat :=
  ds.foldl (fun n c => n * 10 + (c.toNat - 48)) 0

def isDigit (c : Char) : Bool := '0' ≤ c && c ≤ '9'

/-- Reads a numeral of ASCII digits with at most one point and at least one digit. -/
def read? (cs : List Char) : Option Binary64 :=
  let whole := cs.takeWhile isDigit
  match cs.dropWhile isDigit with
  | [] => if whole.isEmpty then none else some (ofRatio (digitsValue whole) 1)
  | '.' :: places =>
    if places.all isDigit && !(whole.isEmpty && places.isEmpty) then
      some (ofRatio (digitsValue (whole ++ places)) (Nat.pow 10 places.length))
    else none
  | _ => none

/-- The digits of `n * 10 ^ exponent`, positional. -/
def positional (n : Nat) (exponent : Int) : List Char :=
  if 0 ≤ exponent then digits (n * Nat.pow 10 exponent.toNat)
  else
    let places := exponent.natAbs
    let ds := zeroFill (places + 1) (digits n)
    ds.take (ds.length - places) ++ '.' :: ds.drop (ds.length - places)

/-- The reals that round to a number, in units of a quarter of its last step:
twice the spacing below is halved at a power of two. -/
structure Interval where
  low : Nat
  high : Nat
  closed : Bool

def interval (m shift : Nat) : Interval where
  low := if m = 1 <<< 52 ∧ 0 < shift then 4 * m - 1 else 4 * m - 2
  high := 4 * m + 2
  closed := m % 2 = 0

/-- The point of the grid `10 ^ exponent` nearest to `m * 2 ^ (shift - 1074)` among
those that round to it. A half goes up. -/
def gridPoint? (m shift : Nat) (exponent : Int) : Option Nat :=
  -- in units of `2 ^ (shift - 1076) / den`, one grid step is `unit`
  let i := interval m shift
  let up := Nat.pow 10 exponent.toNat
  let down := Nat.pow 10 (-exponent).toNat
  let unit := up <<< 1076
  let scale := down <<< shift
  let value := 4 * m * scale
  let below := value / unit
  let inside (n : Nat) : Bool :=
    if i.closed then i.low * scale ≤ n * unit && n * unit ≤ i.high * scale
    else i.low * scale < n * unit && n * unit < i.high * scale
  let candidates :=
    if 2 * (value % unit) < unit then [below, below + 1] else [below + 1, below]
  (candidates.filter fun n => 0 < n).find? inside

/-- The point `n * 10 ^ exponent` of the first grid, from the coarsest, that has a point
rounding to the number. -/
def coarsest (m shift : Nat) : Nat → Int → Nat × Int
  | 0, _ => (m <<< shift * Nat.pow 5 1074, -1074)
  | fuel + 1, exponent =>
    match gridPoint? m shift exponent with
    | some n => (n, exponent)
    | none => coarsest m shift fuel (exponent - 1)

/-- A bound on the decimal exponent of a finite number. -/
def decimalTop (m shift : Nat) : Int :=
  ((Nat.log2 m + shift : Nat) - 1074 : Int) * 30103 / 100000 + 1

/-- The shortest decimal `n * 10 ^ exponent` that reads back as a positive number. -/
def shortestDecimal (m shift : Nat) : Nat × Int := coarsest m shift 40 (decimalTop m shift)

def shortestDigits : Binary64 → List Char
  | .infinite => ['i', 'n', 'f']
  | .finite m shift =>
    if m = 0 then ['0'] else positional (shortestDecimal m shift).1 (shortestDecimal m shift).2

/-- The shortest positional decimal that reads back as the number. -/
def shortest (x : Binary64) : String := String.ofList x.shortestDigits

/-- The number with exactly `places` digits after the point. -/
def fixed (places : Nat) : Binary64 → String
  | .infinite => "inf"
  | .finite m shift =>
    String.ofList
      (positional (roundDiv (m <<< shift * Nat.pow 10 places) (1 <<< 1074)) (-(places : Int)))

end Binary64
end IPsecControl
