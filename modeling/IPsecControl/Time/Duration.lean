import IPsecControl.Text.Decimal

/-! Lengths of time and their text. A duration is a whole number of nanoseconds;
its text is in the largest unit that leaves a whole part, with as many places as
it needs. -/
namespace IPsecControl

structure Duration where
  nanos : Nat
  deriving DecidableEq, Repr, Inhabited

namespace Duration

def zero : Duration := ⟨0⟩
def ofSeconds (n : Nat) : Duration := ⟨n * 1000000000⟩
def ofMillis (n : Nat) : Duration := ⟨n * 1000000⟩

def seconds (d : Duration) : Nat := d.nanos / 1000000000
def millis (d : Duration) : Nat := d.nanos / 1000000

/-- The longest duration: seconds are an unsigned 64-bit number. -/
def longest : Duration := ⟨1 <<< 64 * 1000000000 - 1⟩

/-- The sum, unless it is longer than the longest duration. -/
def add? (a b : Duration) : Option Duration :=
  if a.nanos + b.nanos ≤ longest.nanos then some ⟨a.nanos + b.nanos⟩ else none

def min (a b : Duration) : Duration := if a.nanos ≤ b.nanos then a else b

/-- `nanos` in units of `10 ^ places` nanoseconds, without trailing zeros. -/
def inUnits (nanos places : Nat) : List Char :=
  let unit := Nat.pow 10 places
  let fraction := Text.zeroFill places (Text.digits (nanos % unit))
  let shown := (fraction.reverse.dropWhile (· == '0')).reverse
  Text.digits (nanos / unit) ++ if nanos % unit = 0 then [] else '.' :: shown

def text (d : Duration) : String :=
  let (places, unit) :=
    if 1000000000 ≤ d.nanos then (9, "s")
    else if 1000000 ≤ d.nanos then (6, "ms")
    else if 1000 ≤ d.nanos then (3, "µs")
    else (0, "ns")
  String.ofList (inUnits d.nanos places) ++ unit

end Duration
end IPsecControl
