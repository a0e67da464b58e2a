import IPsecControl.Time.Duration

/-! Readings of a clock that never goes back. A reading counts nanoseconds from the
clock's origin; its seconds are a signed 64-bit number, so there is a latest one. -/
namespace IPsecControl

structure Instant where
  nanos : Nat
  deriving DecidableEq, Repr, Inhabited

namespace Instant

instance : LT Instant := ⟨fun a b => a.nanos < b.nanos⟩
instance : LE Instant := ⟨fun a b => a.nanos ≤ b.nanos⟩
instance (a b : Instant) : Decidable (a < b) := inferInstanceAs (Decidable (a.nanos < b.nanos))
instance (a b : Instant) : Decidable (a ≤ b) := inferInstanceAs (Decidable (a.nanos ≤ b.nanos))

/-- The last reading a clock can show. -/
def latest : Instant := ⟨1 <<< 63 * 1000000000 - 1⟩

def after (t : Instant) (d : Duration) : Instant := ⟨t.nanos + d.nanos⟩

/-- The instant a while later, unless the clock cannot show it. -/
def after? (t : Instant) (d : Duration) : Option Instant :=
  if t.after d ≤ latest then some (t.after d) else none

def since (t earlier : Instant) : Duration := ⟨t.nanos - earlier.nanos⟩

def min (a b : Instant) : Instant := if a ≤ b then a else b
def max (a b : Instant) : Instant := if a ≤ b then b else a

/-- The longest wait, of about thirty years: one that never ends in practice. -/
def longestWait : Duration := .ofSeconds (86400 * 365 * 30)

/-- The end of a wait, to the nanosecond; a timer that fires on whole milliseconds would round it up to one.
A wait that would take longer than the longest ends with that. -/
def afterWait (t : Instant) (d : Duration) : Instant := t.after (d.min longestWait)

def farFuture (t : Instant) : Instant := t.after longestWait

end Instant
end IPsecControl
