import IPsecControl.Number.Binary64

/-! What a reachability probe reports: packet counts, loss, and round-trip times. -/
namespace IPsecControl.Probe

/-- Round-trip times in milliseconds; not every prober reports a deviation. -/
structure RoundTrip where
  min : Binary64
  avg : Binary64
  max : Binary64
  mdev : Option Binary64
  deriving DecidableEq, Repr

structure Statistics where
  transmitted : Nat
  received : Nat
  duplicates : Nat := 0
  lossPercent : Binary64
  /-- Absent when nothing came back. -/
  roundTrip : Option RoundTrip
  deriving DecidableEq, Repr

namespace Statistics

/-- At least one reply came back. -/
def reachable (s : Statistics) : Bool := 0 < s.received

def text (s : Statistics) : String :=
  Text.decimal s.transmitted ++ " transmitted, " ++ Text.decimal s.received ++ " received, " ++
    s.lossPercent.shortest ++ "% loss" ++
    (if 0 < s.duplicates then ", " ++ Text.decimal s.duplicates ++ " duplicates" else "") ++
    (match s.roundTrip with
      | none => ""
      | some r => ", rtt avg " ++ r.avg.fixed 3 ++ " ms")

end Statistics
end IPsecControl.Probe
