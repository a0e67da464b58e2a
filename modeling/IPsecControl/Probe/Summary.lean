import IPsecControl.Error.Basic
import IPsecControl.Probe.Statistics
import IPsecControl.Text.DigitClass
import IPsecControl.Text.Scan

/-! The summary that `ping` prints, in either of its two formats. The first packet summary
in the output counts, and the first line of round-trip times, which may be missing. Digits
of any script make a field; only ASCII digits make it a number. -/
namespace IPsecControl.Probe
open Text

/-- The fields of a packet summary, as printed. -/
structure PacketFields where
  transmitted : List Char
  received : List Char
  duplicates : Option (List Char)
  loss : List Char
  deriving DecidableEq, Repr

/-- The fields of a line of round-trip times, as printed. -/
structure RoundTripFields where
  min : List Char
  avg : List Char
  max : List Char
  mdev : Option (List Char)
  deriving DecidableEq, Repr

def isFraction (c : Char) : Bool := isDecimalDigit c || c == '.'

/-- A count behind `, +` and in front of its unit. -/
def extra? (unit cs : List Char) : Option (List Char × List Char) := do
  let cs ← literal? [',', ' ', '+'] cs
  let (count, cs) ← run? isDecimalDigit cs
  let cs ← literal? (' ' :: unit) cs
  return (count, cs)

def packetFields? (cs : List Char) : Option PacketFields := do
  let (transmitted, cs) ← run? isDecimalDigit cs
  let cs ← literal? " packets transmitted, ".toList cs
  let (received, cs) ← run? isDecimalDigit cs
  let cs ← literal? [' '] cs
  let cs ← literal? "received".toList (skipping "packets ".toList cs)
  let (duplicates, cs) := match extra? "duplicates".toList cs with
    | some (count, rest) => (some count, rest)
    | none => (none, cs)
  let cs := match extra? "errors".toList cs with
    | some (_, rest) => rest
    | none => cs
  let cs ← literal? [',', ' '] cs
  let (loss, cs) ← run? isFraction cs
  let _ ← literal? "% packet loss".toList cs
  return { transmitted, received, duplicates, loss }

def roundTripFields? (cs : List Char) : Option RoundTripFields := do
  let cs ← (literal? "rtt".toList cs).or (literal? "round-trip".toList cs)
  let cs ← literal? " min/avg/max".toList cs
  let cs ← literal? " = ".toList (skipping "/mdev".toList cs)
  let (min, cs) ← run? isFraction cs
  let cs ← literal? ['/'] cs
  let (avg, cs) ← run? isFraction cs
  let cs ← literal? ['/'] cs
  let (max, cs) ← run? isFraction cs
  let (mdev, cs) := match (literal? ['/'] cs).bind (run? isFraction) with
    | some (mdev, rest) => (some mdev, rest)
    | none => (none, cs)
  let _ ← literal? " ms".toList cs
  return { min, avg, max, mdev }

def invalidField (field : String) (value : List Char) : Error :=
  .unreadableProbe ("invalid " ++ field ++ " value '" ++ String.ofList value ++ "'")

/-- A count below `2 ^ 32`. -/
def count (field : String) (value : List Char) : Result Nat :=
  (readBounded 10 (1 <<< 32 - 1) value).mapError fun _ => invalidField field value

def fraction (field : String) (value : List Char) : Result Binary64 :=
  match Binary64.read? value with
  | some x => .ok x
  | none => .error (invalidField field value)

def RoundTripFields.read (f : RoundTripFields) : Result RoundTrip := do
  let min ← fraction "rtt min" f.min
  let avg ← fraction "rtt avg" f.avg
  let max ← fraction "rtt max" f.max
  let mdev ← f.mdev.mapM (fraction "rtt mdev")
  return { min, avg, max, mdev }

def Statistics.parse (output : String) : Result Statistics := do
  let some f := firstMatch? packetFields? output.toList
    | .error (.unreadableProbe "no packet summary in ping output")
  let transmitted ← count "transmitted" f.transmitted
  let received ← count "received" f.received
  let duplicates ← f.duplicates.mapM (count "duplicates")
  let lossPercent ← fraction "packet loss" f.loss
  let roundTrip ← (firstMatch? roundTripFields? output.toList).mapM RoundTripFields.read
  return { transmitted, received, duplicates := duplicates.getD 0, lossPercent, roundTrip }

end IPsecControl.Probe
