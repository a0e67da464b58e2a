import IPsecControl.Control.Connector
import IPsecControl.Probe.Statistics
import IPsecControl.Time.Overflow

/-! Probers send echo requests to a target and report what came back. They report
statistics even when nothing did; `verified` makes that a failure. -/
namespace IPsecControl.Probe

/-- The answer to a probe of a target with a number of echo requests. -/
abbrev Prober := String → Nat → Except Overflow (Reply Statistics)

def verificationCount : Nat := 5

/-- Statistics without a reply are a failure. -/
def verdict (target : String) (s : Statistics) : Result Statistics :=
  if s.reachable then .ok s else .error (.noReply target s.transmitted s.received)

/-- What a verification logs about the statistics of its probe. -/
def verdictLine (target : String) (s : Statistics) : Log.Line :=
  if s.reachable then
    Log.info .verifier "Data plane reachable" [Log.shown "target" target, Log.shown "stats" s.text]
  else
    Log.warn .verifier "No echo replies"
      [Log.shown "target" target, Log.counted "sent" s.transmitted]

/-- The answer to a probe as the answer to a verification. -/
def verified (target : String) (reply : Reply Statistics) : Reply Statistics :=
  { reply with
    outcome := reply.outcome.bind (verdict target)
    remarks := reply.remarks ++
      match reply.outcome with
      | .ok s => [verdictLine target s]
      | .error _ => [] }

/-- Statistics of a run with at most `most` replies. -/
def cannedStatistics (most count : Nat) : Statistics :=
  let received := Nat.min most count
  { transmitted := count
    received := received
    lossPercent := if count = 0 then .zero else .ofRatio ((count - received) * 100) count
    roundTrip :=
      if received = 0 then none
      else some {
        min := .ofRatio 1 10
        avg := .ofRatio 2 10
        max := .ofRatio 3 10
        mdev := some (.ofRatio 5 100) } }

/-- A prober whose targets answer at most `most` requests. -/
def canned (most : Nat) : Prober := fun _ count =>
  .ok { outcome := .ok (cannedStatistics most count) }

end IPsecControl.Probe
