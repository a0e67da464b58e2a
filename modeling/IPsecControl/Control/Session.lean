import IPsecControl.Probe.Prober
import IPsecControl.Time.Clock

/-! Sessions with a control plane: a clock, a cancellation token, and a timeline of
what happened. Operations run in an environment of a connector, a prober and a
schedule of cancellation. A wait moves the clock to its end; nothing else takes time.

The clock is ideal, as a wait ends to the nanosecond when its time is over. Timers that fire on whole
milliseconds do the same where all durations are whole milliseconds. Elsewhere they are up to a millisecond
late, and waits that end within one millisecond of each other end together. -/
namespace IPsecControl

inductive Event where
  /-- A client was opened. -/
  | opened
  /-- A client was closed. -/
  | closed
  /-- A request was sent. -/
  | called (call : Call)
  /-- A probe was started. -/
  | probed (target : String) (count : Nat)
  /-- A call under a deadline ended, with its failure if it failed. -/
  | ended (operation : String) (failure : Option Error)
  | logged (line : Log.Line)
  deriving DecidableEq

/-- When the token of a run is cancelled. -/
inductive Cancellation where
  | never
  /-- At an instant; a call that ends at the same instant still ends. -/
  | during (instant : Instant)
  /-- Just before the token is looked at with the given number of earlier looks. -/
  | beforeLook (earlier : Nat)
  deriving DecidableEq, Repr

/-- Cancellation by someone who waits for a while from an instant on. -/
def Cancellation.afterWait (start : Instant) (delay : Duration) : Cancellation :=
  if delay.nanos = 0 then .beforeLook 0 else .during (start.afterWait delay)

structure Environment where
  connector : Connector
  prober : Probe.Prober
  cancellation : Cancellation := .never

structure Session where
  now : Instant
  cancelled : Bool := false
  /-- How often the token was looked at. -/
  looks : Nat := 0
  timeline : List (Instant × Event) := []

namespace Session

def events (s : Session) : List Event := s.timeline.map (·.2)

def opens (s : Session) : Nat := (s.events.filter (· = .opened)).length
def closes (s : Session) : Nat := (s.events.filter (· = .closed)).length

def calls (s : Session) : List Call :=
  s.events.filterMap fun | .called call => some call | _ => none

def probes (s : Session) : List (String × Nat) :=
  s.events.filterMap fun | .probed target count => some (target, count) | _ => none

def log (s : Session) : List Log.Line :=
  s.events.filterMap fun | .logged line => some line | _ => none

/-- Notes an event at the current time. -/
def record (s : Session) (e : Event) : Session :=
  { s with timeline := s.timeline ++ [(s.now, e)] }

end Session

/-- A session that ended because the clock's arithmetic has no result. -/
structure Halt where
  cause : Overflow
  session : Session

abbrev Run (α : Type) := ReaderT Environment (StateT Session (Except Halt)) α

namespace Run

def halt {α : Type} (cause : Overflow) : Run α := do
  throw ⟨cause, ← get⟩

def record (e : Event) : Run Unit := modify (·.record e)

def log (line : Log.Line) : Run Unit := record (.logged line)

def logAll (lines : List Log.Line) : Run Unit := lines.forM log

/-- Looks whether the run is cancelled. -/
def look : Run Bool := do
  let s ← get
  let fires := s.cancelled || (← read).cancellation = .beforeLook s.looks
  set { s with cancelled := fires, looks := s.looks + 1 }
  return fires

/-- How a wait ends. -/
inductive Wake where
  | answered
  | expired
  | cancelled
  deriving DecidableEq, Repr

/-- The end of a wait from `now` for an answer at `finish`. It ends with the answer or at
the deadline, if that is before the answer by a nanosecond or more, unless the run is cancelled
before either. -/
def wakeAt (cancellation : Cancellation) (now finish deadline : Instant) : Wake × Instant :=
  let expiry := now.max deadline
  let quiet := if finish ≤ expiry then (Wake.answered, finish) else (Wake.expired, expiry)
  match cancellation with
  | .during c => if c < quiet.2 then (.cancelled, now.max c) else quiet
  | _ => quiet

/-- Waits for an answer that takes `delay`, until a deadline. -/
def wait (delay : Duration) (deadline : Instant) : Run Wake := do
  let s ← get
  let (wake, time) := wakeAt (← read).cancellation s.now (s.now.afterWait delay) deadline
  set { s with now := time, cancelled := s.cancelled || wake = Wake.cancelled }
  return wake

def openClient : Run (Result Unit) := do
  let connector := (← read).connector
  logAll connector.openNotes
  if connector.opening matches .ok () then record .opened
  return connector.opening

def closeClient : Run Unit := do
  record .closed
  logAll (← read).connector.closeNotes

/-- Sends a request; the answer is on its way. -/
def send (rpc : Rpc) (request : rpc.Request) : Run (Reply rpc.Response) := do
  let earlier := (← get).calls
  record (.called ⟨rpc, request⟩)
  let reply := (← read).connector.answer earlier rpc request
  logAll reply.notes
  return reply

def startProbe (target : String) (count : Nat) : Run (Reply Probe.Statistics) := do
  record (.probed target count)
  match (← read).prober target count with
  | .error cause => halt cause
  | .ok reply =>
    logAll reply.notes
    return reply

/-- Waits for an answer as long as it takes. -/
def await {α : Type} (reply : Reply α) : Run (Result α) := do
  let _ ← wait reply.delay ((← get).now.after reply.delay)
  logAll reply.remarks
  return reply.outcome

/-- Runs an operation that has a token of its own, which nobody cancels. -/
def uncancelled {α : Type} (run : Run α) : Run α := fun env s => do
  let (a, t) ← run { env with cancellation := .never } { s with cancelled := false, looks := 0 }
  return (a, { t with cancelled := s.cancelled, looks := s.looks })

end Run
end IPsecControl
