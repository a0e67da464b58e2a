import IPsecControl.Control.MemoryPlane
import IPsecControl.Time.Clock

/-! Control planes in memory that record the calls made on them. A recorder is shared by its clients, and
a clone of a client is a client of the same recorder. A call is recorded when it is made, and the behavior
that its procedure has then decides how it ends; the response to a call that succeeds is made up when its
answer is fetched. Between the two anything can happen, on this client or on any other. -/
namespace IPsecControl
open Message

/-- What the clients of one recorder share. -/
structure Recorder where
  plane : MemoryPlane := {}
  /-- The calls made, in order. -/
  calls : List Call := []

namespace Recorder

/-- Sets the behavior of the procedure with a name. A name that no procedure has is good for nothing. -/
def behave (r : Recorder) (operation : String) (behavior : Behavior) : Recorder :=
  match Rpc.ofName? operation with
  | some rpc => { r with plane := r.plane.behave rpc behavior }
  | none => r

def listing (r : Recorder) (ikeSas : List ListIkeSa) : Recorder :=
  { r with plane := r.plane.listing ikeSas }

def record (r : Recorder) (call : Call) : Recorder := { r with calls := r.calls ++ [call] }

end Recorder

/-- A client of the recorder with a number. -/
structure Client where
  recorder : Nat
  deriving DecidableEq, Repr

/-- A call that was made, for one who waits for the answer. -/
structure Ticket where
  client : Client
  call : Call
  /-- The answer as it is when the call is made. -/
  reply : Reply call.rpc.Response
  /-- When there is an answer to fetch. -/
  due : Instant
  /-- The answer, once it is fetched. -/
  outcome : Option (Result call.rpc.Response)

/-- Recorders, a clock, and the tickets of all calls, in order. -/
structure Bench where
  now : Instant
  recorder : Client → Recorder := fun _ => {}
  tickets : List Ticket := []

namespace Bench

inductive Step where
  /-- A behavior is set on a client. -/
  | behave (client : Client) (operation : String) (behavior : Behavior)
  /-- The security associations to list are set on a client. -/
  | list (client : Client) (ikeSas : List ListIkeSa)
  /-- A call is made on a client. -/
  | call (client : Client) (call : Call)
  /-- The holder of a ticket looks for the answer. -/
  | poll (ticket : Nat)
  /-- Time passes. -/
  | elapse (time : Duration)

variable (b : Bench)

def update (client : Client) (change : Recorder → Recorder) : Bench :=
  { b with recorder := fun c => if c = client then change (b.recorder c) else b.recorder c }

def ticket (client : Client) (call : Call) : Ticket :=
  let reply := (b.recorder client).plane.answer call.rpc call.request
  { client, call, reply, due := b.now.afterWait reply.delay, outcome := none }

/-- The answer to the call of a ticket, if it is fetched now. -/
def answer (t : Ticket) : Result t.call.rpc.Response :=
  t.reply.outcome.map fun _ => (b.recorder t.client).plane.response t.call.rpc t.call.request

/-- The ticket after a look for the answer, which is fetched once, and not before it is due. -/
def fetch (t : Ticket) : Ticket :=
  if t.outcome.isNone ∧ t.due ≤ b.now then { t with outcome := some (b.answer t) } else t

def step : Step → Bench
  | .behave client operation behavior => b.update client (·.behave operation behavior)
  | .list client ikeSas => b.update client (·.listing ikeSas)
  | .call client call =>
    { b.update client (·.record call) with tickets := b.tickets ++ [b.ticket client call] }
  | .poll n => { b with tickets := b.tickets.modify n b.fetch }
  | .elapse time => { b with now := b.now.after time }

/-- The bench after steps taken one after another. -/
def run : List Step → Bench := List.foldl step b

end Bench
end IPsecControl
