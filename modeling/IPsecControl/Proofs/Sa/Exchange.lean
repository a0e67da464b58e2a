import IPsecControl.Proofs.Operations

/-! Sequences of changes to static associations. A change is one request at most. What comes of it is
foreseen from the change, its timeout and the behavior that is set for its procedure; nothing that
came before matters. -/
namespace IPsecControl

/-- The results of turns taken one after another with the time that each took, and the session after
them. -/
def carryOutAll : List Turn → Session → Except Halt (List (Outcome × Duration) × Session)
  | [], s => .ok ([], s)
  | turn :: rest, s => do
    let (outcome, t) ← turn.operation.carryOut turn.env s
    let (taken, u) ← carryOutAll rest t
    return ((outcome, t.now.since s.now) :: taken, u)

namespace Behavior

def time : Option Behavior → Duration
  | some (.delay time) => time
  | _ => .zero

/-- What a call comes to within a timeout. -/
def verdict (rpc : Rpc) (timeout : Duration) : Option Behavior → Result Unit
  | none => .ok ()
  | some (.delay time) =>
    if time.nanos ≤ timeout.nanos then .ok () else .error (.timedOut rpc.name timeout)
  | some (.reject code message) => .error (.rejected rpc.name ⟨code, message⟩)
  | some (.unavailable message) => .error (.transport rpc.name message)

end Behavior

namespace MemoryPlane
variable (plane : MemoryPlane) (rpc : Rpc) (request : rpc.Request)

/-- Whether clients are opened, or refused with a message. -/
def admission : Option String → Result Unit
  | none => .ok ()
  | some message => .error (.transport "recording" message)

def behind : Option String → Connector
  | none => plane.connector
  | some message => plane.refusing message

theorem behind_opening (refusal : Option String) :
    (plane.behind refusal).opening = admission refusal := by
  cases refusal <;> rfl

theorem behind_answer (refusal : Option String) (earlier : List Call) :
    (plane.behind refusal).answer earlier rpc request = plane.answer rpc request := by
  cases refusal <;> rfl

theorem answer_delay : (plane.answer rpc request).delay = Behavior.time (plane.behavior rpc) := by
  rw [answer]
  cases plane.behavior rpc with
  | none => rfl
  | some b => cases b <;> rfl

theorem answer_verdict (timeout : Duration) :
    (if (plane.answer rpc request).delay.nanos ≤ timeout.nanos then (plane.answer rpc request).outcome
      else .error (.timedOut rpc.name timeout)) =
      (Behavior.verdict rpc timeout (plane.behavior rpc)).map fun _ => plane.response rpc request := by
  have prompt : Duration.zero.nanos ≤ timeout.nanos := Nat.zero_le _
  rw [answer]
  cases plane.behavior rpc with
  | none => exact if_pos prompt
  | some b =>
    cases b with
    | reject | unavailable => exact if_pos prompt
    | delay time =>
      simp only [Behavior.verdict]
      split <;> rfl

end MemoryPlane

namespace Sa
open Message

inductive Change where
  | add (id : Identifier) (params : Params)
  | delete (id : Identifier)

namespace Change

def rpc : Change → Rpc
  | .add .. => .addSa
  | .delete _ => .deleteSa

def operation (timeout : Duration) : Change → Operation
  | .add id params => .add timeout id params
  | .delete id => .delete timeout id

/-- The call with the request that is built for the change. -/
def call : Change → Result Call
  | .add id params => (addRequest id params).map (Call.mk .addSa)
  | .delete id => (deleteRequest id).map (Call.mk .deleteSa)

/-- What comes of a change: the error of its request, the error of a connector that refuses, or what
the call comes to. -/
def verdict (refusal : Option String) (timeout : Duration) (behavior : Option Behavior)
    (change : Change) : Result Unit := do
  let _ ← change.call
  MemoryPlane.admission refusal
  Behavior.verdict change.rpc timeout behavior

def foreseen (refusal : Option String) (timeout : Duration) (behavior : Option Behavior)
    (change : Change) : Outcome :=
  let verdict := change.verdict refusal timeout behavior
  match change with
  | .add .. => .added (verdict.map fun _ => {})
  | .delete _ => .deleted (verdict.map fun _ => {})

/-- The call that reaches the control plane. -/
def call? (refusal : Option String) (change : Change) : Option Call :=
  if refusal.isNone then change.call.toOption else none

end Change

/-- A change, the time for its call, and the control plane as it is by then. -/
structure Exchange where
  change : Change
  timeout : Duration
  plane : MemoryPlane

namespace Exchange
variable (refusal : Option String) (x : Exchange)

def behavior : Option Behavior := x.plane.behavior x.change.rpc

def elapsed : Duration :=
  if (x.change.call? refusal).isSome then (Behavior.time x.behavior).min x.timeout else .zero

def turn (prober : Probe.Prober) (cancellation : Cancellation) : Turn where
  operation := x.change.operation x.timeout
  env := { connector := x.plane.behind refusal, prober, cancellation }

def total : List Exchange → Nat
  | [] => 0
  | x :: rest => (x.elapsed refusal).nanos + total rest

end Exchange

/-- The answer takes no longer than the longest wait, and the clock can show the deadline. -/
structure Exchange.InTime (x : Exchange) (now : Instant) : Prop where
  delay : (Behavior.time x.behavior).nanos ≤ Instant.longestWait.nanos
  deadline : now.nanos + (x.timeout.min Instant.longestWait).nanos ≤ Instant.latest.nanos

/-- Each exchange is in time, and would be even after all of them. -/
def Timely (refusal : Option String) (exchanges : List Exchange) (start : Instant) : Prop :=
  ∀ x ∈ exchanges, x.InTime ⟨start.nanos + Exchange.total refusal exchanges⟩

theorem Timely.head {refusal : Option String} {x : Exchange} {rest : List Exchange} {start : Instant}
    (timely : Timely refusal (x :: rest) start) : x.InTime start := by
  obtain ⟨delay, deadline⟩ := timely x List.mem_cons_self
  exact ⟨delay, by simp only at deadline; omega⟩

theorem Timely.tail {refusal : Option String} {x : Exchange} {rest : List Exchange} {start : Instant}
    (timely : Timely refusal (x :: rest) start) :
    Timely refusal rest (start.after (x.elapsed refusal)) := by
  intro y member
  have inTime := timely y (List.mem_cons_of_mem x member)
  rwa [Exchange.total, ← Nat.add_assoc] at inTime

section
variable {env : Environment} {s : Session} {timeout delay : Duration}

/-- Within the longest wait an answer is in time for a call exactly if it does not take longer than
the timeout. -/
theorem wakeAt_deadline (now : Instant) (short : delay.nanos ≤ Instant.longestWait.nanos)
    (fits : now.nanos + (timeout.min Instant.longestWait).nanos ≤ Instant.latest.nanos) :
    Run.wakeAt .never now (now.afterWait delay) ((now.after? timeout).getD now.farFuture) =
      (if delay.nanos ≤ timeout.nanos then .answered else .expired, now.after (delay.min timeout)) := by
  obtain ⟨ahead, -⟩ := deadline_bounds now fits
  have finish : now.afterWait delay = now.after delay := by
    rw [Instant.afterWait, Duration.min, if_pos short]
  simp only [Run.wakeAt, finish, Instant.max_eq_right ahead]
  by_cases inTime : delay.nanos ≤ timeout.nanos
  · have met : now.after delay ≤ (now.after? timeout).getD now.farFuture := by
      cases shown : now.after? timeout with
      | none => exact Nat.add_le_add_left short _
      | some deadline =>
        unfold Instant.after? at shown
        split at shown <;> cases shown
        exact Nat.add_le_add_left inTime _
    rw [if_pos met, if_pos inTime, Duration.min, if_pos inTime]
  · -- The timeout is shorter than the longest wait, so its end is on the clock.
    have shorter : timeout.nanos ≤ Instant.longestWait.nanos :=
      Nat.le_trans (Nat.le_of_not_le inTime) short
    rw [Duration.min, if_pos shorter] at fits
    have shown : now.after? timeout = some (now.after timeout) := if_pos fits
    have late : ¬ now.after delay ≤ now.after timeout := fun met =>
      inTime (Nat.le_of_add_le_add_left met)
    rw [shown, Option.getD_some, if_neg late, if_neg inTime, Duration.min, if_neg inTime]

/-- A call on a client of its own is made once, and its answer counts within the timeout. -/
theorem callOnce_answered {rpc : Rpc} {request : rpc.Request} {reply : Reply rpc.Response}
    (id : Identifier) (success failure : String) (opens : env.connector.opening = .ok ())
    (answers : env.connector.answer s.calls rpc request = reply)
    (short : reply.delay.nanos ≤ Instant.longestWait.nanos)
    (fits : s.now.nanos + (timeout.min Instant.longestWait).nanos ≤ Instant.latest.nanos) :
    ∃ t, Run.Acts env (callOnce timeout id rpc request success failure) s
        (if reply.delay.nanos ≤ timeout.nanos then reply.outcome
          else .error (.timedOut rpc.name timeout)) t ∧
      t.calls = s.calls ++ [⟨rpc, request⟩] ∧ t.now = s.now.after (reply.delay.min timeout) := by
  let quiet : Environment := { env with cancellation := .never }
  let fresh : Session := { s with cancelled := false, looks := 0 }
  let made : Session := (fresh.record .opened).record (.called ⟨rpc, request⟩)
  let guard : Guard := ⟨(s.now.after? timeout).getD s.now.farFuture, timeout⟩
  let wake : Run.Wake := if reply.delay.nanos ≤ timeout.nanos then .answered else .expired
  let time := s.now.after (reply.delay.min timeout)
  have result : guard.outcome rpc.name reply wake = if reply.delay.nanos ≤ timeout.nanos then
      reply.outcome else .error (.timedOut rpc.name timeout) := by
    simp only [wake]
    split <;> rfl
  have opened : Run.Acts quiet Run.openClient fresh (.ok ()) (fresh.record .opened) :=
    Run.openClient_acts opens
  have sent : Run.Acts quiet (Run.send rpc request) (fresh.record .opened) reply made := by
    have sent := Run.send_acts quiet (fresh.record .opened) rpc request
    rw [Session.record_opened_calls] at sent
    exact answers ▸ sent
  have settled : Run.Acts quiet (guard.settle rpc.name reply) made (guard.outcome rpc.name reply wake)
      (guard.settled rpc.name reply wake time made) :=
    Guard.settle_acts (wakeAt_deadline s.now short fits)
  rw [← result]
  refine ⟨_, Run.Acts.uncancelled (t := (guard.settled rpc.name reply wake time made).record .closed) ?_,
    ?_, rfl⟩
  · refine opened.bind ((Run.Acts.log _).bind (guardFor_acts.bind ?_))
    refine sent.bind (settled.bind (Run.closeClient_acts.bind ?_))
    exact (Run.Acts.log _).bind (Run.Acts.pure _)
  · simp [Session.calls_eq, callsIn, made, fresh]

end

/-- At most one call was made, which took the given time. -/
structure Leaves (call? : Option Call) (time : Duration) (s t : Session) : Prop where
  calls : t.calls = s.calls ++ call?.toList
  now : t.now = s.now.after (if call?.isSome then time else .zero)

theorem Leaves.untouched (time : Duration) (s : Session) : Leaves none time s s where
  calls := (List.append_nil _).symm
  now := rfl

theorem callOnce_refused {env : Environment} {s : Session} {timeout : Duration} {rpc : Rpc}
    {request : rpc.Request} {e : Error} (id : Identifier) (success failure : String)
    (refused : env.connector.opening = .error e) :
    Run.Acts env (callOnce timeout id rpc request success failure) s (.error e) s := by
  let fresh : Session := { s with cancelled := false, looks := 0 }
  have closed : Run.Acts { env with cancellation := .never } Run.openClient fresh (.error e) fresh :=
    Run.openClient_refused refused
  exact Run.Acts.uncancelled (t := fresh) (closed.bind (Run.Acts.pure _))

section
variable {env : Environment} {s : Session} {timeout : Duration} {refusal : Option String}
variable {plane : MemoryPlane} {rpc : Rpc} (id : Identifier) (success failure : String)
variable (connected : env.connector = plane.behind refusal)
variable (short : (Behavior.time (plane.behavior rpc)).nanos ≤ Instant.longestWait.nanos)
variable (fits : s.now.nanos + (timeout.min Instant.longestWait).nanos ≤ Instant.latest.nanos)
include connected short fits

/-- A request to a plane, or to a connector that refuses, comes to what is foreseen of it. -/
theorem callOnce_acts (request : rpc.Request) :
    ∃ t, Run.Acts env (callOnce timeout id rpc request success failure) s
        ((do
          MemoryPlane.admission refusal
          Behavior.verdict rpc timeout (plane.behavior rpc) : Result Unit).map
            fun _ => plane.response rpc request) t ∧
      Leaves (if refusal.isNone then some ⟨rpc, request⟩ else none)
        ((Behavior.time (plane.behavior rpc)).min timeout) s t := by
  have opening := plane.behind_opening refusal
  rw [← connected] at opening
  cases refusal with
  | some message => exact ⟨s, callOnce_refused id success failure opening, .untouched _ s⟩
  | none =>
    have answers := plane.behind_answer rpc request none s.calls
    rw [← connected] at answers
    rw [← plane.answer_delay rpc request] at short
    obtain ⟨t, acts, calls, now⟩ := callOnce_answered id success failure opening answers short fits
    rw [plane.answer_verdict] at acts
    rw [plane.answer_delay] at now
    exact ⟨t, acts, calls, now⟩

/-- So does an operation that builds its request first, and logs a line if there is one. -/
theorem submit_acts {operation : Run (Result rpc.Response)} {built : Result rpc.Request}
    {response : rpc.Response} (invalid : ∀ e, built = .error e → operation = return .error e)
    (valid : ∀ request, built = .ok request → ∃ line, operation =
      Run.log line >>= fun _ => callOnce timeout id rpc request success failure)
    (responds : ∀ request, plane.response rpc request = response) :
    ∃ t, Run.Acts env operation s
        ((do
          let _ ← built.map (Call.mk rpc)
          MemoryPlane.admission refusal
          Behavior.verdict rpc timeout (plane.behavior rpc) : Result Unit).map fun _ => response) t ∧
      Leaves (if refusal.isNone then (built.map (Call.mk rpc)).toOption else none)
        ((Behavior.time (plane.behavior rpc)).min timeout) s t := by
  cases built with
  | error e =>
    rw [invalid e rfl]
    refine ⟨s, Run.Acts.pure _, ?_⟩
    cases refusal <;> exact .untouched _ s
  | ok request =>
    obtain ⟨line, shape⟩ := valid request rfl
    obtain ⟨t, acts, leaves⟩ := callOnce_acts id success failure connected short fits request
    rw [responds] at acts
    rw [shape]
    exact ⟨t, (Run.Acts.log line).bind acts, leaves⟩

end

namespace Exchange
variable {refusal : Option String} {x : Exchange} {s : Session}

/-- What one exchange does, whatever came before it. -/
theorem carryOut_acts {env : Environment} (connected : env.connector = x.plane.behind refusal)
    (inTime : x.InTime s.now) :
    ∃ t, Run.Acts env (x.change.operation x.timeout).carryOut s
        (x.change.foreseen refusal x.timeout x.behavior) t ∧
      Leaves (x.change.call? refusal) ((Behavior.time x.behavior).min x.timeout) s t := by
  obtain ⟨short, fits⟩ := inTime
  obtain ⟨change, timeout, plane⟩ := x
  cases change with
  | add id params =>
    have invalid : ∀ e, addRequest id params = .error e → add timeout id params = return .error e := by
      intro e built
      rw [add, built]
    have valid : ∀ request, addRequest id params = .ok request → ∃ line, add timeout id params =
        Run.log line >>= fun _ => callOnce timeout id .addSa request "SA added" "AddSA failed" := by
      intro request built
      rw [add, built]
      exact ⟨_, rfl⟩
    obtain ⟨t, acts, leaves⟩ := submit_acts id _ _ connected short fits invalid valid fun _ => rfl
    exact ⟨t, acts.bind (Run.Acts.pure _), leaves⟩
  | delete id =>
    have invalid : ∀ e, deleteRequest id = .error e → delete timeout id = return .error e := by
      intro e built
      rw [delete, built]
    have valid : ∀ request, deleteRequest id = .ok request → ∃ line, delete timeout id =
        Run.log line >>= fun _ => callOnce timeout id .deleteSa request "SA deleted"
          "DeleteSA failed" := by
      intro request built
      rw [delete, built]
      exact ⟨_, rfl⟩
    obtain ⟨t, acts, leaves⟩ := submit_acts id _ _ connected short fits invalid valid fun _ => rfl
    exact ⟨t, acts.bind (Run.Acts.pure _), leaves⟩

theorem carryOut_leaves (prober : Probe.Prober) (cancellation : Cancellation)
    (inTime : x.InTime s.now) :
    ∃ t, (x.turn refusal prober cancellation).operation.carryOut
        (x.turn refusal prober cancellation).env s =
        .ok (x.change.foreseen refusal x.timeout x.behavior, t) ∧
      t.calls = s.calls ++ (x.change.call? refusal).toList ∧ t.now = s.now.after (x.elapsed refusal) := by
  have connected :
      (x.turn refusal prober cancellation).env.connector = x.plane.behind refusal := rfl
  obtain ⟨u, acts, calls, now⟩ := carryOut_acts (s := s.unlogged) connected inTime
  obtain ⟨t, ran, rfl⟩ := acts.run
  rw [Session.calls_unlogged, Session.calls_unlogged] at calls
  exact ⟨t, ran, calls, now⟩

end Exchange

/-- Any changes, each to the control plane as it is by then, make the calls that their requests are
built for, in order and once each, or none if the connector refuses. What comes of each is foreseen
from the change, its timeout and the behavior of its procedure alone; it takes the time of the answer
or the timeout, whichever is shorter, if its call is made, and no time if not. -/
theorem exchanges_stateless (refusal : Option String) (prober : Probe.Prober)
    (cancellation : Cancellation) (exchanges : List Exchange) (s : Session)
    (timely : Timely refusal exchanges s.now) :
    ∃ t, carryOutAll (exchanges.map (·.turn refusal prober cancellation)) s =
        .ok (exchanges.map fun x =>
          (x.change.foreseen refusal x.timeout x.behavior, x.elapsed refusal), t) ∧
      t.calls = s.calls ++ exchanges.filterMap (·.change.call? refusal) ∧
      t.now.nanos = s.now.nanos + Exchange.total refusal exchanges := by
  induction exchanges generalizing s with
  | nil => exact ⟨s, rfl, (List.append_nil _).symm, rfl⟩
  | cons x rest ih =>
    obtain ⟨u, ran, calls, now⟩ := Exchange.carryOut_leaves prober cancellation timely.head
    have later := timely.tail
    rw [← now] at later
    obtain ⟨t, ranLater, callsLater, nowLater⟩ := ih u later
    have took : u.now.since s.now = x.elapsed refusal := by
      rw [now, Instant.since, Instant.after_nanos, Nat.add_sub_cancel_left]
    refine ⟨t, ?_, ?_, ?_⟩
    · rw [List.map_cons, carryOutAll, ran]
      simp only [bind, Except.bind, ranLater, took]
      rfl
    · rw [callsLater, calls, List.append_assoc, List.filterMap_cons]
      cases x.change.call? refusal <;> rfl
    · rw [nowLater, now, Instant.after_nanos, Exchange.total, Nat.add_assoc]

/-- A deletion that is given up, an addition without an index, and a deletion by then prompt. -/
def slowExchanges (id : Identifier) : List Exchange := [
  { change := .delete id, timeout := .ofSeconds 1,
    plane := MemoryPlane.behave {} .deleteSa (.delay (.ofSeconds 5)) },
  { change := .add { id with spi := 0 } {}, timeout := .ofSeconds 1, plane := {} },
  { change := .delete id, timeout := .ofSeconds 1, plane := {} }]

theorem exchanges_stateless_slow :
    ∃ id request t, deleteRequest id = .ok request ∧
      carryOutAll ((slowExchanges id).map (·.turn none (Probe.canned 5) .never)) { now := ⟨0⟩ } = .ok
        ([(.deleted (.error (.timedOut "DeleteSA" (.ofSeconds 1))), .ofSeconds 1),
          (.added (.error (.invalidConfig "spi" "must be non-zero")), .zero),
          (.deleted (.ok {}), .zero)], t) ∧
      t.calls = [⟨.deleteSa, request⟩, ⟨.deleteSa, request⟩] ∧ t.now = ⟨1000000000⟩ := by
  let id : Identifier := ⟨.v4 10 0 0 1, .v4 10 0 0 2, 256, .esp, 0⟩
  have delays : ∀ x ∈ slowExchanges id,
      (Behavior.time x.behavior).nanos ≤ Instant.longestWait.nanos := by
    decide
  have second : Exchange.total none (slowExchanges id) = 1000000000 := rfl
  have deadlines : ∀ x ∈ slowExchanges id,
      1000000000 + (x.timeout.min Instant.longestWait).nanos ≤ Instant.latest.nanos := by
    decide
  have timely : Timely none (slowExchanges id) ⟨0⟩ := by
    intro x member
    rw [second]
    exact ⟨delays x member, deadlines x member⟩
  obtain ⟨t, ran, calls, now⟩ :=
    exchanges_stateless none (Probe.canned 5) .never (slowExchanges id) { now := ⟨0⟩ } timely
  rw [second, Nat.zero_add] at now
  exact ⟨id, ⟨some id.message⟩, t, rfl, ran, calls, congrArg Instant.mk now⟩

end Sa
end IPsecControl
