import IPsecControl.Proofs.Tunnel.Trail
import IPsecControl.Sa.Manager
import IPsecControl.Tunnel.Daemon

/-! Sequences of operations on one control plane. Each operation opens at most one client and
closes it again, so that as many clients are closed as were opened whenever none is under way. -/
namespace IPsecControl

/-- What the control plane is asked to do. -/
inductive Operation where
  | add (timeout : Duration) (id : Sa.Identifier) (params : Sa.Params)
  | delete (timeout : Duration) (id : Sa.Identifier)
  | query (timeout : Duration)
  /-- A run of the lifecycle, with a token of its own that may be cancelled by then. -/
  | lifecycle (config : Tunnel.Config) (cancelled : Bool)

inductive Outcome where
  | added (result : Result Message.AddSaResponse)
  | deleted (result : Result Message.DeleteSaResponse)
  | queried (result : Result Tunnel.DaemonInfo)
  | ran (result : Except Tunnel.Aborted Tunnel.Report)

/-- An operation and the environment that it meets. -/
structure Turn where
  operation : Operation
  env : Environment

namespace Operation

/-- Gives a run a token of its own. -/
def withToken (cancelled : Bool) (run : Run Unit) : Run Unit := do
  modify fun s => { s with cancelled, looks := 0 }
  run

def perform : Operation → Run Unit
  | .add timeout id params => do let _ ← Sa.add timeout id params
  | .delete timeout id => do let _ ← Sa.delete timeout id
  | .query timeout => do let _ ← Tunnel.queryDaemon timeout
  | .lifecycle config cancelled => withToken cancelled do let _ ← Tunnel.run config

/-- Carries out an operation and gives its result. -/
def carryOut : Operation → Run Outcome
  | .add timeout id params => return .added (← Sa.add timeout id params)
  | .delete timeout id => return .deleted (← Sa.delete timeout id)
  | .query timeout => return .queried (← Tunnel.queryDaemon timeout)
  | .lifecycle config cancelled => do
    modify fun s => { s with cancelled, looks := 0 }
    return .ran (← Tunnel.run config)

/-- The input passes its validation. -/
def Valid : Operation → Prop
  | .add _ id params => ∃ request, Sa.addRequest id params = .ok request
  | .delete _ id => ∃ request, Sa.deleteRequest id = .ok request
  | .query _ => True
  | .lifecycle config _ => ∃ load, config.loadRequest = .ok load

/-- The nanoseconds that an operation may take. -/
def span : Operation → Nat
  | .add timeout _ _ | .delete timeout _ => (timeout.min Instant.longestWait).nanos
  | .query timeout => timeout.nanos
  | .lifecycle config _ => config.timeout.nanos + 2 * config.cleanupTimeout.nanos

end Operation

namespace Turn
variable (turn : Turn)

/-- The token of the run is cancelled before anything is done. -/
def precancelled : Bool :=
  match turn.operation with
  | .lifecycle _ cancelled => cancelled || turn.env.cancellation = .beforeLook 0
  | _ => false

/-- The turn comes to open a client. -/
def Opens : Prop :=
  turn.operation.Valid ∧ turn.precancelled = false ∧ turn.env.connector.opening = .ok ()

/-- The prober's clock does not overflow. -/
def Probes : Prop :=
  match turn.operation with
  | .lifecycle config _ =>
    ∃ reply, turn.env.prober config.probeTarget Probe.verificationCount = .ok reply
  | _ => True

def play (s : Session) : Except Halt Session :=
  (turn.operation.perform turn.env s).map (·.2)

end Turn

/-- The session after turns taken one after another. -/
def playAll : List Turn → Session → Except Halt Session
  | [], s => .ok s
  | turn :: rest, s => do playAll rest (← turn.play s)

def totalSpan : List Turn → Nat
  | [] => 0
  | turn :: rest => turn.operation.span + totalSpan rest

@[simp] theorem totalSpan_append (turns later : List Turn) :
    totalSpan (turns ++ later) = totalSpan turns + totalSpan later := by
  induction turns with
  | nil => simp [totalSpan]
  | cons turn rest ih => simp [totalSpan, ih, Nat.add_assoc]

/-- All the time that turns may take fits the clock. -/
structure Fit (turns : List Turn) (start : Instant) : Prop where
  clock : start.nanos + totalSpan turns ≤ Instant.latest.nanos
  probers : ∀ turn ∈ turns, turn.Probes

section
variable {env : Environment} {s t : Session}

namespace Sa
variable {timeout : Duration}

theorem guardFor_acts : Run.Acts env (guardFor timeout) s
    ⟨(s.now.after? timeout).getD s.now.farFuture, timeout⟩ s := by
  rintro u rfl
  exact ⟨u, rfl, rfl⟩

/-- The deadline of a call is ahead. What ends by the deadline, and within the longest wait, ends
within the time of the call. -/
theorem deadline_bounds (now : Instant)
    (fits : now.nanos + (timeout.min Instant.longestWait).nanos ≤ Instant.latest.nanos) :
    now ≤ (now.after? timeout).getD now.farFuture ∧
      ∀ time ≤ (now.after? timeout).getD now.farFuture, time ≤ now.farFuture →
        time.nanos ≤ now.nanos + (timeout.min Instant.longestWait).nanos := by
  constructor
  · cases shown : now.after? timeout with
    | none => exact Nat.le_add_right _ _
    | some deadline =>
      unfold Instant.after? at shown
      split at shown <;> cases shown
      exact Nat.le_add_right _ _
  · intro time met waited
    rw [Duration.min_nanos] at fits ⊢
    by_cases short : timeout.nanos ≤ Instant.longestWait.nanos
    · rw [Nat.min_eq_left short] at fits ⊢
      have shown : now.after? timeout = some (now.after timeout) := if_pos fits
      rw [shown, Option.getD_some] at met
      exact met
    · rw [Nat.min_eq_right (Nat.le_of_not_le short)]
      exact waited

/-- A call on a client of its own is all that happens on that client. -/
theorem callOnce_used (env : Environment) (id : Identifier) (rpc : Rpc) (request : rpc.Request)
    (success failure : String)
    (fits : s.now.nanos + (timeout.min Instant.longestWait).nanos ≤ Instant.latest.nanos) :
    ∃ result t, Run.Acts env (callOnce timeout id rpc request success failure) s result t ∧
      Used (env.connector.opening = .ok ()) (timeout.min Instant.longestWait).nanos s t := by
  refine Used.uncancelled fun quiet u connector never fresh now => ?_
  rw [← connector]
  rw [← now] at fits
  obtain ⟨ahead, within⟩ := deadline_bounds u.now fits
  cases opens : quiet.connector.opening with
  | error e =>
    refine ⟨_, _, (Run.openClient_refused opens).bind (Run.Acts.pure _), ?_⟩
    exact .unused (by simp) rfl rfl
  | ok _ =>
    have fresh : (u.record .opened).cancelled = false := fresh
    obtain ⟨reply, v, result, t, sent, settled, events, -, met, waited⟩ :=
      Guard.settle_call (g := ⟨(u.now.after? timeout).getD u.now.farFuture, timeout⟩)
        never fresh ahead rpc.name rpc request
    refine ⟨result, t.record .closed, ?_, ?_⟩
    · refine (Run.openClient_acts opens).bind ((Run.Acts.log _).bind (guardFor_acts.bind ?_))
      refine sent.bind (settled.bind (Run.closeClient_acts.bind ?_))
      exact (Run.Acts.log _).bind (Run.Acts.pure _)
    · refine .used rfl [.called ⟨rpc, request⟩, .ended rpc.name (Guard.failure? result)]
        (by simp [Event.isWork]) ?_ (within _ met waited)
      simp [events]

theorem add_used (env : Environment) (id : Identifier) (params : Params)
    (fits : s.now.nanos + (timeout.min Instant.longestWait).nanos ≤ Instant.latest.nanos) :
    ∃ result t, Run.Acts env (add timeout id params) s result t ∧
      Used ((∃ request, addRequest id params = .ok request) ∧ env.connector.opening = .ok ())
        (timeout.min Instant.longestWait).nanos s t := by
  unfold add
  cases valid : addRequest id params with
  | error e => exact ⟨_, s, Run.Acts.pure _, .unused (by simp) rfl rfl⟩
  | ok request =>
    obtain ⟨result, t, acts, used⟩ := callOnce_used env id .addSa request "SA added" "AddSA failed" fits
    exact ⟨result, t, (Run.Acts.log _).bind acts, used.congr (by simp)⟩

theorem delete_used (env : Environment) (id : Identifier)
    (fits : s.now.nanos + (timeout.min Instant.longestWait).nanos ≤ Instant.latest.nanos) :
    ∃ result t, Run.Acts env (delete timeout id) s result t ∧
      Used ((∃ request, deleteRequest id = .ok request) ∧ env.connector.opening = .ok ())
        (timeout.min Instant.longestWait).nanos s t := by
  unfold delete
  cases valid : deleteRequest id with
  | error e => exact ⟨_, s, Run.Acts.pure _, .unused (by simp) rfl rfl⟩
  | ok request =>
    obtain ⟨result, t, acts, used⟩ :=
      callOnce_used env id .deleteSa request "SA deleted" "DeleteSA failed" fits
    exact ⟨result, t, (Run.Acts.log _).bind acts, used.congr (by simp)⟩

end Sa

namespace Tunnel

/-- The calls of a query are made on the open client and end by the deadline. -/
theorem ask_acts {g : Guard} (never : env.cancellation = .never) (fresh : s.cancelled = false)
    (ahead : s.now ≤ g.deadline) :
    ∃ result t body, Run.Acts env (ask g) s result t ∧ t.events = s.events ++ body ∧
      (∀ e ∈ body, e.isWork = true) ∧ t.now ≤ g.deadline := by
  obtain ⟨version, u, asked, events, going, met⟩ :=
    Guard.run_call never fresh ahead Step.version.name .version {}
  cases version with
  | error e => exact ⟨_, u, _, asked.bind (Run.Acts.pure _), events, by simp [Event.isWork], met⟩
  | ok response =>
    obtain ⟨stats, t, asked', events', -, met'⟩ :=
      Guard.run_call never going met Step.stats.name .stats {}
    rw [events, List.append_assoc] at events'
    cases stats with
    | error e =>
      exact ⟨_, t, _, asked.bind (asked'.bind (Run.Acts.pure _)), events', by simp [Event.isWork], met'⟩
    | ok status =>
      exact ⟨_, t, _, asked.bind (asked'.bind (Run.Acts.pure _)), events', by simp [Event.isWork], met'⟩

theorem queryDaemon_used (env : Environment) {timeout : Duration}
    (fits : env.connector.opening = .ok () → s.now.nanos + timeout.nanos ≤ Instant.latest.nanos) :
    ∃ result t, Run.Acts env (queryDaemon timeout) s result t ∧
      Used (env.connector.opening = .ok ()) timeout.nanos s t := by
  refine Used.uncancelled fun quiet u connector never fresh now => ?_
  rw [← connector] at fits ⊢
  rw [← now] at fits
  cases opens : quiet.connector.opening with
  | error e =>
    refine ⟨_, _, (Run.openClient_refused opens).bind (Run.Acts.pure _), ?_⟩
    exact .unused (by simp) rfl rfl
  | ok _ =>
    have fresh : (u.record .opened).cancelled = false := fresh
    have starts := Guard.start_acts quiet (u.record .opened) timeout (fits opens)
    obtain ⟨result, t, body, asked, events, work, met⟩ := ask_acts (g := ⟨u.now.after timeout, timeout⟩)
      never fresh (Nat.le_add_right _ _)
    refine ⟨result, t.record .closed, ?_, ?_⟩
    · refine (Run.openClient_acts opens).bind (starts.bind (asked.bind ?_))
      exact Run.closeClient_acts.bind (Run.Acts.pure _)
    · exact .used rfl body work (by simp [events]) met

end Tunnel

namespace Turn
variable {turn : Turn}

theorem withToken_acts {cancelled : Bool} {run : Run Unit}
    (acts : Run.Acts env run { s with cancelled, looks := 0 } () t) :
    Run.Acts env (Operation.withToken cancelled run) s () t := by
  rintro u rfl
  exact acts { u with cancelled, looks := 0 } rfl

theorem ignored {α : Type} {m : Run α} {client : Prop} {span : Nat}
    (used : ∃ a t, Run.Acts env m s a t ∧ Used client span s t) :
    ∃ t, Run.Acts env (do let _ ← m) s () t ∧ Used client span s t := by
  obtain ⟨a, t, acts, used⟩ := used
  exact ⟨t, acts.bind (Run.Acts.pure _), used⟩

/-- Every turn that fits the clock opens at most one client, and closes the one that it opened. -/
theorem perform_used (turn : Turn) (probes : turn.Probes)
    (fits : s.now.nanos + turn.operation.span ≤ Instant.latest.nanos) :
    ∃ t, Run.Acts turn.env turn.operation.perform s () t ∧
      Used turn.Opens turn.operation.span s t := by
  obtain ⟨operation, env⟩ := turn
  cases operation with
  | add timeout id params =>
    obtain ⟨t, acts, used⟩ := ignored (Sa.add_used env id params fits)
    exact ⟨t, acts, used.congr (by simp [Opens, Operation.Valid, precancelled])⟩
  | delete timeout id =>
    obtain ⟨t, acts, used⟩ := ignored (Sa.delete_used env id fits)
    exact ⟨t, acts, used.congr (by simp [Opens, Operation.Valid, precancelled])⟩
  | query timeout =>
    obtain ⟨t, acts, used⟩ := ignored (Tunnel.queryDaemon_used env fun _ => fits)
    exact ⟨t, acts, used.congr (by simp [Opens, Operation.Valid, precancelled])⟩
  | lifecycle config cancelled =>
    have fits : Tunnel.Fits config env s.now :=
      ⟨by simp only [Operation.span] at fits; omega, probes⟩
    obtain ⟨as, cs, result, t, ran, acts⟩ :=
      Tunnel.run_acts (s := { s with cancelled, looks := 0 }) fits
    obtain ⟨events, time⟩ := ran.used
    exact ⟨t, withToken_acts (acts.bind (Run.Acts.pure _)), events, time⟩

end Turn

theorem Turn.play_used (turn : Turn) (probes : turn.Probes)
    (fits : s.now.nanos + turn.operation.span ≤ Instant.latest.nanos) :
    ∃ t, turn.play s = .ok t ∧ Used turn.Opens turn.operation.span s.unlogged t.unlogged := by
  obtain ⟨u, acts, used⟩ := turn.perform_used (s := s.unlogged) probes fits
  obtain ⟨t, ran, rfl⟩ := acts.run
  exact ⟨t, by rw [play, ran]; rfl, used⟩

/-- After any turns as many clients are closed as were opened. -/
theorem playAll_balanced (turns : List Turn) (fit : Fit turns s.now) (balanced : s.closes = s.opens) :
    ∃ t, playAll turns s = .ok t ∧ t.closes = t.opens ∧
      t.now.nanos ≤ s.now.nanos + totalSpan turns := by
  induction turns generalizing s with
  | nil => exact ⟨s, rfl, balanced, Nat.le_refl _⟩
  | cons turn rest ih =>
    obtain ⟨clock, probers⟩ := fit
    rw [totalSpan] at clock ⊢
    obtain ⟨u, played, used⟩ :=
      turn.play_used (s := s) (probers turn List.mem_cons_self) (by omega)
    have time : u.now.nanos ≤ s.now.nanos + turn.operation.span := used.time
    have closed : u.closes = u.opens := by
      obtain ⟨-, opens, closes⟩ | ⟨-, opens, closes⟩ := used.counts <;> omega
    obtain ⟨t, later, closed, ended⟩ :=
      ih ⟨by omega, fun other member => probers other (List.mem_cons_of_mem _ member)⟩ closed
    refine ⟨t, ?_, closed, by omega⟩
    rw [playAll, played]
    exact later

end

/-- Whatever came before, an operation opens a client exactly if its input is valid, its token is
not cancelled and the control plane lets it; it closes that client after everything it does with
it. Otherwise it calls nothing. -/
theorem client_closed_once (s : Session) (balanced : s.closes = s.opens) (earlier : List Turn)
    (turn : Turn) (fit : Fit (earlier ++ [turn]) s.now) :
    ∃ t u es, playAll earlier s = .ok t ∧ turn.play t = .ok u ∧
      t.closes = t.opens ∧ u.closes = u.opens ∧ u.acts = t.acts ++ es ∧
      (turn.Opens → u.opens = t.opens + 1 ∧
        ∃ body, es = .opened :: (body ++ [.closed]) ∧ ∀ e ∈ body, e.isWork = true) ∧
      (¬ turn.Opens → u.opens = t.opens ∧ u.calls = t.calls) := by
  obtain ⟨clock, probers⟩ := fit
  simp only [totalSpan_append, totalSpan] at clock
  obtain ⟨t, played, balanced, time⟩ := playAll_balanced earlier
    ⟨by omega, fun other member => probers other (List.mem_append_left _ member)⟩ balanced
  obtain ⟨u, plays, used⟩ := turn.play_used (s := t)
    (probers turn (List.mem_append_right _ List.mem_cons_self)) (by omega)
  obtain ⟨es, events, bracketed⟩ := used.events
  refine ⟨t, u, es, played, plays, balanced, ?_, events, ?_, ?_⟩
  · obtain ⟨-, opens, closes⟩ | ⟨-, opens, closes⟩ := used.counts <;> omega
  · intro opens
    obtain ⟨-, opened, -⟩ | ⟨closed, -⟩ := used.counts
    · obtain ⟨-, body, bracket, work⟩ | ⟨closed, -⟩ := bracketed
      · exact ⟨opened, body, bracket, work⟩
      · exact absurd opens closed
    · exact absurd opens closed
  · intro closed
    obtain ⟨opens, -⟩ | ⟨-, unopened, -⟩ := used.counts
    · exact absurd opens closed
    · obtain ⟨opens, -⟩ | ⟨-, rfl⟩ := bracketed
      · exact absurd opens closed
      · refine ⟨unopened, ?_⟩
        rw [← u.calls_unlogged, ← t.calls_unlogged, Session.calls_eq, events, List.append_nil,
          ← Session.calls_eq]

theorem client_closed_once_after_query :
    ∃ t u, playAll [⟨.query (.ofSeconds 1), Tunnel.inMemory {} 5⟩] { now := ⟨0⟩ } = .ok t ∧
      (Turn.mk (.lifecycle {} false) (Tunnel.inMemory {} 5)).play t = .ok u ∧
      u.opens = t.opens + 1 ∧ u.closes = u.opens := by
  have fit : Fit ([⟨.query (.ofSeconds 1), Tunnel.inMemory {} 5⟩] ++
      [⟨.lifecycle {} false, Tunnel.inMemory {} 5⟩]) ⟨0⟩ := by
    refine ⟨by decide, ?_⟩
    intro turn member
    simp only [List.cons_append, List.nil_append, List.mem_cons, List.not_mem_nil, or_false] at member
    rcases member with rfl | rfl
    · trivial
    · exact ⟨_, rfl⟩
  obtain ⟨t, u, es, played, plays, -, closed, -, opened, -⟩ :=
    client_closed_once { now := ⟨0⟩ } rfl _ _ fit
  have valid : (Tunnel.Config.loadRequest {}).isOk = true := by decide +kernel
  cases request : Tunnel.Config.loadRequest {} with
  | error e => simp [request, Except.isOk, Except.toBool] at valid
  | ok load => exact ⟨t, u, played, plays, (opened ⟨⟨load, request⟩, rfl, rfl⟩).1, closed⟩

end IPsecControl
