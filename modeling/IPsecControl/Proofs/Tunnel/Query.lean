import IPsecControl.Proofs.Control.Requests
import IPsecControl.Proofs.Operations

/-! A query of the daemon. Both of its calls wait under one deadline, so the second has only the time
that the first left over. An answer that arrives exactly at the deadline counts. -/
namespace IPsecControl

/-- The nanoseconds for which an answer is on its way. No wait takes longer than the longest. -/
def Reply.span {α : Type} (reply : Reply α) : Nat := (reply.delay.min Instant.longestWait).nanos

/-- A guarded call that nobody cancels gives the answer if it arrives by the deadline, and otherwise
times out there. -/
theorem Guard.run_answered {env : Environment} {s : Session} {g : Guard} {rpc : Rpc}
    {request : rpc.Request} {reply : Reply rpc.Response} (operation : String)
    (never : env.cancellation = .never) (fresh : s.cancelled = false) (ahead : s.now ≤ g.deadline)
    (answers : env.connector.answer s.calls rpc request = reply) :
    ∃ result t, Run.Acts env (g.run operation (Run.send rpc request)) s result t ∧
      t.events = s.events ++ [.called ⟨rpc, request⟩, .ended operation (failure? result)] ∧
      t.cancelled = false ∧
      (s.now.nanos + reply.span ≤ g.deadline.nanos ∧ result = reply.outcome ∧
          t.now.nanos = s.now.nanos + reply.span ∨
        g.deadline.nanos < s.now.nanos + reply.span ∧
          result = .error (.timedOut operation g.budget) ∧ t.now = g.deadline) := by
  have quiet : s.fires env.cancellation = false := by simp [never, fresh]
  have sent := Run.send_acts env (s.looked env.cancellation) rpc request
  rw [s.looked_calls, answers] at sent
  cases ends : Run.wakeAt env.cancellation s.now (s.now.afterWait reply.delay) g.deadline with
  | mk wake time =>
    refine ⟨_, _, Guard.run_made quiet sent ends, by simp, ?_, ?_⟩
    · rw [never] at ends
      simp [Session.record, never, fresh, Run.wakeAt_never ends]
    · obtain ⟨rfl, rfl, met⟩ | ⟨rfl, rfl, late⟩ | ⟨rfl, -⟩ := Run.wakeAt_cases ends ahead
      · exact .inl ⟨met, rfl, rfl⟩
      · exact .inr ⟨late, rfl, rfl⟩
      · rw [never] at ends
        exact absurd rfl (Run.wakeAt_never ends)

namespace Tunnel
open Message

/-- What a query comes to that has the given time, and the calls that it makes, from the answers to
the two calls. Each case excludes the others. -/
inductive Queried (timeout : Duration) (version : Reply VersionResponse)
    (stats : Reply StatsResponse) : Result DaemonInfo → List Call → Prop where
  | versionLate (late : timeout.nanos < version.span) :
      Queried timeout version stats (.error (.timedOut "IPsecVersion" timeout)) [⟨.version, {}⟩]
  | versionFailed {e : Error} (met : version.span ≤ timeout.nanos)
      (failed : version.outcome = .error e) :
      Queried timeout version stats (.error e) [⟨.version, {}⟩]
  | statsLate {identity : VersionResponse} (answered : version.outcome = .ok identity)
      (met : version.span ≤ timeout.nanos) (late : timeout.nanos < version.span + stats.span) :
      Queried timeout version stats (.error (.timedOut "IPsecStats" timeout))
        [⟨.version, {}⟩, ⟨.stats, {}⟩]
  | statsFailed {identity : VersionResponse} {e : Error} (answered : version.outcome = .ok identity)
      (met : version.span + stats.span ≤ timeout.nanos) (failed : stats.outcome = .error e) :
      Queried timeout version stats (.error e) [⟨.version, {}⟩, ⟨.stats, {}⟩]
  | answered {identity : VersionResponse} {status : StatsResponse}
      (answered : version.outcome = .ok identity) (answeredToo : stats.outcome = .ok status)
      (met : version.span + stats.span ≤ timeout.nanos) :
      Queried timeout version stats (.ok ⟨identity, status.status⟩) [⟨.version, {}⟩, ⟨.stats, {}⟩]

section
variable {env : Environment} {s : Session} {timeout : Duration}
variable {version : Reply VersionResponse} {stats : Reply StatsResponse}

namespace Queried
variable {result : Result DaemonInfo} {made : List Call}

/-- The status is asked for exactly if the version arrived in time. -/
theorem asks_iff (queried : Queried timeout version stats result made) :
    ⟨.stats, {}⟩ ∈ made ↔
      (∃ identity, version.outcome = .ok identity) ∧ version.span ≤ timeout.nanos := by
  cases queried with
  | versionLate late => simp [Nat.not_le_of_lt late]
  | versionFailed met failed => simp [failed]
  | statsLate answered met => simp [answered, met]
  | statsFailed answered met => simp [answered, Nat.le_of_add_right_le met]
  | answered answered _ met => simp [answered, Nat.le_of_add_right_le met]

/-- A query succeeds exactly if both calls do within its time. -/
theorem ok_iff (queried : Queried timeout version stats result made) (info : DaemonInfo) :
    result = .ok info ↔ ∃ identity status, version.outcome = .ok identity ∧
      stats.outcome = .ok status ∧ version.span + stats.span ≤ timeout.nanos ∧
      info = ⟨identity, status.status⟩ := by
  cases queried with
  | versionLate late =>
    have beyond : ¬ version.span + stats.span ≤ timeout.nanos := by omega
    simp [beyond]
  | versionFailed met failed => simp [failed]
  | statsLate answered met late => simp [Nat.not_le_of_lt late]
  | statsFailed answered met failed => simp [failed]
  | answered answered answeredToo met =>
    simp only [answered, answeredToo, met, Except.ok.injEq, true_and]
    constructor
    · rintro rfl
      exact ⟨_, _, rfl, rfl, rfl⟩
    · rintro ⟨identity, status, rfl, rfl, rfl⟩
      rfl

end Queried

variable (timeout) in
/-- The calls of a query, on an open client and under one deadline. -/
theorem ask_answered (never : env.cancellation = .never) (fresh : s.cancelled = false)
    (first : env.connector.answer s.calls .version {} = version)
    (second : env.connector.answer (s.calls ++ [⟨.version, {}⟩]) .stats {} = stats) :
    ∃ result t made, Run.Acts env (ask ⟨s.now.after timeout, timeout⟩) s result t ∧
      Queried timeout version stats result made ∧ t.requests = s.requests ++ made.map .called := by
  obtain ⟨result, u, asked, events, going, called⟩ := Guard.run_answered
    (g := ⟨s.now.after timeout, timeout⟩) Step.version.name never fresh (Nat.le_add_right _ _) first
  simp only [Instant.after_nanos, Nat.add_le_add_iff_left, Nat.add_lt_add_iff_left] at called
  have requests := Session.requests_of_events events
  obtain ⟨met, rfl, now⟩ | ⟨late, rfl, now⟩ := called
  · cases answered : version.outcome with
    | error e =>
      rw [answered] at asked requests
      exact ⟨_, u, _, asked.bind (Run.Acts.pure _), .versionFailed met answered, requests⟩
    | ok identity =>
      rw [answered] at asked events
      have calls : u.calls = s.calls ++ [⟨.version, {}⟩] := by
        rw [Session.calls_eq, events, callsIn_append]
        rfl
      rw [← calls] at second
      -- What the first call left of the time is what the second has.
      have ahead : u.now ≤ s.now.after timeout := by
        rw [Instant.le_iff, now]
        exact Nat.add_le_add_left met _
      obtain ⟨result, t, asked', events', -, called⟩ := Guard.run_answered
        (g := ⟨s.now.after timeout, timeout⟩) Step.stats.name never going ahead second
      rw [events, List.append_assoc] at events'
      have requests := Session.requests_of_events events'
      simp only [now, Instant.after_nanos, Nat.add_assoc, Nat.add_le_add_iff_left,
        Nat.add_lt_add_iff_left] at called
      obtain ⟨metToo, rfl, -⟩ | ⟨late, rfl, -⟩ := called
      · cases answeredToo : stats.outcome with
        | error e =>
          rw [answeredToo] at asked' requests
          exact ⟨_, t, _, asked.bind (asked'.bind (Run.Acts.pure _)),
            .statsFailed answered metToo answeredToo, requests⟩
        | ok status =>
          rw [answeredToo] at asked' requests
          exact ⟨_, t, _, asked.bind (asked'.bind (Run.Acts.pure _)),
            .answered answered answeredToo metToo, requests⟩
      · exact ⟨_, t, _, asked.bind (asked'.bind (Run.Acts.pure _)), .statsLate answered met late,
          requests⟩
  · exact ⟨_, u, _, asked.bind (Run.Acts.pure _), .versionLate late, requests⟩

variable (timeout) in
theorem queryDaemon_answered (opens : env.connector.opening = .ok ())
    (fits : s.now.after timeout ≤ Instant.latest)
    (first : env.connector.answer s.calls .version {} = version)
    (second : env.connector.answer (s.calls ++ [⟨.version, {}⟩]) .stats {} = stats) :
    ∃ result t made, Run.Acts env (queryDaemon timeout) s result t ∧
      Queried timeout version stats result made ∧ t.requests = s.requests ++ made.map .called := by
  let quiet : Environment := { env with cancellation := .never }
  let fresh : Session := { s with cancelled := false, looks := 0 }
  let opened := fresh.record .opened
  have unasked : opened.requests = s.requests := fresh.record_quiet rfl
  have calls : opened.calls = s.calls := fresh.record_opened_calls
  rw [← calls] at first second
  have never : quiet.cancellation = .never := rfl
  have going : opened.cancelled = false := rfl
  obtain ⟨result, t, made, asked, queried, requests⟩ := ask_answered timeout never going first second
  refine ⟨result, _, made, Run.Acts.uncancelled (t := t.record .closed) ?_, queried, ?_⟩
  · have open_ : Run.Acts quiet Run.openClient fresh (.ok ()) opened := Run.openClient_acts opens
    refine open_.bind ((Guard.start_acts quiet opened timeout fits).bind (asked.bind ?_))
    exact Run.closeClient_acts.bind (Run.Acts.pure _)
  · rw [unasked] at requests
    exact (t.record_quiet rfl).trans requests

theorem queryDaemon_refused {e : Error} (refused : env.connector.opening = .error e) :
    Run.Acts env (queryDaemon timeout) s (.error e) s := by
  let fresh : Session := { s with cancelled := false, looks := 0 }
  have closed : Run.Acts { env with cancellation := .never } Run.openClient fresh (.error e) fresh :=
    Run.openClient_refused refused
  exact Run.Acts.uncancelled (t := fresh) (closed.bind (Run.Acts.pure _))

end

/-- A query whose deadline the clock can show comes to an end by that deadline. A connector that refuses
ends it with its error, and nothing is asked, opened or closed. Otherwise one client is opened and
closed, and what comes of the query is decided by the answers to its calls and the time they take
together: they are all that is asked. -/
theorem query_within_budget (timeout : Duration) (env : Environment) (s : Session)
    (fits : env.connector.opening = .ok () → s.now.after timeout ≤ Instant.latest) :
    ∃ result t, queryDaemon timeout env s = .ok (result, t) ∧ t.now ≤ s.now.after timeout ∧
      ((∃ e, env.connector.opening = .error e ∧ result = .error e ∧ t.requests = s.requests ∧
          t.opens = s.opens ∧ t.closes = s.closes) ∨
        env.connector.opening = .ok () ∧ t.opens = s.opens + 1 ∧ t.closes = s.closes + 1 ∧
          ∃ version stats made, version = env.connector.answer s.calls .version {} ∧
            stats = env.connector.answer (s.calls ++ [⟨.version, {}⟩]) .stats {} ∧
            t.requests = s.requests ++ made.map .called ∧
            Queried timeout version stats result made ∧
            (⟨.stats, {}⟩ ∈ made ↔
              (∃ identity, version.outcome = .ok identity) ∧ version.span ≤ timeout.nanos) ∧
            ∀ info, result = .ok info ↔ ∃ identity status, version.outcome = .ok identity ∧
              stats.outcome = .ok status ∧ version.span + stats.span ≤ timeout.nanos ∧
              info = ⟨identity, status.status⟩) := by
  obtain ⟨result, _, acts, used⟩ := queryDaemon_used (s := s.unlogged) env fits
  obtain ⟨t, ended, rfl⟩ := acts.run
  refine ⟨result, t, ended, used.time, ?_⟩
  cases opens : env.connector.opening with
  | error e =>
    obtain ⟨rfl, same⟩ := (queryDaemon_refused opens).unique ended
    obtain ⟨opened, -⟩ | ⟨-, opens', closes⟩ := used.counts
    · rw [opens] at opened
      contradiction
    · refine .inl ⟨e, rfl, rfl, ?_, opens', closes⟩
      rw [← t.requests_unlogged, ← same, s.requests_unlogged]
  | ok _ =>
    obtain ⟨_, _, made, acts, queried, requests⟩ :=
      queryDaemon_answered timeout (s := s.unlogged) opens (fits opens) rfl rfl
    obtain ⟨rfl, rfl⟩ := acts.unique ended
    rw [t.requests_unlogged, s.requests_unlogged] at requests
    rw [s.calls_unlogged] at queried
    obtain ⟨-, opens', closes⟩ | ⟨unopened, -⟩ := used.counts
    · exact .inr ⟨rfl, opens', closes, _, _, made, rfl, rfl, requests, queried, queried.asks_iff,
        queried.ok_iff⟩
    · exact absurd opens unopened

/-- A control plane that answers the two calls of a query after the given delays. -/
def answering (version stats : Duration) : Environment :=
  inMemory ((({} : MemoryPlane).behave .version (.delay version)).behave .stats (.delay stats)) 5

theorem query_within_budget_to_the_end :
    ∃ info t, queryDaemon (.ofSeconds 1) (answering (.ofMillis 400) (.ofMillis 600))
        { now := ⟨0⟩ } = .ok (.ok info, t) ∧ info.version.version = "5.9.14" ∧
      t.opens = 1 ∧ t.closes = 1 ∧ t.now ≤ ⟨1000000000⟩ := by
  obtain ⟨result, t, ended, met, opened⟩ := query_within_budget (.ofSeconds 1)
    (answering (.ofMillis 400) (.ofMillis 600)) { now := ⟨0⟩ } fun _ => by decide
  obtain ⟨e, refused, -⟩ | ⟨-, opens, closes, _, _, made, rfl, rfl, -, -, -, ok⟩ := opened
  · cases refused
  · obtain rfl := (ok _).mpr ⟨_, _, rfl, rfl, by decide, rfl⟩
    exact ⟨_, t, ended, rfl, opens, closes, met⟩

/-- With more time than the longest wait, a query gets a version whose delay is longer than its time,
and asks for the status after that. -/
theorem late_version_answers :
    ∃ info t, queryDaemon (.ofSeconds 1000000000) (answering (.ofSeconds 2000000000) .zero)
        { now := ⟨0⟩ } = .ok (.ok info, t) ∧ .called ⟨.stats, {}⟩ ∈ t.requests ∧ ∀ calls request,
        (Duration.ofSeconds 1000000000).nanos < ((answering (.ofSeconds 2000000000)
          .zero).connector.answer calls .version request).delay.nanos := by
  have late : (Duration.ofSeconds 1000000000).nanos < (Duration.ofSeconds 2000000000).nanos := by decide
  have opens : (answering (.ofSeconds 2000000000) .zero).connector.opening = .ok () := rfl
  obtain ⟨result, _, made, acts, queried, requests⟩ := queryDaemon_answered (.ofSeconds 1000000000)
    (s := ({ now := ⟨0⟩ } : Session).unlogged) opens (by decide) rfl rfl
  obtain ⟨t, ended, rfl⟩ := acts.run
  obtain rfl := (queried.ok_iff _).mpr ⟨_, _, rfl, rfl, by decide, rfl⟩
  have asked := queried.asks_iff.mpr ⟨⟨_, rfl⟩, by decide⟩
  refine ⟨_, t, ended, ?_, fun _ _ => late⟩
  rw [t.requests_unlogged] at requests
  rw [requests]
  exact List.mem_append_right _ (List.mem_map_of_mem asked)

end Tunnel
end IPsecControl
