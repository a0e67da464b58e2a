import IPsecControl.Proofs.Tunnel.CallOrder
import IPsecControl.Proofs.Operations
import IPsecControl.CommandLine.Program
import IPsecControl.Control.CallLog

/-! Timeouts that are too long for the clock. A guard whose deadline the clock cannot show ends the
program while its client is open; whatever else happens, an operation comes to an end with its
client closed. -/
namespace IPsecControl

namespace Run
variable {α β : Type} {env : Environment} {s t x : Session} {m : Run α} {f : α → Run β} {a : α}

/-- The operation comes to an end, and has closed every client that it opened. -/
def Returns (env : Environment) (m : Run α) (s : Session) : Prop :=
  ∃ a t clients, m env s = .ok (a, t) ∧ t.opens = s.opens + clients ∧ t.closes = s.closes + clients

/-- The clock overflows while a client is open, in a session of which `late` holds. -/
def Overflows (env : Environment) (m : Run α) (s : Session) (late : Session → Prop) : Prop :=
  ∃ t, m env s = .error ⟨.instant, t⟩ ∧ t.opens = s.opens + 1 ∧ t.closes = s.closes ∧ late t

theorem Returns.of_used {client : Prop} {span : Nat} (ended : m env s = .ok (a, t))
    (used : Used client span s.unlogged t.unlogged) : Returns env m s := by
  obtain ⟨-, opens, closes⟩ | ⟨-, opens, closes⟩ := used.counts
  · exact ⟨a, t, 1, ended, opens, closes⟩
  · exact ⟨a, t, 0, ended, opens, closes⟩

theorem Overflows.not_returns {late : Session → Prop} (overflows : Overflows env m s late) :
    ¬ Returns env m s := by
  rintro ⟨a, u, clients, ended, -⟩
  obtain ⟨t, halted, -⟩ := overflows
  rw [ended] at halted
  contradiction

theorem Overflows.mono {late late' : Session → Prop} (overflows : Overflows env m s late)
    (widens : ∀ x, late x → late' x) : Overflows env m s late' := by
  obtain ⟨t, halted, opens, closes, isLate⟩ := overflows
  exact ⟨t, halted, opens, closes, widens t isLate⟩

/-- The clock overflows while a client is open, found by evaluating the operation. -/
def strands (env : Environment) (m : Run α) (s : Session) (late : Session → Bool) : Bool :=
  match m env s with
  | .ok _ => false
  | .error h => h.cause = .instant && h.session.opens = s.opens + 1 &&
      h.session.closes = s.closes && late h.session

theorem overflows_of_strands {late : Session → Bool} (observed : strands env m s late = true) :
    Overflows env m s fun x => late x = true := by
  unfold strands at observed
  split at observed
  · contradiction
  next h halted =>
    simp only [Bool.and_eq_true, decide_eq_true_eq] at observed
    obtain ⟨⟨⟨cause, opens⟩, closes⟩, isLate⟩ := observed
    exact ⟨h.session, by rw [halted, ← cause], opens, closes, isLate⟩

/-- From a session that shows `s` when its log is erased, the clock overflows in one that shows `x`. -/
def HaltsAt (env : Environment) (m : Run α) (s x : Session) : Prop :=
  ∀ u : Session, u.unlogged = s → ∃ v : Session, m env u = .error ⟨.instant, v⟩ ∧ v.unlogged = x

namespace HaltsAt

theorem bind (halts : HaltsAt env m s x) (f : α → Run β) : HaltsAt env (m >>= f) s x := by
  intro u shown
  obtain ⟨v, halted, shown⟩ := halts u shown
  refine ⟨v, ?_, shown⟩
  rw [bind_apply, halted]
  rfl

theorem after (first : Acts env m s a t) (halts : HaltsAt env (f a) t x) :
    HaltsAt env (m >>= f) s x := by
  intro u shown
  obtain ⟨v, ran, shown⟩ := first u shown
  obtain ⟨w, halted, shown⟩ := halts v shown
  refine ⟨w, ?_, shown⟩
  rw [bind_apply, ran]
  exact halted

theorem uncancelled (halts :
      HaltsAt { env with cancellation := .never } m { s with cancelled := false, looks := 0 } x) :
    HaltsAt env (Run.uncancelled m) s x := by
  rintro u rfl
  obtain ⟨v, halted, shown⟩ := halts { u with cancelled := false, looks := 0 } rfl
  refine ⟨v, ?_, shown⟩
  rw [uncancelled_apply, halted]
  rfl

end HaltsAt

/-- The operation acts, or the clock overflows in a session of which `late` holds. -/
def ActsOr (env : Environment) (m : Run α) (s : Session) (late : Session → Prop) : Prop :=
  (∃ a t, Acts env m s a t) ∨ ∃ x, HaltsAt env m s x ∧ late x

namespace ActsOr
variable {late late' : Session → Prop}

theorem acts (acts : Acts env m s a t) : ActsOr env m s late := .inl ⟨a, t, acts⟩

theorem halts (halts : HaltsAt env m s x) (isLate : late x) : ActsOr env m s late :=
  .inr ⟨x, halts, isLate⟩

theorem after (first : Acts env m s a t) (rest : ActsOr env (f a) t late) :
    ActsOr env (m >>= f) s late := by
  obtain ⟨b, u, acts⟩ | ⟨x, halts, isLate⟩ := rest
  · exact .acts (first.bind acts)
  · exact .halts (.after first halts) isLate

theorem mono (rest : ActsOr env m s late) (widens : ∀ x, late x → late' x) :
    ActsOr env m s late' := by
  obtain ⟨b, u, acts⟩ | ⟨x, halts, isLate⟩ := rest
  · exact .acts acts
  · exact .halts halts (widens x isLate)

theorem bind (first : ActsOr env m s late)
    (next : ∀ a t, Acts env m s a t → ActsOr env (f a) t late) : ActsOr env (m >>= f) s late := by
  obtain ⟨a, t, acts⟩ | ⟨x, halts, isLate⟩ := first
  · exact .after acts (next a t acts)
  · exact .halts (halts.bind f) isLate

end ActsOr
end Run

theorem Guard.start_haltsAt {env : Environment} {s : Session} {budget : Duration}
    (unfit : ¬ s.now.after budget ≤ Instant.latest) : Run.HaltsAt env (start budget) s s := by
  rintro u rfl
  exact ⟨u, start_unfit env u budget unfit, rfl⟩

/-- Between the sessions the open client was worked on, and neither closed nor opened again. -/
def Session.WorkedTo (s x : Session) : Prop :=
  ∃ body, x.events = s.events ++ body ∧ ∀ e ∈ body, e.isWork = true

namespace Session.WorkedTo
variable {s t x : Session}

theorem refl (s : Session) : s.WorkedTo s := ⟨[], (List.append_nil _).symm, by simp⟩

theorem trans (first : s.WorkedTo t) (later : t.WorkedTo x) : s.WorkedTo x := by
  obtain ⟨body, events, work⟩ := first
  obtain ⟨rest, events', work'⟩ := later
  refine ⟨body ++ rest, ?_, ?_⟩
  · rw [events', events, List.append_assoc]
  · intro e member
    rcases List.mem_append.mp member with early | late
    · exact work e early
    · exact work' e late

theorem counts (worked : s.WorkedTo x) : x.opens = s.opens ∧ x.closes = s.closes := by
  obtain ⟨body, events, work⟩ := worked
  constructor
  · rw [opens, opens, events, List.filter_append, unopened_of_work work, List.append_nil]
  · rw [closes, closes, events, List.filter_append, unclosed_of_work work, List.append_nil]

theorem calls (worked : s.WorkedTo x) : s.calls <+: x.calls := by
  obtain ⟨body, events, -⟩ := worked
  refine ⟨callsIn body, ?_⟩
  rw [Session.calls_eq, Session.calls_eq, events, callsIn_append]

end Session.WorkedTo

theorem Run.HaltsAt.overflows {α : Type} {env : Environment} {m : Run α} {s x : Session}
    {late : Session → Prop} (halts : HaltsAt env m s.unlogged x)
    (worked : (s.unlogged.record .opened).WorkedTo x) (isLate : ∀ t : Session, t.unlogged = x → late t) :
    Overflows env m s late := by
  obtain ⟨t, halted, rfl⟩ := halts s rfl
  obtain ⟨opens, closes⟩ := worked.counts
  exact ⟨t, halted, by simpa using opens, by simpa using closes, isLate t rfl⟩

namespace Tunnel
open Message

/-- No deadline of a cleanup step can be set in `x`, which steps begun in `s` have come to. -/
structure Config.Overdue (config : Config) (steps : Nat) (s x : Session) : Prop where
  late : Instant.latest < x.now.after config.cleanupTimeout
  time : x.now.nanos + config.cleanupTimeout.nanos ≤
    s.now.nanos + steps * config.cleanupTimeout.nanos
  worked : s.WorkedTo x

section
variable {config : Config} {load : LoadConnRequest} {env : Environment} {s t x : Session}

theorem Made.workedTo {a : Attempt} (made : Made config load env s a t) : s.WorkedTo t :=
  ⟨_, made.events, a.work⟩

theorem Driven.workedTo {as : List Attempt} {r : Report} {f : Option Failure}
    (driven : Driven config load env s as r f t) : s.WorkedTo t := by
  refine ⟨_, driven.events, ?_⟩
  intro e member
  obtain ⟨a, -, happened⟩ := List.mem_flatMap.mp member
  exact a.work e happened

variable (load) in
theorem tearDown_acts_or {answer : Reply Probe.Statistics}
    (probed : env.prober config.probeTarget Probe.verificationCount = .ok answer)
    (steps : List Step) (r : Report) (s : Session) :
    Run.ActsOr env (tearDown config load steps r) s (config.Overdue steps.length s) := by
  induction steps generalizing r s with
  | nil => exact .acts (Run.Acts.pure _)
  | cons step rest ih =>
    simp only [tearDown, List.length_cons]
    by_cases fits : s.now.after config.cleanupTimeout ≤ Instant.latest
    · apply Run.ActsOr.after (Guard.start_acts env s config.cleanupTimeout fits)
      by_cases fires : s.fires env.cancellation = true
      · apply Run.ActsOr.after (Guard.run_forgone fires)
        exact .acts ((Run.Acts.log _).bind (Run.Acts.pure _))
      · have quiet := Bool.eq_false_iff.mpr fires
        obtain ⟨reply, replied⟩ := reply_exists config load probed s.calls step
        obtain ⟨wake, ended, t, made, acted⟩ := run_made
          (g := ⟨s.now.after config.cleanupTimeout, config.cleanupTimeout⟩) quiet replied
        apply Run.ActsOr.after acted
        cases result : Guard.outcome ⟨s.now.after config.cleanupTimeout, config.cleanupTimeout⟩
            step.name reply wake with
        | error e => exact .acts ((Run.Acts.log _).bind (Run.Acts.pure _))
        | ok outcome =>
          have ended := made.cleanup_time rfl
          apply Run.ActsOr.after (Run.Acts.logAll _)
          apply (ih (r.succeed step outcome) t).mono
          intro x overdue
          refine ⟨overdue.late, ?_, made.workedTo.trans overdue.worked⟩
          have time := overdue.time
          rw [Nat.add_mul, Nat.one_mul]
          omega
    · have late : Instant.latest < s.now.after config.cleanupTimeout := Nat.lt_of_not_le fits
      apply Run.ActsOr.halts ((Guard.start_haltsAt fits).bind _)
      refine ⟨late, ?_, .refl s⟩
      rw [Nat.add_mul, Nat.one_mul]
      omega

/-- A run that began in `s` has come to a guard in `x` whose deadline the clock cannot show. -/
inductive Config.Stranded (config : Config) (s x : Session) : Prop where
  /-- The guard of the shared steps, before any call. -/
  | shared (late : Instant.latest < s.now.after config.timeout) (uncalled : x.calls = s.calls)
  /-- The guard of a cleanup step, after a negotiation was called for. -/
  | cleanup (late : Instant.latest < x.now.after config.cleanupTimeout)
      (time : x.now.nanos ≤ s.now.nanos + config.timeout.nanos + config.cleanupTimeout.nanos)
      (negotiated : ∃ issued, x.calls = s.calls ++ issued ∧ .initiate ∈ issued.map (·.rpc))

theorem negotiated_call {steps : List Step} (member : .initiate ∈ steps) :
    Rpc.initiate ∈ (steps.filterMap (config.call? load)).map (·.rpc) := by
  rw [rpcs_of_steps]
  exact List.mem_filterMap.mpr ⟨_, member, rfl⟩

section
variable {answer : Reply Probe.Statistics}
variable (probed : env.prober config.probeTarget Probe.verificationCount = .ok answer)
include probed

variable (load) in
theorem exercise_acts_or (s : Session) :
    Run.ActsOr env (exercise config load) s fun x => s.WorkedTo x ∧ config.Stranded s x := by
  by_cases fits : s.now.after config.timeout ≤ Instant.latest
  · apply Run.ActsOr.after (Guard.start_acts env s config.timeout fits)
    obtain ⟨⟨r, f⟩, t, acted, as, last, y, advances, stops⟩ :=
      (drive_ends load (config.sharedGuard s) (config.firstStage s)).of_fits ⟨answer, probed⟩
    have driven : Driven config load env s (as ++ last.toList) r f t :=
      ⟨as, last, y, rfl, advances, stops⟩
    apply Run.ActsOr.after acted
    by_cases early : f.any (·.step.precedesNegotiation) = true
    · simp only [early, if_true]
      exact .acts (Run.Acts.pure _)
    · have late := Bool.eq_false_iff.mpr early
      simp only [late, Bool.false_eq_true, if_false]
      have swept : Run.ActsOr env (cleanup config load r) t fun x =>
          s.WorkedTo x ∧ config.Stranded s x := by
        apply Run.ActsOr.after Run.Acts.look
        cases fires : t.fires env.cancellation with
        | true => exact .acts ((Run.Acts.log _).bind (Run.Acts.pure _))
        | false =>
          simp only [Bool.false_eq_true, if_false]
          apply (tearDown_acts_or load probed cleanupSteps r (t.looked env.cancellation)).mono
          intro x overdue
          have worked : t.WorkedTo x := overdue.worked
          have shared := driven.time
          have time : x.now.nanos + _ ≤ t.now.nanos + 2 * _ := overdue.time
          have negotiated : .initiate ∈ (as ++ last.toList).map (·.step) := by
            rcases driven.negotiated late with negotiated | cancelled
            · exact negotiated
            · simp [Session.fires, cancelled] at fires
          refine ⟨driven.workedTo.trans worked, .cleanup overdue.late ?_ ?_⟩
          · simp only [Instant.le_iff, Instant.after_nanos] at shared
            omega
          · obtain ⟨more, calls⟩ := worked.calls
            rw [driven.calls, List.append_assoc] at calls
            refine ⟨_, calls.symm, ?_⟩
            rw [List.map_append]
            exact List.mem_append_left _ (negotiated_call negotiated)
      exact swept.bind fun _ _ _ => .acts (Run.Acts.pure _)
  · have late : Instant.latest < s.now.after config.timeout := Nat.lt_of_not_le fits
    exact .halts ((Guard.start_haltsAt fits).bind _) ⟨.refl s, .shared late rfl⟩

variable (config) in
/-- A run comes to an end, or the clock overflows while its client is open. -/
theorem run_acts_or (s : Session) : Run.ActsOr env (run config) s fun x =>
    (s.record .opened).WorkedTo x ∧ config.Stranded s x := by
  unfold run
  cases config.loadRequest with
  | error e => exact .acts (Run.Acts.pure _)
  | ok load =>
    cases fires : s.fires env.cancellation with
    | true =>
      apply Run.ActsOr.after (connect_forgone fires)
      exact .acts ((Run.Acts.log _).bind (Run.Acts.pure _))
    | false =>
      cases opens : env.connector.opening with
      | error e =>
        apply Run.ActsOr.after (connect_acts fires (Run.openClient_refused opens))
        exact .acts ((Run.Acts.log _).bind (Run.Acts.pure _))
      | ok _ =>
        apply Run.ActsOr.after (connect_acts fires (Run.openClient_acts opens))
        apply Run.ActsOr.after (Run.Acts.log _)
        apply Run.ActsOr.bind ((exercise_acts_or load probed _).mono ?_)
        · rintro ⟨r, f⟩ t -
          apply Run.ActsOr.after Run.closeClient_acts
          cases f with
          | none => exact .acts ((Run.Acts.log _).bind (Run.Acts.pure _))
          | some f => exact .acts ((Run.Acts.log _).bind (Run.Acts.pure _))
        · rintro x ⟨worked, stranded⟩
          refine ⟨worked, ?_⟩
          cases stranded with
          | shared late uncalled => exact .shared late (by simpa using uncalled)
          | cleanup late time negotiated => exact .cleanup late time (by simpa using negotiated)

theorem run_returns_or (s : Session) :
    Run.Returns env (run config) s ∨ Run.Overflows env (run config) s (config.Stranded s) := by
  obtain ⟨result, _, acts⟩ | ⟨x, halts, worked, stranded⟩ := run_acts_or config probed s.unlogged
  · obtain ⟨t, ended, rfl⟩ := acts.run
    obtain ⟨as, cs, ran⟩ := ran_of_run ended
    exact .inl (.of_used ended ran.used)
  · right
    apply halts.overflows worked
    rintro t rfl
    cases stranded with
    | shared late uncalled => exact .shared late (by simpa using uncalled)
    | cleanup late time negotiated => exact .cleanup late time (by simpa using negotiated)

end

variable (config) in
/-- The guard of the shared steps is the first thing that a run does with its client. -/
theorem run_overflows (valid : config.loadRequest = .ok load)
    (quiet : s.fires env.cancellation = false) (opens : env.connector.opening = .ok ())
    (late : Instant.latest < s.now.after config.timeout) :
    Run.Overflows env (run config) s fun x => x.calls = s.calls := by
  have halts : Run.HaltsAt env (run config) s.unlogged
      ((s.unlogged.looked env.cancellation).record .opened) := by
    have quiet : s.unlogged.fires env.cancellation = false := quiet
    unfold run
    simp only [valid]
    apply Run.HaltsAt.after (connect_acts quiet (Run.openClient_acts opens))
    apply Run.HaltsAt.after (Run.Acts.log _)
    apply Run.HaltsAt.bind
    apply Run.HaltsAt.bind
    exact Guard.start_haltsAt (Nat.not_le_of_gt late)
  apply halts.overflows (.refl (s.unlogged.record .opened))
  intro t shown
  rw [← t.calls_unlogged, shown]
  exact s.unlogged.record_opened_calls.trans s.calls_unlogged

end

section
variable {env : Environment} {timeout : Duration} {s : Session}

theorem queryDaemon_returns
    (fits : env.connector.opening = .ok () → s.now.after timeout ≤ Instant.latest) :
    Run.Returns env (queryDaemon timeout) s := by
  obtain ⟨result, _, acts, used⟩ := queryDaemon_used (s := s.unlogged) env fits
  obtain ⟨t, ended, rfl⟩ := acts.run
  exact .of_used ended used

theorem queryDaemon_overflows (opens : env.connector.opening = .ok ())
    (late : Instant.latest < s.now.after timeout) :
    Run.Overflows env (queryDaemon timeout) s fun x => x.calls = s.calls := by
  have halts : Run.HaltsAt env (queryDaemon timeout) s.unlogged
      ({ s.unlogged with cancelled := false, looks := 0 }.record .opened) := by
    have opened : { env with cancellation := .never }.connector.opening = .ok () := opens
    apply Run.HaltsAt.uncancelled
    apply Run.HaltsAt.after (Run.openClient_acts opened)
    apply Run.HaltsAt.bind
    exact Guard.start_haltsAt (Nat.not_le_of_gt late)
  apply halts.overflows (.refl (s.unlogged.record .opened))
  intro t shown
  rw [← t.calls_unlogged, shown]
  exact s.unlogged.record_opened_calls.trans s.calls_unlogged

end

/-- Both operations come to an end with their clients closed, but for the guards whose deadlines the
clock cannot show. Then the program ends with the client open: a query always does, before any call,
if its timeout does not fit the clock; a run does so there too, or after it called for a
negotiation, and then it leaves what was negotiated. -/
theorem returns_unless_overdue (config : Config) (timeout : Duration) (env : Environment) (s : Session)
    (replies : ∃ reply, env.prober config.probeTarget Probe.verificationCount = .ok reply) :
    ((env.connector.opening = .ok () → s.now.after timeout ≤ Instant.latest) →
      Run.Returns env (queryDaemon timeout) s) ∧
    (env.connector.opening = .ok () → Instant.latest < s.now.after timeout →
      Run.Overflows env (queryDaemon timeout) s fun x => x.calls = s.calls) ∧
    (Run.Returns env (run config) s ∨ Run.Overflows env (run config) s (config.Stranded s)) ∧
    ((∃ load, config.loadRequest = .ok load) → s.fires env.cancellation = false →
      env.connector.opening = .ok () → Instant.latest < s.now.after config.timeout →
      Run.Overflows env (run config) s fun x => x.calls = s.calls) := by
  obtain ⟨reply, probed⟩ := replies
  refine ⟨queryDaemon_returns, queryDaemon_overflows, run_returns_or probed s, ?_⟩
  rintro ⟨load, valid⟩ quiet opens late
  exact run_overflows config valid quiet opens late

theorem returns_unless_overdue_at_the_limit :
    Run.Returns (inMemory {} 5) (queryDaemon (.ofSeconds 9223372036854775807)) { now := ⟨0⟩ } ∧
    Run.Overflows (inMemory {} 5) (queryDaemon (.ofSeconds 9223372036854775807)) { now := ⟨1000000000⟩ }
      (fun x => x.calls = []) := by
  constructor
  · obtain ⟨returns, -⟩ := returns_unless_overdue {} (.ofSeconds 9223372036854775807) (inMemory {} 5)
      { now := ⟨0⟩ } ⟨_, rfl⟩
    exact returns fun _ => by decide
  · obtain ⟨-, overflows, -⟩ := returns_unless_overdue {} (.ofSeconds 9223372036854775807)
      (inMemory {} 5) { now := ⟨1000000000⟩ } ⟨_, rfl⟩
    exact overflows rfl (by decide)

/-- A number of seconds that the command line takes is too long for each of the three guards; the
last one overflows after the negotiation. -/
theorem overlong_timeouts_halt :
    CommandLine.Kind.long.read "9223372036854775808" = .ok 9223372036854775808 ∧
    ¬ Run.Returns (inMemory {} 5) (queryDaemon (.ofSeconds 9223372036854775808)) { now := ⟨0⟩ } ∧
    ¬ Run.Returns (inMemory {} 5) (run { timeout := .ofSeconds 9223372036854775808 })
      { now := ⟨0⟩ } ∧
    ¬ Run.Returns (inMemory {} 5) (run { cleanupTimeout := .ofSeconds 9223372036854775808 })
      { now := ⟨0⟩ } ∧
    Run.Overflows (inMemory {} 5) (run { cleanupTimeout := .ofSeconds 9223372036854775808 })
      { now := ⟨0⟩ } fun x => operations x.calls =
        ["IPsecVersion", "IPsecStats", "IPsecLoadConn", "IPsecInitiate", "IPsecListSas",
          "IPsecListConns", "IPsecListCerts", "IPsecRekey"] := by
  have query : Run.strands (inMemory {} 5) (queryDaemon (.ofSeconds 9223372036854775808))
      { now := ⟨0⟩ } (fun _ => true) = true := by decide +kernel
  have shared : Run.strands (inMemory {} 5) (run { timeout := .ofSeconds 9223372036854775808 })
      { now := ⟨0⟩ } (fun _ => true) = true := by decide +kernel
  have cleanup : Run.strands (inMemory {} 5)
      (run { cleanupTimeout := .ofSeconds 9223372036854775808 }) { now := ⟨0⟩ }
      (fun x => operations x.calls =
        ["IPsecVersion", "IPsecStats", "IPsecLoadConn", "IPsecInitiate", "IPsecListSas",
          "IPsecListConns", "IPsecListCerts", "IPsecRekey"]) = true := by decide +kernel
  have cleanup := (Run.overflows_of_strands cleanup).mono fun _ => of_decide_eq_true
  exact ⟨rfl, (Run.overflows_of_strands query).not_returns,
    (Run.overflows_of_strands shared).not_returns, cleanup.not_returns, cleanup⟩

end Tunnel
end IPsecControl
