import IPsecControl.Proofs.Tunnel.Interruption

/-! Deadlines. The shared steps of a run have one deadline, counted from the start of the run, and each
cleanup step has one of its own, counted from its call. A call that is not answered by its deadline
ends there and nowhere else. The next calls begin when it ended, so that a deadline of the shared
steps that is over is over for all of them. -/
namespace IPsecControl

namespace Instant

theorem le_max_left (a b : Instant) : a ≤ a.max b := by
  rw [le_iff, max_nanos]
  exact Nat.le_max_left _ _

theorem lt_afterWait (t : Instant) {d : Duration} (some : 0 < d.nanos) : t < t.afterWait d := by
  have longest : 0 < longestWait.nanos := by decide
  rw [lt_iff, afterWait, after_nanos, Duration.min_nanos]
  omega

end Instant

namespace Run

/-- A wait never ends before it began. -/
theorem wakeAt_since {c : Cancellation} {now finish deadline time : Instant} {wake : Wake}
    (ends : wakeAt c now finish deadline = (wake, time)) (waits : now ≤ finish) : now ≤ time := by
  simp only [wakeAt] at ends
  generalize quietly : (if finish ≤ now.max deadline then (Wake.answered, finish)
    else (Wake.expired, now.max deadline)) = quiet at ends
  have waited : now ≤ quiet.2 := by
    rw [← quietly]
    split
    · exact waits
    · exact Instant.le_max_left _ _
  cases c with
  | never | beforeLook =>
    subst ends
    exact waited
  | during c =>
    by_cases before : c < quiet.2
    · simp only [if_pos before] at ends
      cases ends
      exact Instant.le_max_left _ _
    · simp only [if_neg before] at ends
      subst ends
      exact waited

/-- A wait that is not cancelled ends by the instant of the cancellation. -/
theorem wakeAt_going {c now finish deadline time : Instant} {wake : Wake}
    (ends : wakeAt (.during c) now finish deadline = (wake, time)) (going : wake ≠ .cancelled) :
    time ≤ c := by
  simp only [wakeAt] at ends
  generalize (if finish ≤ now.max deadline then (Wake.answered, finish)
    else (Wake.expired, now.max deadline)) = quiet at ends
  by_cases before : c < quiet.2
  · rw [if_pos before] at ends
    cases ends
    contradiction
  · rw [if_neg before] at ends
    subst ends
    exact Nat.le_of_not_lt before

end Run

namespace Tunnel
open Message

namespace Attempt
variable (a : Attempt)

/-- The call was made by the instant, and neither an answer nor a cancellation came by then. -/
structure Unanswered (cancellation : Cancellation) (time : Instant) : Prop where
  issued : a.issued ≤ time
  later : time < a.issued.afterWait a.reply.delay
  going : ∀ c, cancellation = .during c → time ≤ c

/-- The call ended at the instant, with a timeout that names its step and carries the budget. -/
structure TimesOut (time : Instant) (budget : Duration) : Prop where
  ended : a.ended = time
  failed : a.failure? = some (.timedOut a.step.name budget)

end Attempt

/-- The calls of a run keep the deadlines of a run that began at the given instant. -/
structure Config.Keeps (config : Config) (cancellation : Cancellation) (start : Instant)
    (as : List Attempt) : Prop where
  shared : ∀ a ∈ as, a.step ∉ cleanupSteps → a.ended ≤ start.after config.timeout
  expires : ∀ a ∈ as, a.step ∉ cleanupSteps →
    a.Unanswered cancellation (start.after config.timeout) →
    a.TimesOut (start.after config.timeout) config.timeout
  /-- After a call that ended at the deadline, every call that needs any time ends there too. -/
  expired : as.Pairwise fun a b => a.ended = start.after config.timeout → b.step ∉ cleanupSteps →
    0 < b.reply.delay.nanos → b.TimesOut (start.after config.timeout) config.timeout
  cleanup : ∀ a ∈ as, a.step ∈ cleanupSteps → a.ended ≤ a.issued.after config.cleanupTimeout
  lapses : ∀ a ∈ as, a.step ∈ cleanupSteps →
    a.Unanswered cancellation (a.issued.after config.cleanupTimeout) →
    a.TimesOut (a.issued.after config.cleanupTimeout) config.cleanupTimeout

section
variable {config : Config} {load : LoadConnRequest} {env : Environment} {s t : Session}
variable {a : Attempt} {as cs : List Attempt} {r : Report} {f : Option Failure} {d : Instant}

/-- A call that is unanswered at its deadline ends there, with a timeout. -/
theorem Made.timesOut (made : Made config load env s a t)
    (unanswered : a.Unanswered env.cancellation a.guard.deadline) :
    a.TimesOut a.guard.deadline a.guard.budget := by
  obtain ⟨issued, later, going⟩ := unanswered
  have ends := made.ends
  rw [made.issued] at issued later
  obtain ⟨-, -, met⟩ | ⟨wake, ended, -⟩ | ⟨-, c, during, -, -, early⟩ := Run.wakeAt_cases ends issued
  · exact absurd later (Nat.not_lt_of_le met)
  · constructor
    · exact ended
    · simp only [Attempt.failure?, Attempt.result, wake, Guard.outcome, Guard.failure?]
  · exact absurd early (Nat.not_lt_of_le (going c during))

theorem Made.since (made : Made config load env s a t) : s.now ≤ t.now := by
  rw [made.now]
  exact Run.wakeAt_since made.ends (Instant.le_afterWait _ _)

namespace Trail

theorem since (trail : Trail config load env s as t) : ∀ a ∈ as, s.now ≤ a.issued := by
  induction trail with
  | refl => simp
  | looked _ ih => exact ih
  | made first _ ih =>
    intro a member
    rcases List.mem_cons.mp member with rfl | later
    · rw [first.issued]
      exact Nat.le_refl _
    · exact Nat.le_trans first.since (ih a later)

/-- Each attempt begins after the ones before it ended, and those were not cancelled. -/
theorem successive (trail : Trail config load env s as t) : as.Pairwise fun a b =>
    a.ended ≤ b.issued ∧ ∀ c, env.cancellation = .during c → a.ended ≤ c := by
  induction trail with
  | refl => exact .nil
  | looked _ ih => exact ih
  | @made s t u a as first later ih =>
    refine .cons ?_ ih
    intro b member
    constructor
    · rw [← first.now]
      exact later.since b member
    · intro c during
      have ends := first.ends
      rw [during] at ends
      refine Run.wakeAt_going ends ?_
      intro wake
      have stopped : t.cancelled = true := by simp [first.cancelled, wake]
      rw [later.cancelled stopped] at member
      contradiction

/-- The end of each attempt stands on the timeline, at its time. -/
theorem timed (trail : Trail config load env s as t) : ∃ added, t.timeline = s.timeline ++ added ∧
    ∀ a ∈ as, (a.ended, .ended a.step.name a.failure?) ∈ added := by
  induction trail with
  | refl => exact ⟨[], (List.append_nil _).symm, by simp⟩
  | looked _ ih => exact ih
  | made first _ ih =>
    obtain ⟨added, timeline, timed⟩ := ih
    refine ⟨_, by rw [timeline, first.timeline, List.append_assoc], ?_⟩
    intro a member
    rcases List.mem_cons.mp member with rfl | later
    · rw [first.now]
      exact List.mem_append_left _ (List.mem_append_right _ List.mem_cons_self)
    · exact List.mem_append_right _ (timed a later)

/-- Attempts with one deadline end by it if the first of them begins by it. -/
theorem by_deadline (trail : Trail config load env s as t) (ahead : s.now ≤ d)
    (guarded : ∀ a ∈ as, a.guard.deadline = d) : ∀ a ∈ as, a.issued ≤ d ∧ a.ended ≤ d := by
  induction trail with
  | refl => simp
  | looked _ ih => exact ih ahead guarded
  | @made s t u a as first _ ih =>
    have within := first.time (guarded a List.mem_cons_self ▸ ahead)
    rw [guarded a List.mem_cons_self] at within
    intro b member
    rcases List.mem_cons.mp member with rfl | later
    · rw [first.issued, ← first.now]
      exact ⟨ahead, within.2⟩
    · exact ih within.2 (fun c member => guarded c (List.mem_cons_of_mem _ member)) b later

end Trail

namespace Exercised

theorem issued_by (exercised : Exercised config load env s as cs r f t) :
    ∀ a ∈ as, a.issued ≤ s.now.after config.timeout ∧ a.ended ≤ s.now.after config.timeout := by
  have driven : ∃ q g u, Driven config load env s as q g u := by
    cases exercised with
    | abandoned driven | cleanedUp driven => exact ⟨_, _, _, driven⟩
  obtain ⟨q, g, u, driven⟩ := driven
  apply driven.trail.by_deadline (Nat.le_add_right _ _)
  intro a member
  rw [driven.guarded a member]
  rfl

/-- What a run does with its client keeps its deadlines. -/
theorem keeps (exercised : Exercised config load env s as cs r f t) :
    config.Keeps env.cancellation s.now (as ++ cs) := by
  have trail := exercised.trail
  have guarded := exercised.guarded
  have early : ∀ a ∈ as ++ cs, a.step ∉ cleanupSteps → a ∈ as := by
    intro a member acts
    exact (List.mem_append.mp member).resolve_right fun cleans => acts (exercised.cleans cleans)
  have expires : ∀ a ∈ as ++ cs, a.step ∉ cleanupSteps →
      a.Unanswered env.cancellation (s.now.after config.timeout) →
      a.TimesOut (s.now.after config.timeout) config.timeout := by
    intro a member acts unanswered
    obtain ⟨u, v, made⟩ := trail.made_of_mem member
    have guard := guarded a member
    rw [Config.guardOf, if_neg acts] at guard
    have out := made.timesOut (by rw [guard]; exact unanswered)
    rw [guard] at out
    exact out
  constructor
  · intro a member acts
    exact (exercised.issued_by a (early a member acts)).2
  · exact expires
  · refine trail.successive.imp_of_mem ?_
    intro a b _ member order expired acts needs
    obtain ⟨after, going⟩ := order
    rw [expired] at after going
    -- The call begins at the deadline, neither earlier nor later.
    refine expires b member acts ⟨(exercised.issued_by b (early b member acts)).1, ?_, going⟩
    exact Nat.lt_of_le_of_lt after (Instant.lt_afterWait b.issued needs)
  · intro a member cleans
    obtain ⟨u, v, made⟩ := trail.made_of_mem member
    have guard := guarded a member
    rw [Config.guardOf, if_pos cleans] at guard
    rw [made.issued] at guard ⊢
    rw [← made.now]
    exact made.cleanup_time guard
  · intro a member cleans unanswered
    obtain ⟨u, v, made⟩ := trail.made_of_mem member
    have guard := guarded a member
    rw [Config.guardOf, if_pos cleans] at guard
    have out := made.timesOut (by rw [guard]; exact unanswered)
    rw [guard] at out
    exact out

end Exercised

theorem Played.timed (played : Played config load env s as t) :
    ∀ a ∈ as, (a.ended, .ended a.step.name a.failure?) ∈ t.timeline := by
  obtain ⟨u, trail, rfl⟩ := played.trail
  obtain ⟨added, timeline, timed⟩ := trail.timed
  intro a member
  rw [Session.record, timeline]
  exact List.mem_append_left _ (List.mem_append_right _ (timed a member))

/-- Every run comes to an end within its own time and that of two cleanup calls. What it does with its
client keeps the deadline of its shared steps and those of its cleanup steps, and its timeline shows
when each call ended. -/
theorem deadlines_kept (config : Config) (env : Environment) (s : Session)
    (fits : Fits config env s.now) :
    ∃ result t, run config env s = .ok (result, t) ∧
      t.now.nanos ≤ s.now.nanos + config.timeout.nanos + 2 * config.cleanupTimeout.nanos ∧
      ∀ load, config.loadRequest = .ok load → s.fires env.cancellation = false →
        env.connector.opening = .ok () → ∃ as, Played config load env s.unlogged as t.unlogged ∧
          (∀ a ∈ as, (a.ended, .ended a.step.name a.failure?) ∈ t.timeline) ∧
          config.Keeps env.cancellation s.now as := by
  obtain ⟨as, cs, result, t, ran, ended⟩ := run_of_fits fits
  refine ⟨result, t, ended, ?_, ?_⟩
  · have time := ran.used.time
    rw [← Nat.add_assoc] at time
    exact time
  · intro load valid quiet opens
    obtain ⟨r, f, u, -, shown, exercised⟩ := ran.opened valid quiet opens
    have played : Played config load env s.unlogged (as ++ cs) t.unlogged := shown ▸ exercised.played
    exact ⟨as ++ cs, played, fun a member => List.mem_of_mem_filter (played.timed a member),
      exercised.keeps⟩

/-- A control plane that lets the time of the shared steps pass before the connection is loaded, and
takes too long to terminate. -/
def exhausting : Environment := inMemory
  (((({} : MemoryPlane).behave .version (.delay (.ofSeconds 60))).behave .initiate
    (.delay (.ofSeconds 1))).behave .terminate (.delay (.ofSeconds 60))) 5

theorem deadlines_kept_exhausted :
    ∃ load result t as, run {} exhausting { now := ⟨0⟩ } = .ok (result, t) ∧
      Played {} load exhausting { now := ⟨0⟩ } as t.unlogged ∧ Config.Keeps {} .never ⟨0⟩ as ∧
      failureOf result = some ⟨.initiate, .timedOut "IPsecInitiate" (.ofSeconds 30)⟩ ∧
      t.now = ⟨35000000000⟩ := by
  have fits : Fits {} exhausting ⟨0⟩ := inMemory_fits {} _ 5 (by decide)
  obtain ⟨load, valid⟩ := reference_valid
  obtain ⟨result, t, ended, -, keeps⟩ := deadlines_kept {} exhausting { now := ⟨0⟩ } fits
  obtain ⟨as, played, -, keeps⟩ := keeps load valid rfl rfl
  have observed : shows {} exhausting { now := ⟨0⟩ } (fun result t =>
      failureOf result = some ⟨.initiate, .timedOut "IPsecInitiate" (.ofSeconds 30)⟩ &&
        t.now = ⟨35000000000⟩) = true := by
    decide +kernel
  rw [shows_of_run ended, Bool.and_eq_true, decide_eq_true_eq, decide_eq_true_eq] at observed
  exact ⟨load, result, t, as, ended, played, keeps, observed⟩

end
end Tunnel
end IPsecControl
