import IPsecControl.Control.MemoryPlane
import IPsecControl.Proofs.Tunnel.Course

/-! Every run that comes to an end has a course, and it comes to an end if its durations fit the
clock. The deadlines bound the time at which the next guard is set, so that no guard overflows. -/
namespace IPsecControl.Tunnel
open Message

section
variable (config : Config) (env : Environment)

/-- The durations of a run are small enough for the clock, its prober's included. -/
structure Fits (start : Instant) : Prop where
  clock : start.nanos + config.timeout.nanos + 2 * config.cleanupTimeout.nanos ≤ Instant.latest.nanos
  prober : ∃ reply, env.prober config.probeTarget Probe.verificationCount = .ok reply

/-- A control plane in memory, and targets that answer at most the given number of requests. -/
def inMemory (plane : MemoryPlane) (most : Nat) : Environment where
  connector := plane.connector
  prober := Probe.canned most

theorem inMemory_fits (plane : MemoryPlane) (most : Nat) {start : Instant}
    (clock : start.nanos + config.timeout.nanos + 2 * config.cleanupTimeout.nanos ≤
      Instant.latest.nanos) : Fits config (inMemory plane most) start :=
  ⟨clock, _, rfl⟩

end

section
variable {config : Config} {load : LoadConnRequest} {env : Environment} {guard : Guard}

theorem not_tolerates_cancelled (config : Config) (step : Step) (operation : String) :
    config.tolerates ⟨step, .cancelled operation⟩ = false := rfl

variable (load guard) in
theorem drive_ends (x : Stage) :
    Run.Ends env (drive config load guard x.rest x.progress) x.session
      (fun (r, f) t => ∃ as last y, Advances config load env guard x as y ∧
        Stops config load env guard y last r f t)
      (∃ reply, env.prober config.probeTarget Probe.verificationCount = .ok reply) := by
  obtain ⟨steps, p, s⟩ := x
  induction steps generalizing p s with
  | nil => exact .acts (Run.Acts.pure _) ⟨[], none, _, .refl, .finished⟩
  | cons step rest ih =>
    dsimp only at ih ⊢
    cases begun : p.begin? step with
    | error f =>
      simp only [drive, begun]
      exact .acts (Run.Acts.pure _) ⟨[], none, _, .refl, .barred begun⟩
    | ok q =>
      simp only [drive, begun]
      refine .after (Run.Acts.logAll _) ?_
      by_cases fires : s.fires env.cancellation = true
      · refine .after (Guard.run_forgone fires) ?_
        simp only [not_tolerates_cancelled, Bool.false_eq_true, if_false]
        exact .acts (Run.Acts.pure _) ⟨[], none, _, .refl, .forgone begun fires⟩
      · refine (run_ends guard step (Bool.eq_false_iff.mpr fires)).bind ?_
        rintro _ t ⟨reply, wake, ended, made, rfl⟩
        cases result : guard.outcome step.name reply wake with
        | ok outcome =>
          have first : Advance config load env guard ⟨step :: rest, p, s⟩ _ _ :=
            .succeeded rfl begun made result
          refine .after (Run.Acts.logAll _) ((ih (q.succeed step outcome) t).mono ?_ id)
          rintro _ _ ⟨as, last, y, advanced, stopped⟩
          exact ⟨_, last, y, advanced.head first, stopped⟩
        | error e =>
          by_cases tolerates : config.tolerates ⟨step, e⟩ = true
          · have first : Advance config load env guard ⟨step :: rest, p, s⟩ _ _ :=
              .tolerated rfl begun made result tolerates
            simp only [tolerates, if_true]
            refine .after (Run.Acts.log _) ((ih (q.tolerate ⟨step, e⟩) t).mono ?_ id)
            rintro _ _ ⟨as, last, y, advanced, stopped⟩
            exact ⟨_, last, y, advanced.head first, stopped⟩
          · have fatal := Bool.eq_false_iff.mpr tolerates
            simp only [fatal, Bool.false_eq_true, if_false]
            exact .acts (Run.Acts.pure _) ⟨[], _, _, .refl, .failed rfl begun made result fatal⟩

variable (load) in
theorem tearDown_ends (steps : List Step) (r : Report) (s : Session) :
    Run.Ends env (tearDown config load steps r) s
      (fun (r', f) t => ∃ as, TornDown config load env steps r s as r' f t)
      ((∃ reply, env.prober config.probeTarget Probe.verificationCount = .ok reply) ∧
        s.now.nanos + steps.length * config.cleanupTimeout.nanos ≤ Instant.latest.nanos) := by
  induction steps generalizing r s with
  | nil => exact .acts (Run.Acts.pure _) ⟨[], .finished⟩
  | cons step rest ih =>
    simp only [tearDown, List.length_cons, Nat.add_mul, Nat.one_mul]
    have starts := Guard.start_ends env s config.cleanupTimeout
    refine (starts.mono (fun _ _ => id) fun fits => ?_).bind ?_
    · simp only [Instant.le_iff, Instant.after_nanos]
      omega
    rintro _ _ ⟨rfl, rfl⟩
    by_cases fires : s.fires env.cancellation = true
    · refine .after (Guard.run_forgone fires) ?_
      exact .acts ((Run.Acts.log _).bind (Run.Acts.pure _)) ⟨[], .forgone fires⟩
    · refine ((run_ends _ step (Bool.eq_false_iff.mpr fires)).mono (fun _ _ => id) And.left).bind ?_
      rintro _ t ⟨reply, wake, ended, made, rfl⟩
      cases result : Guard.outcome ⟨s.now.after config.cleanupTimeout, config.cleanupTimeout⟩
          step.name reply wake with
      | ok outcome =>
        -- The next guard is set by the deadline of this one.
        have time := made.time (Nat.le_add_right _ _)
        simp only [Instant.le_iff, Instant.after_nanos] at time
        refine .after (Run.Acts.logAll _) ((ih (r.succeed step outcome) t).mono ?_ ?_)
        · rintro _ _ ⟨as, torn⟩
          exact ⟨_, .succeeded rfl made result torn⟩
        · exact fun fits => ⟨fits.1, by omega⟩
      | error e =>
        exact .acts ((Run.Acts.log _).bind (Run.Acts.pure _)) ⟨_, .failed rfl made result⟩

variable (load) in
theorem cleanup_ends (r : Report) (s : Session) :
    Run.Ends env (cleanup config load r) s
      (fun (r', f) t => ∃ as, CleanedUp config load env r s as r' f t)
      ((∃ reply, env.prober config.probeTarget Probe.verificationCount = .ok reply) ∧
        s.now.nanos + 2 * config.cleanupTimeout.nanos ≤ Instant.latest.nanos) := by
  refine .after Run.Acts.look ?_
  by_cases fires : s.fires env.cancellation = true
  · simp only [fires, if_true]
    exact .acts ((Run.Acts.log _).bind (Run.Acts.pure _)) ⟨[], .left fires⟩
  · have quiet := Bool.eq_false_iff.mpr fires
    simp only [quiet, Bool.false_eq_true, if_false]
    refine (tearDown_ends load cleanupSteps r (s.looked env.cancellation)).mono ?_ id
    rintro _ _ ⟨as, torn⟩
    exact ⟨as, .tornDown quiet torn⟩

variable (load) in
theorem exercise_ends (s : Session) :
    Run.Ends env (exercise config load) s
      (fun (r, f) t => ∃ as cs, Exercised config load env s as cs r f t) (Fits config env s.now) := by
  have starts := Guard.start_ends env s config.timeout
  refine (starts.mono (fun _ _ => id) fun fits => ?_).bind ?_
  · have clock := fits.clock
    simp only [Instant.le_iff, Instant.after_nanos]
    omega
  rintro _ _ ⟨rfl, rfl⟩
  refine ((drive_ends load (config.sharedGuard s) (config.firstStage s)).mono
    (fun _ _ => id) Fits.prober).bind ?_
  rintro ⟨r, f⟩ t ⟨bs, last, x, advances, stops⟩
  have driven : Driven config load env s _ r f t := ⟨bs, last, x, rfl, advances, stops⟩
  have time := driven.time
  simp only [Instant.le_iff, Instant.after_nanos] at time
  by_cases early : f.any (·.step.precedesNegotiation) = true
  · obtain ⟨f, rfl, precedes⟩ := (Option.any_eq_true _ _).mp early
    simp only [early, if_true]
    exact .acts (Run.Acts.pure _) ⟨_, [], .abandoned driven precedes⟩
  · have late := Bool.eq_false_iff.mpr early
    simp only [late, Bool.false_eq_true, if_false]
    refine ((cleanup_ends load r t).mono (fun _ _ => id) fun fits => ?_).bind ?_
    · have clock := fits.clock
      exact ⟨fits.prober, by omega⟩
    · rintro ⟨r', f'⟩ u ⟨cs, cleaned⟩
      exact .acts (Run.Acts.pure _) ⟨_, cs, .cleanedUp driven late cleaned⟩

theorem connect_forgone {s : Session} (fires : s.fires env.cancellation = true) :
    Run.Acts env connect s (.error (.cancelled Step.connect.name)) (s.looked env.cancellation) := by
  refine Run.Acts.look.bind ?_
  simp only [fires, if_true]
  exact Run.Acts.pure _

theorem connect_acts {s t : Session} {result : Result Unit} (quiet : s.fires env.cancellation = false)
    (acted : Run.Acts env Run.openClient (s.looked env.cancellation) result t) :
    Run.Acts env connect s result t := by
  refine Run.Acts.look.bind ?_
  simp only [quiet, Bool.false_eq_true, if_false]
  exact acted

/-- A run has a course, unless its durations do not fit the clock and it comes to no end. -/
theorem run_ends_ran (config : Config) (env : Environment) (s : Session) :
    Run.Ends env (run config) s (fun result t => ∃ as cs, Ran config env s as cs result t)
      (Fits config env s.now) := by
  unfold run
  cases valid : config.loadRequest with
  | error e => exact .acts (Run.Acts.pure _) ⟨[], [], .invalid valid⟩
  | ok load =>
    by_cases fires : s.fires env.cancellation = true
    · refine .after (connect_forgone fires) ?_
      exact .acts ((Run.Acts.log _).bind (Run.Acts.pure _)) ⟨[], [], .forgone valid fires⟩
    · have quiet := Bool.eq_false_iff.mpr fires
      cases opens : env.connector.opening with
      | error e =>
        refine .after (connect_acts quiet (Run.openClient_refused opens)) ?_
        exact .acts ((Run.Acts.log _).bind (Run.Acts.pure _)) ⟨[], [], .refused valid quiet opens⟩
      | ok _ =>
        refine .after (connect_acts quiet (Run.openClient_acts opens)) ?_
        refine .after (Run.Acts.log _) ?_
        refine (exercise_ends load ((s.looked env.cancellation).record .opened)).bind ?_
        rintro ⟨r, f⟩ t ⟨as, cs, exercised⟩
        refine .after Run.closeClient_acts ?_
        have ran := Ran.exercised valid quiet opens exercised
        cases f with
        | none => exact .acts ((Run.Acts.log _).bind (Run.Acts.pure _)) ⟨as, cs, ran⟩
        | some f => exact .acts ((Run.Acts.log _).bind (Run.Acts.pure _)) ⟨as, cs, ran⟩

/-- Every run whose durations fit the clock comes to an end, and it has a course. -/
theorem run_acts {s : Session} (fits : Fits config env s.now) :
    ∃ as cs result t, Ran config env s as cs result t ∧ Run.Acts env (run config) s result t := by
  obtain ⟨result, t, acts, as, cs, ran⟩ := (run_ends_ran config env s).of_fits fits
  exact ⟨as, cs, result, t, ran, acts⟩

/-- A run that came to an end has a course. -/
theorem ran_of_run {s t : Session} {result : Except Aborted Report}
    (ended : run config env s = .ok (result, t)) :
    ∃ as cs, Ran config env s.unlogged as cs result t.unlogged :=
  (run_ends_ran config env s.unlogged).way ended

theorem run_of_fits {s : Session} (fits : Fits config env s.now) :
    ∃ as cs result t, Ran config env s.unlogged as cs result t.unlogged ∧ run config env s = .ok (result, t) := by
  obtain ⟨as, cs, result, _, ran, acts⟩ := run_acts (s := s.unlogged) fits
  obtain ⟨t, ended, rfl⟩ := acts.run
  exact ⟨as, cs, result, t, ran, ended⟩

theorem run_returns {s : Session} (fits : Fits config env s.now) :
    ∃ result t, run config env s = .ok (result, t) := by
  obtain ⟨-, -, result, t, -, ended⟩ := run_of_fits fits
  exact ⟨result, t, ended⟩

/-- A run that nobody cancels comes to an end that is not one by cancellation. -/
theorem run_uncancelled {s : Session} (fits : Fits config env s.now)
    (never : env.cancellation = .never) (fresh : s.cancelled = false) :
    ∃ result t, run config env s = .ok (result, t) ∧ t.cancelled = false := by
  obtain ⟨as, cs, result, t, ran, ended⟩ := run_of_fits fits
  exact ⟨result, t, ended, ran.uncancelled never fresh⟩

/-- What the result of a run and its session show, found by evaluating the run. -/
def shows (config : Config) (env : Environment) (s : Session)
    (seen : Except Aborted Report → Session → Bool) : Bool :=
  (run config env s).toOption.any fun (result, t) => seen result t

theorem shows_of_run {s t : Session} {seen : Except Aborted Report → Session → Bool}
    {result : Except Aborted Report} (ended : run config env s = .ok (result, t)) :
    shows config env s seen = seen result t := by
  rw [shows, ended]
  rfl

theorem run_of_shows {s : Session} {seen : Except Aborted Report → Session → Bool}
    (observed : shows config env s seen = true) :
    ∃ result t, run config env s = .ok (result, t) ∧ seen result t = true := by
  cases ended : run config env s with
  | error h => simp [shows, ended, Except.toOption] at observed
  | ok x => exact ⟨x.1, x.2, rfl, (shows_of_run ended).symm.trans observed⟩

end
end IPsecControl.Tunnel
