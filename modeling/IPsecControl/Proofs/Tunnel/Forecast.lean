import IPsecControl.Proofs.Tunnel.Cleanup
import Mathlib.Data.List.Nodup

/-! When a run succeeds. The course of a run that nobody cancels is foreseen from the answers
alone: each step begins when the one before it ended, and ends with its answer or at the shared
deadline. The run succeeds exactly if what it needs goes well in that forecast. -/
namespace IPsecControl.Tunnel
open Message

section
variable (config : Config) (load : LoadConnRequest) (env : Environment) (guard : Guard)

/-- The attempts at steps under one guard when every failure is passed over. The calls made
before them and the time at which they begin are given. -/
def foresee : List Step → List Call → Instant → List Attempt
  | [], _, _ => []
  | step :: rest, calls, now =>
    match config.reply load env calls step with
    | .error _ => []
    | .ok reply =>
      let arrival := now.afterWait reply.delay
      let ended := arrival.min guard.deadline
      let wake := if arrival ≤ guard.deadline then .answered else .expired
      ⟨step, guard, now, reply, wake, ended⟩ ::
        foresee rest (calls ++ (config.call? load step).toList) ended

variable (calls : List Call) (now : Instant)

/-- What is foreseen of the shared steps of a run that begins them now, after the given calls. -/
def Config.forecast : List Attempt :=
  foresee config load env ⟨now.after config.timeout, config.timeout⟩ sharedSteps calls now

/-- The step is foreseen to succeed. -/
def Config.Succeeds (step : Step) : Prop :=
  ∃ a ∈ config.forecast load env calls now, a.step = step ∧ a.failure? = none

def requiredSteps : List Step := [.loadConn, .initiate, .probe, .rekey]
def listings : List Step := [.listSas, .listConns, .listCerts]

/-- What the shared steps need to go well. -/
structure Smooth : Prop where
  required : ∀ step ∈ requiredSteps, config.Succeeds load env calls now step
  listed :
    if config.advisoryIntrospection then ∃ step ∈ listings, config.Succeeds load env calls now step
    else ∀ step ∈ listings, config.Succeeds load env calls now step

end

/-- What a cleanup after the given calls needs to go well. -/
structure Undone (config : Config) (env : Environment) (calls : List Call) : Prop where
  terminated : config.Prompt
    (env.connector.answer calls .terminate { ike := config.connection })
  unloaded : config.Prompt (env.connector.answer
    (calls ++ [config.termination]) .unloadConn { name := config.connection })

section
variable {config : Config} {load : LoadConnRequest} {env : Environment} {guard : Guard}
variable {s t : Session} {calls : List Call} {now : Instant}
variable {a : Attempt} {as cs : List Attempt} {r r' : Report} {f : Option Failure}

theorem foresee_steps {answer : Reply Probe.Statistics}
    (probed : env.prober config.probeTarget Probe.verificationCount = .ok answer)
    (load : LoadConnRequest) (guard : Guard) (steps : List Step) (calls : List Call) (now : Instant) :
    (foresee config load env guard steps calls now).map (·.step) = steps := by
  induction steps generalizing calls now with
  | nil => rfl
  | cons step rest ih =>
    obtain ⟨reply, replied⟩ := reply_exists config load probed calls step
    simp only [foresee, replied, List.map_cons, ih]

theorem foreseen_step {answer : Reply Probe.Statistics}
    (probed : env.prober config.probeTarget Probe.verificationCount = .ok answer)
    {steps : List Step} (member : a ∈ foresee config load env guard steps calls now) :
    a.step ∈ steps := by
  rw [← foresee_steps probed load guard steps calls now]
  exact List.mem_map_of_mem member

/-- An attempt that is not cancelled is the one that was foreseen. -/
theorem Made.foreseen (made : Made config load env s a t) (guarded : a.guard = guard)
    (ahead : s.now ≤ guard.deadline) (uncancelled : t.cancelled = false) (rest : List Step) :
    foresee config load env guard (a.step :: rest) s.calls s.now =
      a :: foresee config load env guard rest t.calls t.now := by
  subst guarded
  obtain ⟨wake, ended⟩ := made.waited ahead uncancelled
  simp only [foresee, made.replied]
  rw [← made.calls, made.now, ← wake, ← ended, ← made.issued]

/-- A run that goes on is not cancelled. -/
theorem Advance.uncancelled {x y : Stage} (advance : Advance config load env guard x a y) :
    y.session.cancelled = false := by
  rw [advance.made.cancelled]
  refine decide_eq_false fun wake => ?_
  cases advance with
  | succeeded _ _ _ ok =>
    rw [(Attempt.result_ok_iff.mp ok).1] at wake
    contradiction
  | tolerated _ _ _ failed tolerates =>
    rw [Attempt.result, wake] at failed
    cases failed
    contradiction

theorem Advances.foreseen {x y : Stage} (advances : Advances config load env guard x as y)
    (ahead : x.session.now ≤ guard.deadline) :
    foresee config load env guard x.rest x.session.calls x.session.now =
      as ++ foresee config load env guard y.rest y.session.calls y.session.now := by
  induction advances with
  | refl => rfl
  | next earlier last ih =>
    rw [ih, last.rest,
      last.made.foreseen last.guarded (earlier.time ahead) last.uncancelled, List.append_assoc]
    rfl

/-- A stage at which a listing has succeeded. -/
theorem Advances.introspected {x : Stage}
    (advances : Advances config load env guard (config.firstStage s) as x) (member : a ∈ as)
    (listing : a.step.isListing = true) (success : a.failure? = none) :
    x.progress.report.introspected = true := by
  refine List.any_eq_true.mpr ⟨a.step, ?_, listing⟩
  rw [advances.completed]
  exact List.mem_append_right _ (List.mem_flatMap.mpr
    ⟨a, member, Attempt.mem_completes.mpr ⟨rfl, success⟩⟩)

/-- No listing comes after the steps before the probe. -/
theorem unlisted_rest {before rest : List Step} {step : Step}
    (split : before ++ .probe :: rest = sharedSteps) (later : step ∈ .probe :: rest) :
    step.isListing = false := by
  have rest_eq : Step.probe :: rest = [.probe, .rekey] := by
    rw [steps_before split] at split
    exact List.append_cancel_left split
  rw [rest_eq] at later
  cases step <;> revert later <;> decide

/-- The shared steps go on to their end if every foreseen failure is tolerated and a listing is
foreseen to succeed, and only then. All foreseen attempts are then made. -/
theorem Driven.finished {answer : Reply Probe.Statistics}
    (probed : env.prober config.probeTarget Probe.verificationCount = .ok answer)
    (driven : Driven config load env s as r f t) (uncancelled : t.cancelled = false) :
    (f = none ↔ (∀ a ∈ config.forecast load env s.calls s.now, a.Kept config) ∧
        ∃ a ∈ config.forecast load env s.calls s.now, a.step.isListing = true ∧ a.failure? = none) ∧
      (f = none → as = config.forecast load env s.calls s.now) := by
  obtain ⟨bs, last, x, rfl, advances, stops⟩ := driven
  have ahead : s.now ≤ (config.sharedGuard s).deadline := Nat.le_add_right _ _
  have foreseen : config.forecast load env s.calls s.now =
      bs ++ foresee config load env (config.sharedGuard s) x.rest x.session.calls x.session.now :=
    advances.foreseen ahead
  have steps : bs.map (·.step) ++ x.rest = sharedSteps := advances.steps
  rw [foreseen]
  cases stops with
  | finished =>
    rw [foresee, List.append_nil]
    rw [List.append_nil] at steps
    have listed := advances.listed (by rw [steps]; decide)
    exact ⟨iff_of_true rfl ⟨advances.kept, listed⟩, fun _ => List.append_nil _⟩
  | barred bar =>
    refine ⟨iff_of_false (by simp) ?_, by simp⟩
    rintro ⟨-, a, member, listing, success⟩
    obtain ⟨rfl, -, unlisted⟩ := Progress.begin?_error bar
    rcases List.mem_append.mp member with made | left
    · have listed := advances.introspected made listing success
      rw [unlisted] at listed
      contradiction
    · rw [unlisted_rest steps (foreseen_step probed left)] at listing
      contradiction
  | forgone _ fires => exact absurd uncancelled (by simp [Session.looked, fires])
  | @failed a rest _ _ u _ e guarded _ made failed fatal =>
    refine ⟨iff_of_false (by simp) ?_, by simp⟩
    rintro ⟨kept, -⟩
    have tolerated := kept a (by
      rw [made.foreseen guarded (advances.time ahead) uncancelled rest]
      simp) e (Attempt.failure?_error failed)
    rw [fatal] at tolerated
    contradiction

section
variable {answer : Reply Probe.Statistics}
variable (probed : env.prober config.probeTarget Probe.verificationCount = .ok answer)
include probed

theorem forecast_steps (calls : List Call) (now : Instant) :
    (config.forecast load env calls now).map (·.step) = sharedSteps :=
  foresee_steps probed load _ sharedSteps calls now

/-- A foreseen attempt succeeds if its step does. -/
theorem succeeds_iff (member : a ∈ config.forecast load env calls now) :
    config.Succeeds load env calls now a.step ↔ a.failure? = none := by
  constructor
  · rintro ⟨b, other, same, success⟩
    have distinct : ((config.forecast load env calls now).map (·.step)).Nodup := by
      rw [forecast_steps probed]
      decide
    rw [← List.inj_on_of_nodup_map distinct other member same]
    exact success
  · exact fun success => ⟨a, member, rfl, success⟩

theorem foreseen_of_shared (load : LoadConnRequest) (calls : List Call) (now : Instant)
    {step : Step} (shared : step ∈ sharedSteps) :
    ∃ a ∈ config.forecast load env calls now, a.step = step := by
  rw [← forecast_steps probed calls now] at shared
  exact List.mem_map.mp shared

end

theorem mem_listings {step : Step} : step ∈ listings ↔ step.isListing = true := by
  cases step <;> decide

theorem shared_kinds {step : Step} (shared : step ∈ sharedSteps) :
    step.isAdvisory = true ∨ step.isListing = true ∨ step ∈ requiredSteps := by
  cases step <;> revert shared <;> decide

theorem required_kind {step : Step} (required : step ∈ requiredSteps) :
    step ∈ sharedSteps ∧ step.isAdvisory = false ∧ step.isListing = false := by
  cases step <;> revert required <;> decide

theorem foreseen_replied {steps : List Step} {calls : List Call} {now : Instant}
    (member : a ∈ foresee config load env guard steps calls now) :
    a.wake ≠ .cancelled ∧ ∃ calls, config.reply load env calls a.step = .ok a.reply := by
  induction steps generalizing calls now with
  | nil => contradiction
  | cons step rest ih =>
    cases replied : config.reply load env calls step with
    | error cause => simp [foresee, replied] at member
    | ok reply =>
      simp only [foresee, replied, List.mem_cons] at member
      rcases member with rfl | later
      · refine ⟨?_, calls, replied⟩
        dsimp only
        split <;> simp
      · exact ih later

section
variable (plain : ∀ calls rpc request e,
  (env.connector.answer calls rpc request).outcome = .error e → e.isCancelled = false)
include plain

theorem reply_not_cancelled {calls : List Call} {step : Step} {reply : Reply step.Outcome}
    (replied : config.reply load env calls step = .ok reply) (called : step ≠ .probe) {e : Error}
    (failed : reply.outcome = .error e) : e.isCancelled = false := by
  cases step
  case probe => contradiction
  case connect =>
    cases replied
    contradiction
  all_goals
    cases replied
    exact plain _ _ _ _ failed

/-- The failure of an attempt that was not cancelled is that of an answer, or of the deadline. -/
theorem failure_not_cancelled {calls : List Call}
    (replied : config.reply load env calls a.step = .ok a.reply) (going : a.wake ≠ .cancelled)
    (called : a.step ≠ .probe) {e : Error} (failed : a.failure? = some e) : e.isCancelled = false := by
  cases wake : a.wake with
  | answered =>
    refine reply_not_cancelled plain replied called ?_
    cases outcome : a.reply.outcome with
    | ok value =>
      rw [Attempt.failure?_ok (Attempt.result_ok_iff.mpr ⟨wake, outcome⟩)] at failed
      contradiction
    | error e' =>
      simp only [Attempt.failure?, Attempt.result, wake, Guard.outcome, outcome, Guard.failure?,
        Option.some.injEq] at failed
      rw [failed]
  | expired =>
    simp only [Attempt.failure?, Attempt.result, wake, Guard.outcome, Guard.failure?,
      Option.some.injEq] at failed
    rw [← failed]
    rfl
  | cancelled => contradiction

theorem foreseen_not_cancelled (member : a ∈ config.forecast load env calls now)
    (called : a.step ≠ .probe) {e : Error} (failed : a.failure? = some e) : e.isCancelled = false := by
  obtain ⟨going, calls, replied⟩ := foreseen_replied member
  exact failure_not_cancelled plain replied going called failed

end

/-- The shared steps need no more than that every failure is tolerated and a listing succeeds. -/
theorem smooth_iff {answer : Reply Probe.Statistics}
    (probed : env.prober config.probeTarget Probe.verificationCount = .ok answer)
    (plain : ∀ calls rpc request e,
      (env.connector.answer calls rpc request).outcome = .error e → e.isCancelled = false) :
    Smooth config load env calls now ↔ (∀ a ∈ config.forecast load env calls now, a.Kept config) ∧
      ∃ a ∈ config.forecast load env calls now, a.step.isListing = true ∧ a.failure? = none := by
  constructor
  · rintro ⟨required, listed⟩
    refine ⟨?_, ?_⟩
    · intro a member e failed
      have unsuccessful : ¬ config.Succeeds load env calls now a.step := by
        rw [succeeds_iff probed member, failed]
        simp
      have shared : a.step ∈ sharedSteps := foreseen_step probed member
      have tolerable : a.step ≠ .probe → e.isCancelled = false := fun called =>
        foreseen_not_cancelled plain member called failed
      rcases shared_kinds shared with advisory | listing | needed
      · have called : a.step ≠ .probe := by rintro probe; simp [probe, Step.isAdvisory] at advisory
        simp [Config.tolerates, tolerable called, advisory]
      · have called : a.step ≠ .probe := by rintro probe; simp [probe, Step.isListing] at listing
        cases advisory : config.advisoryIntrospection with
        | true => simp [Config.tolerates, tolerable called, listing, advisory]
        | false =>
          simp only [advisory, Bool.false_eq_true, if_false] at listed
          exact absurd (listed _ (mem_listings.mpr listing)) unsuccessful
      · exact absurd (required _ needed) unsuccessful
    · have some : ∃ step ∈ listings, config.Succeeds load env calls now step := by
        split at listed
        · exact listed
        · exact ⟨.listSas, by decide, listed _ (by decide)⟩
      obtain ⟨step, listing, a, member, rfl, success⟩ := some
      exact ⟨a, member, mem_listings.mp listing, success⟩
  · rintro ⟨kept, a, member, listing, success⟩
    have strict : ∀ step ∈ sharedSteps, (∀ e, config.tolerates ⟨step, e⟩ = false) →
        config.Succeeds load env calls now step := by
      intro step shared strict
      obtain ⟨a, member, rfl⟩ := foreseen_of_shared probed load calls now shared
      refine ⟨a, member, rfl, ?_⟩
      cases failed : a.failure? with
      | none => rfl
      | some e => exact absurd (kept a member e failed) (by simp [strict e])
    refine ⟨?_, ?_⟩
    · intro step required
      obtain ⟨shared, acting, unlisting⟩ := required_kind required
      exact strict step shared fun e => by simp [Config.tolerates, acting, unlisting]
    · split
      · exact ⟨a.step, mem_listings.mpr listing, a, member, rfl, success⟩
      next advisory =>
        intro step listing
        have kinds : step ∈ sharedSteps ∧ step.isAdvisory = false := by
          cases step <;> revert listing <;> decide
        exact strict step kinds.1 fun e => by simp [Config.tolerates, kinds.2, advisory]

/-- The report of a cleanup that succeeded. -/
theorem TornDown.unloaded (torn : TornDown config load env cleanupSteps r s cs r' none t) :
    r'.state = .unloaded ∧ r'.cleanupFailures = r.cleanupFailures ∧ r'.warnings = r.warnings := by
  obtain ⟨-, -, f, -⟩ | ⟨a, u, terminates, -, -, ended⟩ := torn.first
  · contradiction
  obtain ⟨outcome, bs, -, rfl, later⟩ | ⟨e, -, -, -, f, -⟩ := ended
  · obtain ⟨-, -, f, -⟩ | ⟨b, v, unloads, -, -, ended⟩ := later.first
    · contradiction
    obtain ⟨outcome', ds, -, rfl, finished⟩ | ⟨e, -, -, -, f, -⟩ := ended
    · obtain ⟨-, rfl, -, -⟩ := finished.last
      have quiet : a.step ≠ .listSas ∧ b.step ≠ .listSas := by
        rw [terminates, unloads]
        decide
      refine ⟨?_, ?_, ?_⟩
      · rw [Report.succeed_state, unloads]
        rfl
      · simp
      · simp [Report.successWarnings_of_ne quiet.1, Report.successWarnings_of_ne quiet.2]
    · contradiction
  · contradiction

theorem TornDown.undone (torn : TornDown config load env cleanupSteps r s cs r' f t)
    (uncancelled : t.cancelled = false) : f = none ↔ Undone config env s.calls := by
  obtain ⟨a, later, -, -, prompt, rest⟩ := torn.attempts uncancelled
  by_cases succeeded : a.failure? = none
  · rw [if_pos succeeded] at rest
    obtain ⟨b, -, -, finished, prompt'⟩ := rest
    rw [finished, prompt']
    exact ⟨fun unloads => ⟨prompt.mp succeeded, unloads⟩, fun undone => undone.unloaded⟩
  · rw [if_neg succeeded] at rest
    exact iff_of_false rest.2 fun undone => succeeded (prompt.mpr undone.terminated)

/-- What a run does with its client succeeds exactly if the forecast is smooth and the cleanup
goes well, and its report then shows nothing but what was foreseen. -/
theorem Exercised.smooth {answer : Reply Probe.Statistics}
    (probed : env.prober config.probeTarget Probe.verificationCount = .ok answer)
    (plain : ∀ calls rpc request e,
      (env.connector.answer calls rpc request).outcome = .error e → e.isCancelled = false)
    (exercised : Exercised config load env s as cs r f t) (uncancelled : t.cancelled = false) :
    (f = none ↔ Smooth config load env s.calls s.now ∧
        Undone config env (s.calls ++ sharedSteps.filterMap (config.call? load))) ∧
      (f = none → r.state = .unloaded ∧ r.cleanupFailures = [] ∧
        r.warnings =
          (config.forecast load env s.calls s.now).flatMap (·.warnings config.connection)) := by
  have smooth : Smooth config load env s.calls s.now ↔ _ := smooth_iff probed plain
  cases exercised with
  | abandoned driven early =>
    have finished := (driven.finished probed uncancelled).1
    rw [← smooth] at finished
    exact ⟨iff_of_false (by simp) fun both => absurd (finished.mpr both.1) (by simp), by simp⟩
  | @cleanedUp u _ _ _ q _ f f' driven late cleaned =>
    cases cleaned with
    | left fires => exact absurd uncancelled (by simp [Session.looked, fires])
    | tornDown quiet torn =>
      have going : u.cancelled = false := (Bool.or_eq_false_iff.mp quiet).1
      obtain ⟨finished, made⟩ := driven.finished probed going
      rw [← smooth] at finished
      cases f with
      | some f =>
        exact ⟨iff_of_false (by simp) fun both => absurd (finished.mpr both.1) (by simp), by simp⟩
      | none =>
        have whole := made rfl
        have calls : (u.looked env.cancellation).calls =
            s.calls ++ sharedSteps.filterMap (config.call? load) := by
          rw [Session.looked_calls, driven.calls, whole, forecast_steps probed]
        have undone := torn.undone uncancelled
        rw [calls] at undone
        rw [Option.none_or]
        refine ⟨undone.trans (and_iff_right (finished.mp rfl)).symm, ?_⟩
        rintro rfl
        obtain ⟨-, warnings, failures⟩ := driven.report
        obtain ⟨state, failures', warnings'⟩ := torn.unloaded
        rw [failures', warnings', failures, warnings, whole]
        exact ⟨state, rfl, rfl⟩

theorem Ran.smooth {answer : Reply Probe.Statistics} {result : Except Aborted Report}
    (probed : env.prober config.probeTarget Probe.verificationCount = .ok answer)
    (plain : ∀ calls rpc request e,
      (env.connector.answer calls rpc request).outcome = .error e → e.isCancelled = false)
    (ran : Ran config env s as cs result t) (uncancelled : t.cancelled = false) :
    ((∃ report, result = .ok report) ↔ ∃ load, config.loadRequest = .ok load ∧
        env.connector.opening = .ok () ∧ Smooth config load env s.calls s.now ∧
        Undone config env (s.calls ++ sharedSteps.filterMap (config.call? load))) ∧
      ∀ load report, config.loadRequest = .ok load → result = .ok report →
        report.state = .unloaded ∧ report.cleanupFailures = [] ∧
          report.warnings =
            (config.forecast load env s.calls s.now).flatMap (·.warnings config.connection) := by
  cases ran with
  | invalid invalid =>
    refine ⟨iff_of_false (by simp) ?_, by simp⟩
    rintro ⟨load, valid, -⟩
    rw [invalid] at valid
    contradiction
  | forgone _ fires => exact absurd uncancelled (by simp [Session.looked, fires])
  | refused _ _ refused =>
    refine ⟨iff_of_false (by simp) ?_, by simp⟩
    rintro ⟨load, -, opens, -⟩
    rw [refused] at opens
    contradiction
  | @exercised _ load _ _ r f valid quiet opens exercised =>
    obtain ⟨smooth, report⟩ := exercised.smooth probed plain uncancelled
    rw [Session.record_opened_calls, Session.looked_calls] at smooth report
    cases f with
    | none =>
      refine ⟨iff_of_true ⟨r, rfl⟩ ⟨load, valid, opens, smooth.mp rfl⟩, ?_⟩
      intro load' _ valid' same
      rw [valid] at valid'
      cases valid'
      cases same
      exact report rfl
    | some f =>
      refine ⟨iff_of_false (by simp [conclude]) ?_, by simp [conclude]⟩
      rintro ⟨load', valid', -, both⟩
      rw [valid] at valid'
      cases valid'
      exact absurd (smooth.mpr both) (by simp)

/-- A run that is not cancelled succeeds exactly if its connection is valid, a client can be
opened, and both its shared steps and its cleanup are foreseen to go well. It then leaves nothing
behind, and its warnings are those of the foreseen attempts, in their order. -/
theorem succeeds_iff_foreseen (config : Config) (env : Environment) (s : Session)
    (fits : Fits config env s.now)
    (plain : ∀ calls rpc request e,
      (env.connector.answer calls rpc request).outcome = .error e → e.isCancelled = false) :
    ∃ result t, run config env s = .ok (result, t) ∧ (t.cancelled = false →
      ((∃ report, result = .ok report) ↔ ∃ load, config.loadRequest = .ok load ∧
        env.connector.opening = .ok () ∧ Smooth config load env s.calls s.now ∧
        Undone config env (s.calls ++ sharedSteps.filterMap (config.call? load))) ∧
      ∀ load report, config.loadRequest = .ok load → result = .ok report →
        report.state = .unloaded ∧ report.cleanupFailures = [] ∧ report.warnings =
          (config.forecast load env s.calls s.now).flatMap (·.warnings config.connection)) := by
  obtain ⟨as, cs, result, t, ran, ended⟩ := run_of_fits fits
  obtain ⟨-, answer, probed⟩ := fits
  have smooth := ran.smooth probed plain
  rw [s.calls_unlogged, s.unlogged_now, t.unlogged_cancelled] at smooth
  exact ⟨result, t, ended, smooth⟩

theorem inMemory_plain (plane : MemoryPlane) (most : Nat) (calls : List Call) (rpc : Rpc)
    (request : rpc.Request) (e : Error)
    (failed : ((inMemory plane most).connector.answer calls rpc request).outcome = .error e) :
    e.isCancelled = false := by
  simp only [inMemory, MemoryPlane.connector, MemoryPlane.answer] at failed
  split at failed <;> cases failed <;> rfl

/-- A control plane that refuses to tell its status. -/
def withoutStatus : Environment :=
  inMemory (({} : MemoryPlane).behave .stats (.reject .permissionDenied "no")) 5

theorem succeeds_iff_foreseen_without_status :
    ∃ load report t, run {} withoutStatus { now := ⟨0⟩ } = .ok (.ok report, t) ∧
      Smooth {} load withoutStatus [] ⟨0⟩ ∧ report.warnings =
        (Config.forecast {} load withoutStatus [] ⟨0⟩).flatMap (·.warnings "opi-test") := by
  have fits : Fits {} withoutStatus ⟨0⟩ := inMemory_fits {} _ 5 (by decide)
  obtain ⟨result, t, ended, course⟩ :=
    succeeds_iff_foreseen {} withoutStatus { now := ⟨0⟩ } fits (inMemory_plain _ 5)
  have observed : shows {} withoutStatus { now := ⟨0⟩ }
      (fun result t => !t.cancelled && result.isOk) = true := by
    decide +kernel
  rw [shows_of_run ended] at observed
  simp only [Bool.and_eq_true, Bool.not_eq_true'] at observed
  obtain ⟨succeeds, reports⟩ := course observed.1
  cases result with
  | error aborted => simp [Except.isOk, Except.toBool] at observed
  | ok report =>
    obtain ⟨load, valid, -, smooth, -⟩ := succeeds.mp ⟨report, rfl⟩
    exact ⟨load, report, t, ended, smooth, (reports load report valid rfl).2.2⟩

end
end IPsecControl.Tunnel
