import IPsecControl.Proofs.Tunnel.CallOrder

/-! The cleanup of a run that was not cancelled. Whatever became of the shared steps, a run that
negotiated terminates, and unloads if that succeeded. Each of the two has the cleanup's own time,
counted from its own call. -/
namespace IPsecControl.Tunnel
open Message

section
variable (config : Config)

def Config.termination : Call := ⟨.terminate, { ike := config.connection }⟩

def Config.unloading : Call := ⟨.unloadConn, { name := config.connection }⟩

/-- The answer is a success and takes no longer than a cleanup call may take. No answer is waited
for longer than the longest wait. -/
def Config.Prompt {α : Type} (reply : Reply α) : Prop :=
  (∃ value, reply.outcome = .ok value) ∧
    (reply.delay.min Instant.longestWait).nanos ≤ config.cleanupTimeout.nanos

def reportOf : Except Aborted Report → Report
  | .ok r => r
  | .error a => a.report

@[simp] theorem reportOf_conclude (r : Report) (f : Option Failure) : reportOf (conclude r f) = r := by
  cases f <;> rfl

end

section
variable {config : Config} {load : LoadConnRequest} {env : Environment} {s t : Session}
variable {a : Attempt} {as cs : List Attempt} {r r' : Report} {f : Option Failure}

namespace Made

/-- An attempt of a run that is not cancelled ends with its answer or at its deadline, whichever
comes first. -/
theorem waited (made : Made config load env s a t) (ahead : s.now ≤ a.guard.deadline)
    (uncancelled : t.cancelled = false) :
    a.wake = (if s.now.afterWait a.reply.delay ≤ a.guard.deadline then .answered else .expired) ∧
      a.ended = (s.now.afterWait a.reply.delay).min a.guard.deadline := by
  obtain ⟨wake, time, met⟩ | ⟨wake, time, late⟩ | ⟨wake, -⟩ := Run.wakeAt_cases made.ends ahead
  · simp [Instant.min, met, wake, time]
  · have missed : ¬ s.now.afterWait a.reply.delay ≤ a.guard.deadline := Nat.not_le_of_lt late
    simp [Instant.min, missed, wake, time]
  · rw [made.cancelled, wake] at uncancelled
    contradiction

/-- An attempt of a run that is not cancelled succeeds when its answer is a success that arrives
by the deadline. -/
theorem success (made : Made config load env s a t) (ahead : s.now ≤ a.guard.deadline)
    (uncancelled : t.cancelled = false) :
    (∃ outcome, a.result = .ok outcome) ↔
      (∃ outcome, a.reply.outcome = .ok outcome) ∧
        s.now.afterWait a.reply.delay ≤ a.guard.deadline := by
  have answered : a.wake = .answered ↔ s.now.afterWait a.reply.delay ≤ a.guard.deadline := by
    rw [(made.waited ahead uncancelled).1]
    split <;> simp [*]
  simp only [Attempt.result_ok_iff, answered, exists_and_left, and_comm]

/-- A cleanup call succeeds when its answer is prompt. -/
theorem prompt (made : Made config load env s a t)
    (guarded : a.guard = ⟨s.now.after config.cleanupTimeout, config.cleanupTimeout⟩)
    (uncancelled : t.cancelled = false) {call : Call} (called : config.call? load a.step = some call) :
    a.failure? = none ↔ config.Prompt (env.connector.answer s.calls call.rpc call.request) := by
  have ahead : s.now ≤ a.guard.deadline := by
    rw [guarded]
    exact Nat.le_add_right _ _
  obtain ⟨delay, outcome⟩ := reply_of_call called made.replied
  have arrives : s.now.afterWait a.reply.delay ≤ a.guard.deadline ↔
      (a.reply.delay.min Instant.longestWait).nanos ≤ config.cleanupTimeout.nanos := by
    rw [guarded]
    exact Nat.add_le_add_iff_left
  rw [Attempt.failure?_eq_none, made.success ahead uncancelled, arrives, outcome, delay, Config.Prompt]

end Made

/-- A cleanup that is not cancelled attempts its first step, and goes on if that succeeds. -/
theorem TornDown.next {step : Step} {rest : List Step}
    (torn : TornDown config load env (step :: rest) r s cs r' f t) (uncancelled : t.cancelled = false) :
    ∃ a u bs, a.step = step ∧ a.guard = ⟨s.now.after config.cleanupTimeout, config.cleanupTimeout⟩ ∧
      Made config load env s a u ∧ u.cancelled = false ∧ cs = a :: bs ∧
      ((∃ outcome, a.result = .ok outcome ∧
          TornDown config load env rest (r.succeed a.step outcome) u bs r' f t) ∨
        ∃ e, a.result = .error e ∧ bs = [] ∧ r' = r.failCleanup ⟨a.step, e⟩ ∧
          f = some ⟨a.step, e⟩ ∧ t = u) := by
  obtain ⟨fires, -, -, rfl⟩ | ⟨a, u, same, guarded, made, ended⟩ := torn.first
  · exact absurd uncancelled (by simp [Session.looked, fires])
  obtain ⟨outcome, bs, ok, rfl, later⟩ | ⟨e, failed, rfl, rfl, rfl, rfl⟩ := ended
  · have going : u.cancelled = false := by
      rw [made.cancelled, (Attempt.result_ok_iff.mp ok).1]
      rfl
    exact ⟨a, u, bs, same, guarded, made, going, rfl, .inl ⟨outcome, ok, later⟩⟩
  · exact ⟨a, t, [], same, guarded, made, uncancelled, rfl, .inr ⟨e, failed, rfl, rfl, rfl, rfl⟩⟩

/-- The attempts of a whole cleanup: a termination, and an unloading if that succeeded. -/
theorem TornDown.attempts (torn : TornDown config load env cleanupSteps r s cs r' f t)
    (uncancelled : t.cancelled = false) :
    ∃ a later, cs = a :: later ∧ a.step = .terminate ∧
      (a.failure? = none ↔ config.Prompt
        (env.connector.answer s.calls .terminate { ike := config.connection })) ∧
      if a.failure? = none then
        ∃ b, later = [b] ∧ b.step = .unloadConn ∧ (f = none ↔ b.failure? = none) ∧
          (b.failure? = none ↔ config.Prompt (env.connector.answer
            (s.calls ++ [config.termination]) .unloadConn { name := config.connection }))
      else later = [] ∧ f ≠ none := by
  obtain ⟨a, u, bs, terminates, guarded, made, going, rfl, ended⟩ := torn.next uncancelled
  have called : config.call? load a.step = some config.termination := by
    rw [terminates]
    rfl
  refine ⟨a, bs, rfl, terminates, made.prompt guarded going called, ?_⟩
  obtain ⟨outcome, ok, later⟩ | ⟨e, failed, rfl, -, rfl, -⟩ := ended
  · rw [if_pos (Attempt.failure?_ok ok)]
    obtain ⟨b, v, ds, unloads, guarded, made', going', rfl, ended⟩ := later.next uncancelled
    have called' : config.call? load b.step = some config.unloading := by
      rw [unloads]
      rfl
    have calls : u.calls = s.calls ++ [config.termination] := by
      rw [made.calls, called]
      rfl
    have prompt := made'.prompt guarded going' called'
    rw [calls] at prompt
    obtain ⟨outcome', ok', finished⟩ | ⟨e, failed, rfl, -, rfl, -⟩ := ended
    · obtain ⟨rfl, -, rfl, -⟩ := finished.last
      exact ⟨b, rfl, unloads, by simp [Attempt.failure?_ok ok'], prompt⟩
    · exact ⟨b, rfl, unloads, by simp [Attempt.failure?_error failed], prompt⟩
  · simp [Attempt.failure?_error failed]

theorem not_negotiated {step : Step} (shared : step ∈ sharedSteps)
    (early : step.precedesNegotiation = true) :
    .initiate ∉ sharedSteps.takeWhile (· ≠ step) ++ [step] := by
  cases step <;> revert shared early <;> decide

theorem Attempt.failedListing?_eq_some {g : Failure} (failed : a.failedListing? = some g) :
    a.step.isListing = true ∧ g.step = a.step ∧ a.failure? = some g.error := by
  unfold failedListing? at failed
  split at failed
  next listing =>
    obtain ⟨e, failed', rfl⟩ := Option.map_eq_some_iff.mp failed
    exact ⟨listing, rfl, failed'⟩
  next => contradiction

/-- A run that fails before the negotiation has not negotiated. -/
theorem Driven.not_negotiated {f : Failure} (driven : Driven config load env s as r (some f) t)
    (early : f.step.precedesNegotiation = true) : .initiate ∉ as.map (·.step) := by
  obtain ⟨bs, last, x, rfl, advances, stops⟩ := driven
  have steps : bs.map (·.step) ++ x.rest = sharedSteps := advances.steps
  rw [List.map_append]
  cases stops with
  | barred bar =>
    obtain ⟨-, failed, -⟩ := Progress.begin?_error bar
    rw [advances.failedListing, Config.firstStage, Option.none_or] at failed
    obtain ⟨a, -, failed⟩ := List.exists_of_findSome?_eq_some failed
    obtain ⟨listing, same, -⟩ := Attempt.failedListing?_eq_some failed
    rw [← same] at listing
    cases step : f.step <;> simp [step, Step.isListing, Step.precedesNegotiation] at listing early
  | @forgone step =>
    have shared : step ∈ sharedSteps := by simp [← steps]
    rw [steps_before steps]
    intro member
    refine Tunnel.not_negotiated shared early (List.mem_append_left _ ?_)
    simpa using member
  | @failed a =>
    have shared : a.step ∈ sharedSteps := by simp [← steps]
    rw [steps_before steps]
    exact Tunnel.not_negotiated shared early

theorem CleanedUp.torn (cleaned : CleanedUp config load env r s cs r' f t)
    (uncancelled : t.cancelled = false) : s.cancelled = false ∧
      TornDown config load env cleanupSteps r (s.looked env.cancellation) cs r' f t := by
  cases cleaned with
  | left fires => exact absurd uncancelled (by simp [Session.looked, fires])
  | tornDown quiet torn => exact ⟨(Bool.or_eq_false_iff.mp quiet).1, torn⟩

/-- A run that negotiated and was not cancelled cleans up. -/
theorem Exercised.torn (exercised : Exercised config load env s as cs r f t)
    (uncancelled : t.cancelled = false) (negotiated : .initiate ∈ as.map (·.step)) :
    ∃ q g u f', Driven config load env s as q g u ∧
      TornDown config load env cleanupSteps q (u.looked env.cancellation) cs r f' t ∧
      f = g.or f' := by
  cases exercised with
  | abandoned driven early => exact absurd negotiated (driven.not_negotiated early)
  | cleanedUp driven _ cleaned => exact ⟨_, _, _, _, driven, (cleaned.torn uncancelled).2, rfl⟩

/-- A cleanup step is not completed by the shared steps. -/
theorem Driven.not_completed (driven : Driven config load env s as r f t) {step : Step}
    (cleans : step ∈ cleanupSteps) : step ∉ r.completed := by
  intro completed
  rw [driven.completed] at completed
  obtain ⟨a, member, completes⟩ := List.mem_flatMap.mp completed
  obtain ⟨rfl, -⟩ := Attempt.mem_completes.mp completes
  have shared := driven.steps.subset (List.mem_map_of_mem member)
  have disjoint : ∀ step ∈ cleanupSteps, step ∉ sharedSteps := by decide
  exact disjoint _ cleans shared

/-- The calls of a cleanup, and when they succeed. -/
structure CleanupOutcome (config : Config) (env : Environment) (calls later : List Call) (r : Report) :
    Prop where
  terminated : .terminate ∈ r.completed ↔ config.Prompt
    (env.connector.answer calls .terminate { ike := config.connection })
  later_eq : later = if .terminate ∈ r.completed then [config.unloading] else []
  unloaded : .unloadConn ∈ r.completed ↔ .terminate ∈ r.completed ∧ config.Prompt
    (env.connector.answer (calls ++ [config.termination]) .unloadConn { name := config.connection })

theorem Exercised.cleanup (exercised : Exercised config load env s as cs r f t)
    (uncancelled : t.cancelled = false) (negotiated : .initiate ∈ as.map (·.step)) :
    ∃ later, (cs.map (·.step)).filterMap (config.call? load) = config.termination :: later ∧
      CleanupOutcome config env (s.calls ++ (as.map (·.step)).filterMap (config.call? load))
        later r := by
  obtain ⟨q, g, u, f', driven, torn, rfl⟩ := exercised.torn uncancelled negotiated
  obtain ⟨a, later, rfl, terminates, prompt, rest⟩ := torn.attempts uncancelled
  have terminate := driven.not_completed (show Step.terminate ∈ cleanupSteps by decide)
  have unload := driven.not_completed (show Step.unloadConn ∈ cleanupSteps by decide)
  rw [Session.looked_calls, driven.calls] at prompt rest
  by_cases succeeded : a.failure? = none
  · rw [if_pos succeeded] at rest
    obtain ⟨b, rfl, unloads, -, prompt'⟩ := rest
    have terminated : .terminate ∈ r.completed := by
      simp [torn.completed, Attempt.mem_completes, terminates, succeeded]
    have unloaded : .unloadConn ∈ r.completed ↔ b.failure? = none := by
      simp [torn.completed, Attempt.mem_completes, terminates, unloads, unload]
    refine ⟨[config.unloading], ?_, ?_, ?_, ?_⟩
    · simp [terminates, unloads, Config.call?]
      exact ⟨rfl, rfl⟩
    · exact iff_of_true terminated (prompt.mp succeeded)
    · rw [if_pos terminated]
    · rw [unloaded, prompt', and_iff_right terminated]
  · rw [if_neg succeeded] at rest
    obtain ⟨rfl, -⟩ := rest
    have unterminated : .terminate ∉ r.completed := by
      simp [torn.completed, Attempt.mem_completes, terminates, terminate, succeeded]
    have loaded : .unloadConn ∉ r.completed := by
      simp [torn.completed, Attempt.mem_completes, terminates, unload]
    refine ⟨[], by simp [terminates, Config.call?]; rfl, ?_, ?_, ?_⟩
    · exact iff_of_false unterminated fun answer => succeeded (prompt.mpr answer)
    · rw [if_neg unterminated]
    · exact iff_of_false loaded fun both => unterminated both.1

/-- Only the step that negotiates calls the procedure that does. -/
theorem initiates {steps : List Step}
    (negotiated : .initiate ∈ (steps.filterMap (config.call? load)).map (·.rpc)) :
    .initiate ∈ steps := by
  rw [rpcs_of_steps] at negotiated
  obtain ⟨step, member, calls⟩ := List.mem_filterMap.mp negotiated
  cases step <;> simp only [Step.rpc?, Option.some.injEq, reduceCtorEq] at calls
  exact member

theorem Ran.cleanup {result : Except Aborted Report} (ran : Ran config env s as cs result t) :
    ∃ issued, t.calls = s.calls ++ issued ∧
      (t.cancelled = false → .initiate ∈ issued.map (·.rpc) →
        ∃ earlier later, issued = earlier ++ config.termination :: later ∧
          (∀ call ∈ earlier, call.rpc ∈ sharedRpcs) ∧
          CleanupOutcome config env (s.calls ++ earlier) later (reportOf result)) := by
  cases ran with
  | invalid | forgone | refused => exact ⟨[], (List.append_nil _).symm, by simp⟩
  | @exercised _ load _ _ _ r f _ _ exercised =>
    have called := exercised.calls
    rw [Session.record_opened_calls, Session.looked_calls] at called
    refine ⟨_, (Session.record_closed_calls _).trans called, fun uncancelled initiated => ?_⟩
    rw [← List.filterMap_append] at initiated
    have negotiated : .initiate ∈ as.map (·.step) := by
      rcases List.mem_append.mp (initiates initiated) with shared | cleans
      · exact shared
      · exact absurd (exercised.steps.2.subset cleans) (by decide)
    obtain ⟨later, cleanup, cleans⟩ := exercised.cleanup uncancelled negotiated
    rw [Session.record_opened_calls, Session.looked_calls] at cleans
    refine ⟨_, later, by rw [cleanup], fun call member => ?_, ?_⟩
    · have shared : (as.map (·.step)).filterMap (·.rpc?) <+: sharedRpcs :=
        exercised.steps.1.filterMap Step.rpc?
      rw [← rpcs_of_steps config load] at shared
      exact shared.subset (List.mem_map_of_mem member)
    · rw [reportOf_conclude]
      exact cleans

/-- A run that is not cancelled and that called for a negotiation terminates, once, right after
the calls of its shared steps, and unloads after that exactly if the termination succeeded. Each
of the two succeeds exactly if its answer is prompt, however much time the shared steps took. -/
theorem terminates_after_negotiation (config : Config) (env : Environment) (s : Session)
    (fits : Fits config env s.now) :
    ∃ result t issued, run config env s = .ok (result, t) ∧ t.calls = s.calls ++ issued ∧
      (t.cancelled = false → .initiate ∈ issued.map (·.rpc) →
        ∃ earlier later, issued = earlier ++ config.termination :: later ∧
          (∀ call ∈ earlier, call.rpc ∈ sharedRpcs) ∧
          CleanupOutcome config env (s.calls ++ earlier) later (reportOf result)) := by
  obtain ⟨as, cs, result, t, ran, ended⟩ := run_of_fits fits
  obtain ⟨issued, called, cleans⟩ := ran.cleanup
  rw [t.calls_unlogged, s.calls_unlogged] at called
  rw [t.unlogged_cancelled, s.calls_unlogged] at cleans
  exact ⟨result, t, issued, ended, called, cleans⟩

theorem terminates_after_negotiation_in_memory :
    ∃ result t earlier later, run {} (inMemory {} 5) { now := ⟨0⟩ } = .ok (result, t) ∧
      t.calls = earlier ++ Config.termination {} :: later ∧
      CleanupOutcome {} (inMemory {} 5) earlier later (reportOf result) := by
  have fits : Fits {} (inMemory {} 5) ⟨0⟩ := inMemory_fits {} {} 5 (by decide)
  obtain ⟨result, t, issued, ended, called, cleans⟩ :=
    terminates_after_negotiation {} (inMemory {} 5) { now := ⟨0⟩ } fits
  have none : Session.calls { now := ⟨0⟩ } = [] := rfl
  rw [none, List.nil_append] at called
  have observed : shows {} (inMemory {} 5) { now := ⟨0⟩ }
      (fun _ t => !t.cancelled && (t.calls.map (·.rpc)).contains .initiate) = true := by
    decide +kernel
  rw [shows_of_run ended, called] at observed
  simp only [Bool.and_eq_true, Bool.not_eq_true', List.contains_iff_mem] at observed
  obtain ⟨earlier, later, rfl, -, cleans⟩ := cleans observed.1 observed.2
  exact ⟨result, t, earlier, later, ended, called, cleans⟩

/-- A control plane whose termination takes longer than the longest wait. -/
def slowTermination : Environment :=
  inMemory (({} : MemoryPlane).behave .terminate (.delay (.ofSeconds 2000000000))) 5

/-- A run whose cleanup calls may take longer than the longest wait, but not as long as that
termination. -/
def patientCleanup : Config := { cleanupTimeout := .ofSeconds 1000000000 }

/-- A termination whose delay is longer than the cleanup's time succeeds when that time is longer
than the longest wait. -/
theorem slow_termination_succeeds :
    ∃ result t, run patientCleanup slowTermination { now := ⟨0⟩ } = .ok (result, t) ∧
      t.cancelled = false ∧ .initiate ∈ t.calls.map (·.rpc) ∧
      .terminate ∈ (reportOf result).completed ∧ ∀ calls request,
        patientCleanup.cleanupTimeout.nanos <
          (slowTermination.connector.answer calls .terminate request).delay.nanos := by
  have observed : shows patientCleanup slowTermination { now := ⟨0⟩ }
      (fun result t => !t.cancelled && (t.calls.map (·.rpc)).contains .initiate &&
        (reportOf result).completed.contains .terminate) = true := by
    decide +kernel
  obtain ⟨result, t, ended, seen⟩ := run_of_shows observed
  simp only [Bool.and_eq_true, Bool.not_eq_true', List.contains_iff_mem] at seen
  obtain ⟨⟨uncancelled, initiated⟩, terminated⟩ := seen
  have late : patientCleanup.cleanupTimeout.nanos < (Duration.ofSeconds 2000000000).nanos := by decide
  exact ⟨result, t, ended, uncancelled, initiated, terminated, fun _ _ => late⟩

end
end IPsecControl.Tunnel
