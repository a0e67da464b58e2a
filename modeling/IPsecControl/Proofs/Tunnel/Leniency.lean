import IPsecControl.Proofs.Sa.Exchange
import IPsecControl.Proofs.Tunnel.Pairing

/-! Runs under more lenient configurations. A run with more time, or one that tolerates failed
listings, may be slower than the stricter one at any point: a call that was given up there may take
its time here. Still it never falls behind. When the two clocks differ the stricter run is at its
deadline, where only an answer that takes no time counts. -/
namespace IPsecControl

/-- The answers to a procedure do not change, and none says that the call was cancelled. -/
structure Connector.Scripted (c : Connector) : Prop where
  fixed : ∀ calls calls' rpc request, c.answer calls rpc request = c.answer calls' rpc request
  plain : ∀ calls rpc request e, (c.answer calls rpc request).outcome = .error e → e.isCancelled = false

/-- Environments with one scripted connector and one prober. Their runs may be cancelled at different
times. -/
structure Environment.ScriptedAlike (env env' : Environment) : Prop where
  scripted : env.connector.Scripted
  connector : env.connector = env'.connector
  prober : env.prober = env'.prober

theorem MemoryPlane.behind_scripted (plane : MemoryPlane) (refusal : Option String) :
    (plane.behind refusal).Scripted := by
  constructor
  · intro calls calls' rpc request
    rw [behind_answer, behind_answer]
  · intro calls rpc request e failed
    rw [behind_answer, answer] at failed
    split at failed <;> cases failed <;> rfl

namespace Tunnel
open Message

/-- The other configuration gives at least as much time, and tolerates at least as much. -/
structure Config.Lenient (config config' : Config) : Prop where
  same : config' = { config with
    timeout := config'.timeout
    cleanupTimeout := config'.cleanupTimeout
    advisoryIntrospection := config'.advisoryIntrospection }
  timeout : config.timeout.nanos ≤ config'.timeout.nanos
  cleanupTimeout : config.cleanupTimeout.nanos ≤ config'.cleanupTimeout.nanos
  advisory : config.advisoryIntrospection = true → config'.advisoryIntrospection = true

/-- The other run has completed what this one has, and no listing failed in it alone. -/
structure Progress.Behind (p p' : Progress) : Prop where
  completed : p.report.completed.Sublist p'.report.completed
  listed : p.failedListing = none → p'.failedListing = none

section
variable {config config' : Config} {load : LoadConnRequest} {env env' : Environment}
variable {guard guard' : Guard} {s s' t t' : Session} {a a' : Attempt} {as as' cs cs' : List Attempt}
variable {r r' q q' : Report} {f f' : Option Failure} {p p' : Progress}

namespace Config.Lenient
variable (lenient : config.Lenient config')
include lenient

theorem loadRequest : config'.loadRequest = config.loadRequest := by
  rw [lenient.same]
  rfl

/-- Durations that are small enough for the lenient run are so for the other. -/
theorem fits {start : Instant} (fits : Fits config' env start) : Fits config env start where
  clock := by
    have clock := fits.clock
    have timeout := lenient.timeout
    have cleanupTimeout := lenient.cleanupTimeout
    omega
  prober := by
    have probed := fits.prober
    rwa [lenient.same] at probed

theorem reply (alike : env.ScriptedAlike env') (calls calls' : List Call) (step : Step) :
    config'.reply load env' calls' step = config.reply load env calls step := by
  rw [lenient.same]
  cases step
  case connect => rfl
  case probe => simp only [Config.reply, alike.prober]
  all_goals
    simp only [Config.reply, ← alike.connector]
    exact congrArg Except.ok (alike.scripted.fixed _ _ _ _)

theorem tolerates {f f' : Failure} (step : f.step = f'.step) (going : f'.error.isCancelled = false)
    (tolerated : config.tolerates f = true) : config'.tolerates f' = true := by
  simp only [Config.tolerates, Bool.and_eq_true, Bool.or_eq_true] at tolerated ⊢
  obtain ⟨-, kind⟩ := tolerated
  refine ⟨by rw [going]; rfl, ?_⟩
  rw [← step]
  rcases kind with advisory | ⟨listing, advisory⟩
  · exact .inl advisory
  · exact .inr ⟨listing, lenient.advisory advisory⟩

end Config.Lenient

namespace Progress.Behind

theorem begin? (behind : p.Behind p') {step : Step} {q : Progress} (begun : p.begin? step = .ok q) :
    ∃ q', p'.begin? step = .ok q' ∧ q.Behind q' := by
  cases begun' : p'.begin? step with
  | error g =>
    obtain ⟨rfl, failed, unlisted⟩ := begin?_error begun'
    rcases begin?_probe begun with unfailed | introspected
    · rw [behind.listed unfailed] at failed
      contradiction
    · obtain ⟨listing, completed, lists⟩ := List.any_eq_true.mp introspected
      have listed := List.any_eq_true.mpr ⟨listing, behind.completed.subset completed, lists⟩
      exact absurd (unlisted.symm.trans listed) (by simp)
  | ok q' =>
    refine ⟨q', rfl, ?_⟩
    rw [begin?_ok begun, begin?_ok begun']
    constructor
    · simpa using behind.completed
    · exact behind.listed

theorem after (behind : p.Behind p') (step : a.step = a'.step)
    (succeeds : a.failure? = none → a'.failure? = none) : (p.after a).Behind (p'.after a') := by
  constructor
  · rw [after_completed, after_completed]
    apply behind.completed.append
    unfold Attempt.completes
    cases failed : a.failure? with
    | none =>
      rw [succeeds failed, step]
    | some e => exact List.nil_sublist _
  · rw [after_failedListing, after_failedListing, Option.or_eq_none_iff, Option.or_eq_none_iff]
    rintro ⟨unfailed, none⟩
    refine ⟨behind.listed unfailed, ?_⟩
    unfold Attempt.failedListing? at none ⊢
    rw [← step]
    cases listing : a.step.isListing with
    | false => rfl
    | true =>
      have succeeded := Attempt.succeeded_listing listing none
      simp [succeeds succeeded]

end Progress.Behind

section
variable (lenient : config.Lenient config') (alike : env.ScriptedAlike env')
include lenient alike

/-- An attempt succeeds if the stricter one does, whose answer is as late for it. -/
theorem Made.succeeds (made : Made config load env s a t) (made' : Made config' load env' s' a' t')
    (step : a.step = a'.step) (ahead : s.now ≤ a.guard.deadline) (ahead' : s'.now ≤ a'.guard.deadline)
    (arrives : s.now.afterWait a.reply.delay ≤ a.guard.deadline →
      s'.now.afterWait a.reply.delay ≤ a'.guard.deadline)
    (uncancelled : t.cancelled = false) (uncancelled' : t'.cancelled = false)
    (succeeded : a.failure? = none) : a'.failure? = none := by
  have replies := made.reply_eq made' step (lenient.reply alike _ _ _).symm
  have delay : a.reply.delay = a'.reply.delay :=
    congrArg (fun x : (step : Step) × Reply step.Outcome => x.2.delay) replies
  have outcome : (∃ outcome, a.reply.outcome = .ok outcome) = ∃ outcome, a'.reply.outcome = .ok outcome :=
    congrArg (fun x : (step : Step) × Reply step.Outcome => ∃ outcome, x.2.outcome = .ok outcome) replies
  rw [Attempt.failure?_eq_none, made.success ahead uncancelled] at succeeded
  rw [Attempt.failure?_eq_none, made'.success ahead' uncancelled', ← outcome, ← delay]
  exact ⟨succeeded.1, arrives succeeded.2⟩

/-- Under a shared deadline that is as late, with clocks that agree unless the stricter one is at its
deadline, an attempt succeeds if the stricter one does, and the clocks stay so. -/
theorem Made.keepsUp (made : Made config load env s a t) (made' : Made config' load env' s' a' t')
    (step : a.step = a'.step) (ahead : s.now ≤ a.guard.deadline) (ahead' : s'.now ≤ a'.guard.deadline)
    (longer : a.guard.deadline ≤ a'.guard.deadline) (clocks : s.now = s'.now ∨ s.now = a.guard.deadline)
    (uncancelled : t.cancelled = false) (uncancelled' : t'.cancelled = false) :
    (a.failure? = none → a'.failure? = none) ∧ (t.now = t'.now ∨ t.now = a.guard.deadline) := by
  have delay : a.reply.delay = a'.reply.delay :=
    congrArg (fun x : (step : Step) × Reply step.Outcome => x.2.delay)
      (made.reply_eq made' step (lenient.reply alike _ _ _).symm)
  constructor
  · apply made.succeeds lenient alike made' step ahead ahead' _ uncancelled uncancelled'
    intro arrives
    simp only [Instant.le_iff, Instant.afterWait, Instant.after_nanos] at *
    rcases clocks with same | late
    · rw [← same]
      omega
    · rw [late] at arrives
      omega
  · rw [made.now, made'.now, (made.waited ahead uncancelled).2, (made'.waited ahead' uncancelled').2,
      ← delay]
    by_cases arrives : s.now.afterWait a.reply.delay ≤ a.guard.deadline
    · rw [Instant.min, if_pos arrives]
      rcases clocks with same | late
      · left
        have arrives' : s'.now.afterWait a.reply.delay ≤ a'.guard.deadline :=
          same ▸ Nat.le_trans arrives longer
        rw [Instant.min, if_pos arrives', same]
      · right
        rw [late] at arrives ⊢
        exact congrArg Instant.mk (Nat.le_antisymm arrives (Instant.le_afterWait _ _))
    · right
      rw [Instant.min, if_neg arrives]

/-- Nor does it stop a run that the stricter one does not stop. -/
theorem Made.kept (made' : Made config' load env' s' a' t') (step : a.step = a'.step)
    (uncancelled' : t'.cancelled = false) (succeeds : a.failure? = none → a'.failure? = none)
    (kept : a.Kept config) : a'.Kept config' := by
  intro e' failed'
  cases failed : a.failure? with
  | none =>
    rw [succeeds failed] at failed'
    contradiction
  | some e =>
    have tolerated := kept e failed
    have called : a'.step ≠ .probe := by
      rintro probe
      rw [step, probe] at tolerated
      simp [Config.tolerates, Step.isAdvisory, Step.isListing] at tolerated
    have plain := alike.scripted.plain
    rw [alike.connector] at plain
    have going := failure_not_cancelled plain made'.replied (made'.going uncancelled') called failed'
    exact lenient.tolerates step going tolerated

end

theorem Drove.completed {x : Stage} (drove : Drove config load env guard x as r f t) :
    r.completed = x.progress.report.completed ++ as.flatMap (·.completes) := by
  induction drove with
  | stopped stops => exact stops.completed
  | advanced first _ ih =>
    rw [ih, first.report.2.1, List.flatMap_cons, List.append_assoc]

/-- What a run under a more lenient configuration has that the stricter one has. -/
structure Outdone (r r' : Report) (f f' : Option Failure) : Prop where
  completed : r.completed.Sublist r'.completed
  success : f = none → f' = none

section
variable (lenient : config.Lenient config') (alike : env.ScriptedAlike env')
include lenient alike

/-- The shared steps of the stricter run, from a stage on, are all attempted by the other. -/
theorem Drove.outdone {steps : List Step}
    (drove : Drove config load env guard ⟨steps, p, s⟩ as r f t)
    (drove' : Drove config' load env' guard' ⟨steps, p', s'⟩ as' r' f' t') (behind : p.Behind p')
    (longer : guard.deadline ≤ guard'.deadline) (ahead : s.now ≤ guard.deadline)
    (ahead' : s'.now ≤ guard'.deadline) (clocks : s.now = s'.now ∨ s.now = guard.deadline)
    (uncancelled : t.cancelled = false) (uncancelled' : t'.cancelled = false) :
    Outdone r r' f f' ∧ as.map (·.step) ⊆ as'.map (·.step) := by
  -- The invariant: the other run is not behind, and the clocks agree or this one is at its deadline.
  induction steps generalizing p p' s s' as as' with
  | nil =>
    obtain ⟨rfl, rfl, rfl, rfl⟩ := drove.last
    obtain ⟨-, rfl, rfl, rfl⟩ := drove'.last
    exact ⟨⟨behind.completed, fun _ => rfl⟩, List.nil_subset _⟩
  | cons step rest ih =>
    have reached : p.report.completed.Sublist r'.completed := by
      rw [drove'.completed]
      exact behind.completed.trans (List.sublist_append_left _ _)
    obtain ⟨g, -, rfl, rfl, rfl, rfl⟩ | ⟨q, a, bs, u, begun, rfl, rfl, rfl, made, going, goes⟩ :=
      drove.next uncancelled
    · exact ⟨⟨reached, by simp⟩, List.nil_subset _⟩
    · obtain ⟨q', begun', behind⟩ := behind.begin? begun
      have first' := drove'.next uncancelled'
      simp only [begun', reduceCtorEq, false_and, exists_false, false_or, Except.ok.injEq] at first'
      obtain ⟨_, a', bs', u', rfl, step, rfl, rfl, made', going', goes'⟩ := first'
      obtain ⟨succeeds, clocks⟩ :=
        made.keepsUp lenient alike made' step.symm ahead ahead' longer clocks going going'
      obtain ⟨kept, onward⟩ | ⟨e, failed, fatal, rfl, rfl, rfl, rfl⟩ := goes
      · have kept' := made'.kept lenient alike step.symm going' succeeds kept
        obtain ⟨-, onward'⟩ | ⟨e, failed, fatal, -⟩ := goes'
        · obtain ⟨outdone, attempted⟩ := ih onward onward' (behind.after step.symm succeeds)
            (made.time ahead).2 (made'.time ahead').2 clocks
          refine ⟨outdone, ?_⟩
          rw [List.map_cons, List.map_cons, step]
          exact List.cons_subset_cons _ attempted
        · rw [kept' e failed] at fatal
          contradiction
      · refine ⟨⟨?_, by simp⟩, ?_⟩
        · rw [Progress.begin?_ok begun]
          simpa using reached
        · simp [step]

/-- A cleanup call has its own time, so that it succeeds if the stricter one does, whenever the two
are made. -/
theorem Made.cleanup_succeeds (made : Made config load env s a t)
    (made' : Made config' load env' s' a' t') (step : a.step = a'.step)
    (uncancelled : t.cancelled = false) (uncancelled' : t'.cancelled = false)
    (guarded : a.guard = ⟨s.now.after config.cleanupTimeout, config.cleanupTimeout⟩)
    (guarded' : a'.guard = ⟨s'.now.after config'.cleanupTimeout, config'.cleanupTimeout⟩) :
    a.failure? = none → a'.failure? = none := by
  have ahead : s.now ≤ a.guard.deadline := guarded ▸ Nat.le_add_right _ _
  have ahead' : s'.now ≤ a'.guard.deadline := guarded' ▸ Nat.le_add_right _ _
  apply made.succeeds lenient alike made' step ahead ahead' _ uncancelled uncancelled'
  rw [guarded, guarded']
  intro arrives
  have longer := lenient.cleanupTimeout
  simp only [Instant.le_iff, Instant.afterWait, Instant.after_nanos] at arrives ⊢
  omega

theorem TornDown.outdone {steps : List Step} (torn : TornDown config load env steps r s cs q f t)
    (torn' : TornDown config' load env' steps r' s' cs' q' f' t')
    (completed : r.completed.Sublist r'.completed) (uncancelled : t.cancelled = false)
    (uncancelled' : t'.cancelled = false) : Outdone q q' f f' := by
  induction steps generalizing r r' s s' cs cs' with
  | nil =>
    obtain ⟨-, rfl, rfl, rfl⟩ := torn.last
    obtain ⟨-, rfl, rfl, rfl⟩ := torn'.last
    exact ⟨completed, fun _ => rfl⟩
  | cons step rest ih =>
    have reached : r.completed.Sublist q'.completed := by
      rw [torn'.completed]
      exact completed.trans (List.sublist_append_left _ _)
    obtain ⟨a, u, bs, rfl, guarded, made, going, rfl, ended⟩ := torn.next uncancelled
    obtain ⟨a', u', bs', step, guarded', made', going', rfl, ended'⟩ := torn'.next uncancelled'
    have succeeds :=
      made.cleanup_succeeds lenient alike made' step.symm going going' guarded guarded'
    obtain ⟨outcome, ok, later⟩ | ⟨e, -, rfl, rfl, rfl, rfl⟩ := ended
    · obtain ⟨outcome', ok', later'⟩ | ⟨e, failed, -⟩ := ended'
      · apply ih later later'
        rw [Report.succeed_completed, Report.succeed_completed, step]
        exact completed.append (List.Sublist.refl _)
      · rw [Attempt.failure?_ok ok, Attempt.failure?_error failed] at succeeds
        simp at succeeds
    · exact ⟨reached, by simp⟩

theorem Driven.outdone (driven : Driven config load env s as r f t)
    (driven' : Driven config' load env' s' as' r' f' t') (now : s.now = s'.now)
    (uncancelled : t.cancelled = false) (uncancelled' : t'.cancelled = false) :
    Outdone r r' f f' ∧ as.map (·.step) ⊆ as'.map (·.step) := by
  have behind : Progress.Behind ⟨Report.start config, none⟩ ⟨Report.start config', none⟩ :=
    ⟨List.Sublist.refl _, fun _ => rfl⟩
  apply driven.drove.outdone lenient alike driven'.drove behind
  · rw [Config.sharedGuard, Config.sharedGuard, now]
    exact Nat.add_le_add_left lenient.timeout _
  · exact Nat.le_add_right _ _
  · exact Nat.le_add_right _ _
  · exact .inl now
  · exact uncancelled
  · exact uncancelled'

theorem Exercised.outdone (exercised : Exercised config load env s as cs r f t)
    (exercised' : Exercised config' load env' s' as' cs' r' f' t') (now : s.now = s'.now)
    (uncancelled : t.cancelled = false) (uncancelled' : t'.cancelled = false) :
    Outdone r r' f f' := by
  cases exercised with
  | abandoned driven early =>
    refine ⟨?_, by simp⟩
    cases exercised' with
    | abandoned driven' =>
      exact (driven.outdone lenient alike driven' now uncancelled uncancelled').1.completed
    | cleanedUp driven' _ cleaned' =>
      obtain ⟨quiet, torn'⟩ := cleaned'.torn uncancelled'
      have shared := driven.outdone lenient alike driven' now uncancelled quiet
      rw [torn'.completed]
      exact shared.1.completed.trans (List.sublist_append_left _ _)
  | cleanedUp driven late cleaned =>
    obtain ⟨quiet, torn⟩ := cleaned.torn uncancelled
    cases exercised' with
    | abandoned driven' early =>
      -- The other run negotiates if this one does, so it is not abandoned.
      have shared := driven.outdone lenient alike driven' now quiet uncancelled'
      rcases driven.negotiated late with negotiated | cancelled
      · exact absurd (shared.2 negotiated) (driven'.not_negotiated early)
      · rw [quiet] at cancelled
        contradiction
    | cleanedUp driven' _ cleaned' =>
      obtain ⟨quiet', torn'⟩ := cleaned'.torn uncancelled'
      obtain ⟨completed, success⟩ := (driven.outdone lenient alike driven' now quiet quiet').1
      have cleanup := torn.outdone lenient alike torn' completed uncancelled uncancelled'
      refine ⟨cleanup.completed, ?_⟩
      simp only [Option.or_eq_none_iff]
      rintro ⟨finished, undone⟩
      exact ⟨success finished, cleanup.success undone⟩

theorem Ran.outdone {result result' : Except Aborted Report} (ran : Ran config env s as cs result t)
    (ran' : Ran config' env' s as' cs' result' t') (uncancelled : t.cancelled = false)
    (uncancelled' : t'.cancelled = false) :
    Outdone (reportOf result) (reportOf result') (failureOf result) (failureOf result') := by
  cases ran with
  | invalid | forgone | refused => exact ⟨List.nil_sublist _, by simp [failureOf]⟩
  | exercised valid quiet opens exercised =>
    cases ran' with
    | invalid invalid => simp [lenient.loadRequest, valid] at invalid
    | forgone _ fires => exact absurd uncancelled' (by simp [Session.looked, fires])
    | refused _ _ refused => simp [← alike.connector, opens] at refused
    | exercised valid' _ _ exercised' =>
      rw [lenient.loadRequest, valid] at valid'
      cases valid'
      rw [reportOf_conclude, reportOf_conclude, failureOf_conclude, failureOf_conclude]
      exact exercised.outdone lenient alike exercised' rfl uncancelled uncancelled'

end

/-- A run with more time, or one that tolerates failed listings, completes every step that the
stricter run completes, and succeeds if that one does. Both runs come to an end if the durations of the
lenient one fit the clock. -/
theorem leniency_never_harms (config config' : Config) (plane : MemoryPlane) (refusal : Option String)
    (prober : Probe.Prober) (s : Session) (lenient : config.Lenient config') :
    (∀ cancellation cancellation' result t result' t',
      run config ⟨plane.behind refusal, prober, cancellation⟩ s = .ok (result, t) →
      run config' ⟨plane.behind refusal, prober, cancellation'⟩ s = .ok (result', t') →
      t.cancelled = false → t'.cancelled = false →
        (reportOf result).completed.Sublist (reportOf result').completed ∧
          ((∃ report, result = .ok report) → ∃ report, result' = .ok report)) ∧
    (Fits config' ⟨plane.behind refusal, prober, .never⟩ s.now → s.cancelled = false →
      (∃ result t, run config ⟨plane.behind refusal, prober, .never⟩ s = .ok (result, t) ∧ t.cancelled = false) ∧
      ∃ result' t', run config' ⟨plane.behind refusal, prober, .never⟩ s = .ok (result', t') ∧
        t'.cancelled = false) := by
  refine ⟨?_, fun fits fresh => ?_⟩
  · intro cancellation cancellation' result t result' t' ended ended' uncancelled uncancelled'
    have alike : Environment.ScriptedAlike ⟨plane.behind refusal, prober, cancellation⟩
        ⟨plane.behind refusal, prober, cancellation'⟩ :=
      ⟨plane.behind_scripted refusal, rfl, rfl⟩
    obtain ⟨as, cs, ran⟩ := ran_of_run ended
    obtain ⟨as', cs', ran'⟩ := ran_of_run ended'
    have outdone := ran.outdone lenient alike ran' uncancelled uncancelled'
    refine ⟨outdone.completed, ?_⟩
    rintro ⟨report, rfl⟩
    cases result' with
    | ok report' => exact ⟨report', rfl⟩
    | error aborted =>
      have success := outdone.success rfl
      contradiction
  · exact ⟨run_uncancelled (lenient.fits fits) rfl fresh, run_uncancelled fits rfl fresh⟩

/-- A control plane that is slow to tell its version. -/
def slowVersion : MemoryPlane := ({} : MemoryPlane).behave .version (.delay (.ofSeconds 3))

def hasty : Config := { timeout := .ofSeconds 2 }

theorem leniency_never_harms_slow_version :
    ∃ report t report' t', run hasty (inMemory slowVersion 5) { now := ⟨0⟩ } = .ok (.ok report, t) ∧
      run {} (inMemory slowVersion 5) { now := ⟨0⟩ } = .ok (.ok report', t') ∧
      report.completed.Sublist report'.completed ∧ .version ∉ report.completed := by
  have observed : shows hasty (inMemory slowVersion 5) { now := ⟨0⟩ } (fun result t =>
      result.isOk && !(reportOf result).completed.contains .version && !t.cancelled) = true := by
    decide +kernel
  have observed' : shows {} (inMemory slowVersion 5) { now := ⟨0⟩ } (fun _ t => !t.cancelled) = true := by
    decide +kernel
  obtain ⟨result, t, ended, seen⟩ := run_of_shows observed
  obtain ⟨result', t', ended', seen'⟩ := run_of_shows observed'
  simp only [Bool.and_eq_true, Bool.not_eq_true', List.contains_eq_mem, decide_eq_false_iff_not]
    at seen seen'
  obtain ⟨⟨succeeded, untold⟩, uncancelled⟩ := seen
  have lenient : hasty.Lenient {} := ⟨rfl, by decide, Nat.le_refl _, id⟩
  obtain ⟨completed, success⟩ := (leniency_never_harms hasty {} slowVersion none (Probe.canned 5)
    { now := ⟨0⟩ } lenient).1 .never .never result t result' t' ended ended' uncancelled seen'
  cases result with
  | error aborted => simp [Except.isOk, Except.toBool] at succeeded
  | ok report =>
    obtain ⟨report', rfl⟩ := success ⟨report, rfl⟩
    exact ⟨report, t, report', t', ended, ended', completed, untold⟩

end
end Tunnel
end IPsecControl
