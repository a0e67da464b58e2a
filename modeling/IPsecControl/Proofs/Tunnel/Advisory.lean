import IPsecControl.Proofs.Tunnel.Accounts
import IPsecControl.Proofs.Tunnel.Pairing

/-! Advisory steps and the rest of a run. What the daemon answers to an advisory call changes
nothing but what the report says about it. The time that the answer takes is another matter: it
is taken from the steps that share the deadline. -/
namespace IPsecControl

/-- The procedures of the advisory steps. -/
def Rpc.isAdvisory : Rpc → Bool
  | .version | .stats => true
  | _ => false

/-- Two connectors open alike and give the same answers, but for advisory calls. -/
structure Connector.SameButAdvice (c c' : Connector) : Prop where
  opening : c.opening = c'.opening
  answers : ∀ calls rpc request, rpc.isAdvisory = false →
    (c.answer calls rpc request).delay = (c'.answer calls rpc request).delay ∧
      (c.answer calls rpc request).outcome = (c'.answer calls rpc request).outcome

/-- No answer to an advisory call says that the call was cancelled. -/
def Connector.Advises (c : Connector) : Prop :=
  ∀ calls rpc request e, rpc.isAdvisory = true →
    (c.answer calls rpc request).outcome = .error e → e.isCancelled = false

namespace Tunnel
open Message

/-- Everything that a report shows, apart from the advisory steps. -/
def Report.withoutAdvice (r : Report) : Report :=
  { r with
    completed := r.completed.filter (!·.isAdvisory)
    warnings := r.warnings.filter (!·.step.isAdvisory)
    daemon := none
    daemonStatus := none }

/-- The shared deadline cuts a step off. -/
def Config.cutOff (config : Config) (step : Step) : Event :=
  .ended step.name (some (.timedOut step.name config.timeout))

namespace Report
variable (r : Report) {step : Step}

@[simp] theorem withoutAdvice_advance (state? : Option State) :
    (r.advance state?).withoutAdvice = r.withoutAdvice.advance state? := by
  cases state? <;> rfl

theorem withoutAdvice_succeed_advisory (outcome : step.Outcome) (advisory : step.isAdvisory = true) :
    (r.succeed step outcome).withoutAdvice = r.withoutAdvice := by
  cases step <;> simp [Step.isAdvisory] at advisory <;>
    simp [succeed, keep, complete, withoutAdvice, Step.reached?, advance, Step.isAdvisory]

theorem withoutAdvice_warn (w : Warning) : (r.warn w).withoutAdvice =
    if w.step.isAdvisory then r.withoutAdvice else r.withoutAdvice.warn w := by
  cases advisory : w.step.isAdvisory <;> simp [warn, withoutAdvice, advisory]

theorem withoutAdvice_complete (acting : step.isAdvisory = false) :
    (r.complete step).withoutAdvice = r.withoutAdvice.complete step := by
  simp [complete, withoutAdvice, acting]

theorem withoutAdvice_keep (outcome : step.Outcome) (acting : step.isAdvisory = false) :
    (r.keep step outcome).withoutAdvice = r.withoutAdvice.keep step outcome := by
  cases step
  case version | stats => contradiction
  case listSas =>
    -- A list of associations that lacks the connection's is warned about.
    cases lists : Report.lists r.connection outcome with
    | true => simp [keep, withoutAdvice, lists]
    | false => simp [keep, withoutAdvice, lists, warn, Step.isAdvisory]
  all_goals rfl

theorem withoutAdvice_succeed (outcome : step.Outcome) (acting : step.isAdvisory = false) :
    (r.succeed step outcome).withoutAdvice = r.withoutAdvice.succeed step outcome := by
  rw [succeed, succeed, withoutAdvice_advance, withoutAdvice_complete _ acting,
    withoutAdvice_keep _ _ acting]

theorem withoutAdvice_failCleanup (f : Failure) :
    (r.failCleanup f).withoutAdvice = r.withoutAdvice.failCleanup f := rfl

/-- Whether a listing succeeded is no matter of the advisory steps. -/
theorem introspected_withoutAdvice : r.withoutAdvice.introspected = r.introspected := by
  have acting : ∀ step : Step, (step.isListing && !step.isAdvisory) = step.isListing := by
    intro step
    cases step <;> rfl
  simp only [introspected, withoutAdvice, List.any_filter]
  congr 1
  funext step
  rw [Bool.and_comm, acting]

end Report

/-- How an attempt ended. -/
def Attempt.ending (a : Attempt) : (step : Step) × Result step.Outcome := ⟨a.step, a.result⟩

/-- An attempt that ended because its time was over. -/
def Attempt.Expired (a : Attempt) : Prop :=
  a.failure? = some (.timedOut a.step.name a.guard.budget)

theorem Attempt.expired_of_wake {a : Attempt} (wake : a.wake = .expired) : a.Expired := by
  simp only [Expired, failure?, result, wake, Guard.outcome, Guard.failure?]

theorem Attempt.failure?_of_ending {a a' : Attempt} (same : a.ending = a'.ending) :
    a.failure? = a'.failure? :=
  congrArg (fun x : (step : Step) × Result step.Outcome => Guard.failure? x.2) same

namespace Progress
variable (p : Progress)

/-- The progress after an attempt that ended in the given way. -/
def ended : (step : Step) × Result step.Outcome → Progress
  | ⟨step, .ok outcome⟩ => p.succeed step outcome
  | ⟨step, .error e⟩ => p.tolerate ⟨step, e⟩

theorem after_eq_ended (a : Attempt) : p.after a = p.ended a.ending := by
  cases result : a.result <;> simp only [after, Attempt.ending, result, ended]

/-- Two runs under way that differ in nothing but what their advisory steps brought. -/
structure Alike (p p' : Progress) : Prop where
  report : p.report.withoutAdvice = p'.report.withoutAdvice
  failedListing : p.failedListing = p'.failedListing

variable {p} {p' : Progress}

namespace Alike

/-- Two runs that are alike begin a step alike, or may not begin it for the same reason. -/
theorem begin? (alike : Alike p p') (step : Step) :
    (∃ g, p.begin? step = .error g ∧ p'.begin? step = .error g) ∨
      ∃ q q', p.begin? step = .ok q ∧ p'.begin? step = .ok q' ∧ Alike q q' := by
  have introspected : p.report.introspected = p'.report.introspected := by
    rw [← p.report.introspected_withoutAdvice, alike.report, Report.introspected_withoutAdvice]
  cases begun : p.begin? step with
  | error g =>
    obtain ⟨rfl, failed, unlisted⟩ := begin?_error begun
    refine .inl ⟨g, rfl, ?_⟩
    simp only [Progress.begin?, ← alike.failedListing, failed, ← introspected, unlisted]
  | ok q =>
    cases begun' : p'.begin? step with
    | error g =>
      obtain ⟨rfl, failed, unlisted⟩ := begin?_error begun'
      simp [Progress.begin?, alike.failedListing, failed, introspected, unlisted] at begun
    | ok q' =>
      refine .inr ⟨q, q', rfl, rfl, ?_, ?_⟩
      · rw [begin?_ok begun, begin?_ok begun', Report.withoutAdvice_advance,
          Report.withoutAdvice_advance, alike.report]
      · rw [begin?_ok begun, begin?_ok begun']
        exact alike.failedListing

theorem ended (alike : Alike p p') (ending : (step : Step) × Result step.Outcome)
    (acting : ending.1.isAdvisory = false) : Alike (p.ended ending) (p'.ended ending) := by
  obtain ⟨step, outcome | e⟩ := ending
  · refine ⟨?_, ?_⟩
    · simp only [Progress.ended, tolerate, Report.withoutAdvice_warn, alike.report]
    · simp only [Progress.ended, tolerate, alike.failedListing]
  · refine ⟨?_, alike.failedListing⟩
    simp only [Progress.ended, succeed, Report.withoutAdvice_succeed _ _ acting, alike.report]

/-- An advisory attempt leaves a run like any that it was like before. -/
theorem advised (alike : Alike p p') {a a' : Attempt} (advisory : a.step.isAdvisory = true)
    (advisory' : a'.step.isAdvisory = true) : Alike (p.after a) (p'.after a') := by
  have unchanged : ∀ (q : Progress) (b : Attempt), b.step.isAdvisory = true →
      (q.after b).report.withoutAdvice = q.report.withoutAdvice ∧
        (q.after b).failedListing = q.failedListing := by
    intro q b advisory
    have acting : b.step.isListing = false := by
      revert advisory
      cases b.step <;> decide
    cases result : b.result with
    | ok outcome =>
      have same : q.after b = q.succeed b.step outcome := by simp only [after, result]
      exact same ▸ ⟨Report.withoutAdvice_succeed_advisory _ outcome advisory, rfl⟩
    | error e =>
      simp only [after, result, tolerate, acting]
      exact ⟨by rw [Report.withoutAdvice_warn]; exact if_pos advisory, rfl⟩
  obtain ⟨report, failedListing⟩ := unchanged p a advisory
  obtain ⟨report', failedListing'⟩ := unchanged p' a' advisory'
  exact ⟨by rw [report, report', alike.report], by rw [failedListing, failedListing', alike.failedListing]⟩

end Alike
end Progress

section
variable {config : Config} {load : LoadConnRequest} {env env' : Environment} {guard guard' : Guard}
variable {s s' t t' : Session} {a a' : Attempt} {as as' : List Attempt} {r r' : Report}
variable {f f' : Option Failure}

section
variable (same : env.connector.SameButAdvice env'.connector) (prober : env.prober = env'.prober)
include same prober

theorem reply_same {calls : List Call} {step : Step} {reply reply' : Reply step.Outcome}
    (replied : config.reply load env calls step = .ok reply)
    (replied' : config.reply load env' calls step = .ok reply') (acting : step.isAdvisory = false) :
    reply.delay = reply'.delay ∧ reply.outcome = reply'.outcome := by
  cases step
  case version | stats => contradiction
  case connect =>
    cases replied
    cases replied'
    exact ⟨rfl, rfl⟩
  case probe =>
    simp only [Config.reply, prober] at replied replied'
    rw [replied] at replied'
    cases replied'
    exact ⟨rfl, rfl⟩
  all_goals
    cases replied
    cases replied'
    exact same.answers _ _ _ rfl

/-- Attempts at one step after the same calls have answers with the same delay, and they end alike
if they were waited for alike, or if both expired. -/
theorem Made.ending_eq (made : Made config load env s a t) (made' : Made config load env' s' a' t')
    (calls : s.calls = s'.calls) (steps : a.step = a'.step) (acting : a.step.isAdvisory = false)
    (budget : a.guard.budget = a'.guard.budget) : a.reply.delay = a'.reply.delay ∧
      (a.wake = a'.wake ∨ a.Expired ∧ a'.Expired → a.ending = a'.ending) := by
  have replied := made.replied
  have replied' := made'.replied
  rw [← calls] at replied'
  obtain ⟨step, guard, issued, reply, wake, ended⟩ := a
  obtain ⟨step', guard', issued', reply', wake', ended'⟩ := a'
  dsimp only at steps budget
  subst steps
  obtain ⟨delay, outcome⟩ : reply.delay = reply'.delay ∧ reply.outcome = reply'.outcome :=
    reply_same same prober replied replied' acting
  refine ⟨delay, fun waits => ?_⟩
  have results : guard.outcome step.name reply wake = guard'.outcome step.name reply' wake' := by
    rcases waits with wakes | ⟨expired, expired'⟩
    · dsimp only at wakes
      subst wakes
      cases wake <;> simp only [Guard.outcome, outcome, budget]
    · have failed := Attempt.failure?_eq_some.mp expired
      have failed' := Attempt.failure?_eq_some.mp expired'
      dsimp only [Attempt.result] at failed failed'
      rw [failed, failed', budget]
  simp only [Attempt.ending, Attempt.result, results]

end

/-- A cleanup call that is not cancelled is answered if its answer takes no longer than the cleanup's
time, whenever it is made. -/
theorem Made.cleanup_wake (made : Made config load env s a t)
    (made' : Made config load env' s' a' t')
    (guarded : a.guard = ⟨s.now.after config.cleanupTimeout, config.cleanupTimeout⟩)
    (guarded' : a'.guard = ⟨s'.now.after config.cleanupTimeout, config.cleanupTimeout⟩)
    (uncancelled : t.cancelled = false) (uncancelled' : t'.cancelled = false)
    (delay : a.reply.delay = a'.reply.delay) : a.wake = a'.wake := by
  have met : s.now.afterWait a.reply.delay ≤ a.guard.deadline ↔
      s'.now.afterWait a'.reply.delay ≤ a'.guard.deadline := by
    rw [guarded, guarded', delay]
    exact Nat.add_le_add_iff_left.trans Nat.add_le_add_iff_left.symm
  rw [(made.waited (guarded ▸ Nat.le_add_right _ _) uncancelled).1,
    (made'.waited (guarded' ▸ Nat.le_add_right _ _) uncancelled').1]
  simp only [met]

/-- A failed advisory attempt is tolerated, unless the run was cancelled. -/
theorem Made.advisory_kept (made : Made config load env s a t) (advises : env.connector.Advises)
    (uncancelled : t.cancelled = false) (advisory : a.step.isAdvisory = true) : a.Kept config := by
  intro e failed
  obtain ⟨step, guard, issued, reply, wake, ended⟩ := a
  have going : wake ≠ .cancelled := made.going uncancelled
  have failed : guard.outcome step.name reply wake = .error e := Attempt.failure?_eq_some.mp failed
  have tolerable : e.isCancelled = false := by
    cases wake with
    | cancelled => contradiction
    | expired =>
      cases failed
      rfl
    | answered =>
      have replied := made.replied
      cases step
      case version | stats =>
        cases replied
        exact advises _ _ _ _ rfl failed
      all_goals contradiction
  have advisory : step.isAdvisory = true := advisory
  simp [Config.tolerates, tolerable, advisory]

theorem Attempt.waits_alike (going : a.wake ≠ .cancelled) (going' : a'.wake ≠ .cancelled)
    (expired : a.Expired ↔ a'.Expired) : a.wake = a'.wake ∨ a.Expired ∧ a'.Expired := by
  by_cases late : a.wake = .expired
  · exact .inr ⟨expired_of_wake late, expired.mp (expired_of_wake late)⟩
  by_cases late' : a'.wake = .expired
  · exact .inr ⟨expired.mpr (expired_of_wake late'), expired_of_wake late'⟩
  · cases wake : a.wake <;> cases wake' : a'.wake <;> simp_all

variable (config) in
/-- Attempts at one step that stop a run for the same failures, and otherwise leave runs alike. -/
structure Attempt.Alike (a a' : Attempt) : Prop where
  step : a.step = a'.step
  fatal : ∀ e, config.tolerates ⟨a.step, e⟩ = false → (a.failure? = some e ↔ a'.failure? = some e)
  after : ∀ p p' : Progress, p.Alike p' → (p.after a).Alike (p'.after a')

/-- What two runs have in common that differ in the answers to their advisory calls only. -/
structure Agree (r r' : Report) (f f' : Option Failure) (t t' : Session) : Prop where
  failure : f = f'
  report : r.withoutAdvice = r'.withoutAdvice
  calls : t.calls = t'.calls

section
variable (same : env.connector.SameButAdvice env'.connector) (prober : env.prober = env'.prober)
variable (never : env.cancellation = .never) (never' : env'.cancellation = .never)
include same prober never never'

theorem Made.alike (made : Made config load env s a t) (made' : Made config load env' s' a' t')
    (advises : env.connector.Advises) (advises' : env'.connector.Advises) (calls : s.calls = s'.calls)
    (step : a.step = a'.step) (budget : a.guard.budget = a'.guard.budget)
    (expired : a.step.isAdvisory = false → (a.Expired ↔ a'.Expired)) : a.Alike config a' := by
  have uncancelled := made.uncancelled never
  have uncancelled' := made'.uncancelled never'
  cases advisory : a.step.isAdvisory with
  | true =>
    have advisory' : a'.step.isAdvisory = true := step ▸ advisory
    have kept := made.advisory_kept advises uncancelled advisory
    have kept' := made'.advisory_kept advises' uncancelled' advisory'
    refine ⟨step, fun e fatal => iff_of_false (fun failed => ?_) fun failed => ?_,
      fun p p' alike => alike.advised advisory advisory'⟩
    · simp [kept e failed] at fatal
    · simp [step, kept' e failed] at fatal
  | false =>
    have waits := a.waits_alike (made.going uncancelled) (made'.going uncancelled') (expired advisory)
    have ending := (made.ending_eq same prober made' calls step advisory budget).2 waits
    refine ⟨step, fun e _ => by rw [Attempt.failure?_of_ending ending], fun p p' alike => ?_⟩
    rw [Progress.after_eq_ended, Progress.after_eq_ended, ← ending]
    exact alike.ended _ advisory

/-- From stages that are alike two runs go on alike, as long as the deadline cuts off the same
attempts. -/
theorem Drove.agree {steps : List Step} {p p' : Progress} (advises : env.connector.Advises)
    (advises' : env'.connector.Advises) (budget : guard.budget = guard'.budget)
    (drove : Drove config load env guard ⟨steps, p, s⟩ as r f t)
    (drove' : Drove config load env' guard' ⟨steps, p', s'⟩ as' r' f' t')
    (alike : p.Alike p') (calls : s.calls = s'.calls) (fresh : s.cancelled = false)
    (fresh' : s'.cancelled = false)
    (expiry : ∀ a ∈ as, ∀ a' ∈ as', a.step = a'.step → a.step.isAdvisory = false →
      (a.Expired ↔ a'.Expired)) : Agree r r' f f' t t' := by
  -- The stages stay alike and the calls the same, although the two clocks drift apart.
  induction steps generalizing p p' s s' as as' with
  | nil =>
    obtain ⟨-, rfl, rfl, rfl⟩ := drove.last
    obtain ⟨-, rfl, rfl, rfl⟩ := drove'.last
    exact ⟨rfl, alike.report, calls⟩
  | cons step rest ih =>
    have first := drove.next (drove.uncancelled never fresh)
    have first' := drove'.next (drove'.uncancelled never' fresh')
    obtain ⟨g, bar, bar'⟩ | ⟨q, q', begun, begun', alike⟩ := alike.begin? step
    · simp only [bar, bar', reduceCtorEq, false_and, exists_false, or_false, Except.error.injEq]
        at first first'
      obtain ⟨_, rfl, -, rfl, rfl, rfl⟩ := first
      obtain ⟨_, rfl, -, rfl, rfl, rfl⟩ := first'
      exact ⟨rfl, alike.report, calls⟩
    · simp only [begun, begun', reduceCtorEq, false_and, exists_false, false_or, Except.ok.injEq]
        at first first'
      obtain ⟨_, a, bs, u, rfl, rfl, guarded, rfl, made, going, goes⟩ := first
      obtain ⟨_, a', bs', u', rfl, step, guarded', rfl, made', going', goes'⟩ := first'
      have fates := made.alike same prober never never' made' advises advises' calls step.symm
        (by rw [guarded, guarded', budget])
        (expiry a List.mem_cons_self a' List.mem_cons_self step.symm)
      have later : u.calls = u'.calls := by rw [made.calls, made'.calls, step, calls]
      obtain ⟨kept, onward⟩ | ⟨e, failed, fatal, -, rfl, rfl, rfl⟩ := goes
      · obtain ⟨-, onward'⟩ | ⟨e, failed, fatal, -⟩ := goes'
        · refine ih onward onward' (fates.after _ _ alike) later going going' fun b mem b' mem' => ?_
          exact expiry b (List.mem_cons_of_mem _ mem) b' (List.mem_cons_of_mem _ mem')
        · have tolerated := kept e ((fates.fatal e (step ▸ fatal)).mpr failed)
          rw [← step, fatal] at tolerated
          contradiction
      · have failed' := (fates.fatal e fatal).mp failed
        obtain ⟨kept, -⟩ | ⟨e', failed'', -, -, rfl, rfl, rfl⟩ := goes'
        · have tolerated := kept e failed'
          rw [step, fatal] at tolerated
          contradiction
        · rw [failed'] at failed''
          cases failed''
          exact ⟨by rw [step], alike.report, later⟩

/-- A cleanup goes alike after runs that went alike, whenever it begins. -/
theorem TornDown.agree {steps : List Step} {q q' : Report} {cs cs' : List Attempt}
    (advises : env.connector.Advises) (advises' : env'.connector.Advises)
    (acting : ∀ step ∈ steps, step.isAdvisory = false)
    (torn : TornDown config load env steps r s cs q f t)
    (torn' : TornDown config load env' steps r' s' cs' q' f' t')
    (report : r.withoutAdvice = r'.withoutAdvice) (calls : s.calls = s'.calls)
    (fresh : s.cancelled = false) (fresh' : s'.cancelled = false) : Agree q q' f f' t t' := by
  induction steps generalizing r r' s s' cs cs' with
  | nil =>
    obtain ⟨-, rfl, rfl, rfl⟩ := torn.last
    obtain ⟨-, rfl, rfl, rfl⟩ := torn'.last
    exact ⟨rfl, report, calls⟩
  | cons step rest ih =>
    obtain ⟨fires, -⟩ | ⟨a, u, rfl, guarded, made, ended⟩ := torn.first
    · simp [never, fresh] at fires
    obtain ⟨fires, -⟩ | ⟨a', u', step, guarded', made', ended'⟩ := torn'.first
    · simp [never', fresh'] at fires
    have uncancelled := made.uncancelled never
    have uncancelled' := made'.uncancelled never'
    have acts := acting a.step List.mem_cons_self
    have budget : a.guard.budget = a'.guard.budget := by rw [guarded, guarded']
    obtain ⟨delay, ending⟩ := made.ending_eq same prober made' calls step.symm acts budget
    have failures := Attempt.failure?_of_ending
      (ending (.inl (made.cleanup_wake made' guarded guarded' uncancelled uncancelled' delay)))
    have fates := made.alike same prober never never' made' advises advises' calls step.symm budget
      fun _ => by rw [Attempt.Expired, Attempt.Expired, failures, step, budget]
    have later : u.calls = u'.calls := by rw [made.calls, made'.calls, step, calls]
    obtain ⟨outcome, bs, ok, rfl, onward⟩ | ⟨e, failed, rfl, rfl, rfl, rfl⟩ := ended
    · obtain ⟨outcome', bs', ok', rfl, onward'⟩ | ⟨e, failed, -⟩ := ended'
      · have succeeded := (fates.after ⟨r, none⟩ ⟨r', none⟩ ⟨report, rfl⟩).report
        simp only [Progress.after, ok, ok', Progress.succeed] at succeeded
        exact ih (fun step member => acting step (List.mem_cons_of_mem _ member)) onward onward'
          succeeded later uncancelled uncancelled'
      · rw [Attempt.failure?_ok ok, Attempt.failure?_error failed] at failures
        contradiction
    · obtain ⟨outcome', bs', ok', -⟩ | ⟨e', failed', rfl, rfl, rfl, rfl⟩ := ended'
      · rw [Attempt.failure?_error failed, Attempt.failure?_ok ok'] at failures
        contradiction
      · rw [Attempt.failure?_error failed, Attempt.failure?_error failed'] at failures
        cases failures
        refine ⟨by rw [step], ?_, later⟩
        rw [Report.withoutAdvice_failCleanup, Report.withoutAdvice_failCleanup, report, step]

theorem Exercised.agree {cs cs' : List Attempt} (advises : env.connector.Advises)
    (advises' : env'.connector.Advises) (exercised : Exercised config load env s as cs r f t)
    (exercised' : Exercised config load env' s' as' cs' r' f' t') (calls : s.calls = s'.calls)
    (fresh : s.cancelled = false) (fresh' : s'.cancelled = false)
    (expiry : ∀ a ∈ as, ∀ a' ∈ as', a.step = a'.step → a.step.isAdvisory = false →
      (a.Expired ↔ a'.Expired)) : Agree r r' f f' t t' := by
  have budget : (config.sharedGuard s).budget = (config.sharedGuard s').budget := rfl
  have shared : ∀ {r r' f f' t t'}, Driven config load env s as r f t →
      Driven config load env' s' as' r' f' t' → Agree r r' f f' t t' := fun driven driven' =>
    driven.drove.agree same prober never never' advises advises' budget driven'.drove ⟨rfl, rfl⟩ calls
      fresh fresh' expiry
  -- Whether a run is cleaned up depends on its failure, which the shared steps have in common.
  cases exercised with
  | abandoned driven early =>
    cases exercised' with
    | abandoned driven' => exact shared driven driven'
    | cleanedUp driven' late =>
      rw [← (shared driven driven').failure] at late
      simp [early] at late
  | cleanedUp driven late cleaned =>
    cases exercised' with
    | abandoned driven' early =>
      rw [(shared driven driven').failure] at late
      simp [early] at late
    | cleanedUp driven' _ cleaned' =>
      obtain ⟨failure, report, calls⟩ := shared driven driven'
      have going := driven.uncancelled never fresh
      have going' := driven'.uncancelled never' fresh'
      cases cleaned with
      | left fires => simp [never, going] at fires
      | tornDown _ torn =>
        cases cleaned' with
        | left fires => simp [never', going'] at fires
        | tornDown _ torn' =>
          have cleanup := torn.agree same prober never never' advises advises' (by decide) torn'
            report calls (by simp [never, going]) (by simp [never', going'])
          exact ⟨by rw [failure, cleanup.failure], cleanup.report, cleanup.calls⟩

end

theorem Step.name_injective {step step' : Step} (name : step.name = step'.name) : step = step' := by
  revert name
  cases step <;> cases step' <;> decide

/-- An attempt expired exactly if the run's events say that the shared deadline cut its step off. -/
theorem Exercised.expired_iff {cs : List Attempt} (exercised : Exercised config load env s as cs r f t)
    (member : a ∈ as) :
    a.Expired ↔ config.cutOff a.step ∈ (as ++ cs).flatMap (·.events config load) := by
  have budget : a.guard.budget = config.timeout := by
    have step := shared_not_cleanup (exercised.shared member)
    rw [exercised.guarded a (List.mem_append_left _ member), Config.guardOf, if_neg step]
  rw [Attempt.Expired, budget, List.mem_flatMap]
  constructor
  · intro expired
    exact ⟨a, List.mem_append_left _ member, List.mem_append_right _ (by simp [Config.cutOff, expired])⟩
  · rintro ⟨b, other, ends⟩
    obtain ⟨name, expired⟩ : a.step.name = b.step.name ∧
        some (.timedOut a.step.name config.timeout) = b.failure? := by
      rcases List.mem_append.mp ends with activity | ended
      · cases step : b.step <;> simp [step, Config.activity, Config.call?, Config.cutOff] at activity
      · simpa [Config.cutOff] using ended
    rw [same_attempt exercised.distinct (List.mem_append_left _ member) other (Step.name_injective name)]
      at expired ⊢
    exact expired.symm

namespace Ran
variable {cs cs' : List Attempt} {result result' : Except Aborted Report}

theorem expired_iff (ran : Ran config env s as cs result t) :
    ∃ es, t.events = s.events ++ es ∧
      ∀ a ∈ as, a.step ∈ sharedSteps ∧ (a.Expired ↔ config.cutOff a.step ∈ es) := by
  cases ran with
  | invalid | forgone | refused => exact ⟨[], (List.append_nil _).symm, by simp⟩
  | @exercised _ load _ _ _ _ _ _ _ exercised =>
    refine ⟨.opened :: ((as ++ cs).flatMap (·.events config load) ++ [.closed]), ?_, ?_⟩
    · simp [exercised.events]
    · intro a member
      refine ⟨exercised.shared member, (exercised.expired_iff member).trans ?_⟩
      simp [Config.cutOff]

theorem agree (same : env.connector.SameButAdvice env'.connector) (prober : env.prober = env'.prober)
    (never : env.cancellation = .never) (never' : env'.cancellation = .never)
    (advises : env.connector.Advises) (advises' : env'.connector.Advises)
    (ran : Ran config env s as cs result t) (ran' : Ran config env' s as' cs' result' t')
    (expiry : ∀ a ∈ as, ∀ a' ∈ as', a.step = a'.step → a.step.isAdvisory = false →
      (a.Expired ↔ a'.Expired)) :
    Agree (reportOf result) (reportOf result') (failureOf result) (failureOf result') t t' := by
  have looks : s.fires env.cancellation = s.fires env'.cancellation := by rw [never, never']
  have opening := same.opening
  obtain ⟨rfl, calls, calls'⟩ | ⟨load, valid, quiet, opens⟩ :=
    ran.alike_or_opens ran' rfl rfl looks opening
  · exact ⟨rfl, rfl, calls.trans calls'.symm⟩
  · obtain ⟨r, f, u, rfl, rfl, exercised⟩ := ran.opened valid quiet opens
    obtain ⟨r', f', u', rfl, rfl, exercised'⟩ :=
      ran'.opened valid (looks.symm.trans quiet) (opening ▸ opens)
    have fresh : (s.looked env.cancellation).cancelled = false := quiet
    have fresh' : (s.looked env'.cancellation).cancelled = false := looks.symm.trans quiet
    have agree := exercised.agree same prober never never' advises advises' exercised' (by simp) fresh
      fresh' expiry
    rw [reportOf_conclude, reportOf_conclude, failureOf_conclude, failureOf_conclude]
    exact ⟨agree.failure, agree.report, by simp [agree.calls]⟩

end Ran

end

/-- What a control plane answers to advisory calls changes neither the calls of a run nor its
result, its failure or its report, apart from what the report says about the advisory steps, unless
the shared deadline cuts off other steps. Both runs come to an end if their durations fit the clock. -/
theorem advice_costs_only_time (config : Config) (env env' : Environment) (s : Session)
    (same : env.connector.SameButAdvice env'.connector) (prober : env.prober = env'.prober)
    (advises : env.connector.Advises) (advises' : env'.connector.Advises)
    (never : env.cancellation = .never) (never' : env'.cancellation = .never) :
    (∀ result t result' t', run config env s = .ok (result, t) → run config env' s = .ok (result', t') →
      ∃ es es', t.acts = s.acts ++ es ∧ t'.acts = s.acts ++ es' ∧
        ((∀ step ∈ sharedSteps, step.isAdvisory = false →
            (config.cutOff step ∈ es ↔ config.cutOff step ∈ es')) →
          callsIn es = callsIn es' ∧ failureOf result = failureOf result' ∧
            (reportOf result).withoutAdvice = (reportOf result').withoutAdvice)) ∧
    (Fits config env s.now →
      (∃ result t, run config env s = .ok (result, t)) ∧ ∃ result' t', run config env' s = .ok (result', t')) := by
  refine ⟨?_, fun fits => ?_⟩
  · intro result t result' t' ended ended'
    obtain ⟨as, cs, ran⟩ := ran_of_run ended
    obtain ⟨as', cs', ran'⟩ := ran_of_run ended'
    obtain ⟨es, acts, expired⟩ := ran.expired_iff
    obtain ⟨es', acts', expired'⟩ := ran'.expired_iff
    refine ⟨es, es', acts, acts', fun cutOff => ?_⟩
    have expiry : ∀ a ∈ as, ∀ a' ∈ as', a.step = a'.step → a.step.isAdvisory = false →
        (a.Expired ↔ a'.Expired) := by
      intro a member a' member' step acting
      obtain ⟨shared, expired⟩ := expired a member
      rw [expired, (expired' a' member').2, ← step]
      exact cutOff a.step shared acting
    have agree := ran.agree same prober never never' advises advises' ran' expiry
    refine ⟨?_, agree.failure, agree.report⟩
    have calls := agree.calls
    rw [Session.calls_eq, Session.calls_eq, acts, acts', callsIn_append, callsIn_append] at calls
    exact List.append_cancel_left calls
  · have fits' : Fits config env' s.now := ⟨fits.clock, prober ▸ fits.prober⟩
    exact ⟨run_returns fits, run_returns fits'⟩

theorem inMemory_advises (plane : MemoryPlane) (most : Nat) :
    (inMemory plane most).connector.Advises := by
  intro calls rpc request e _ failed
  simp only [inMemory, MemoryPlane.connector, MemoryPlane.answer] at failed
  split at failed <;> cases failed <;> rfl

/-- Control planes in memory that list the same associations and behave alike at all other calls
differ in their advice only. -/
theorem inMemory_sameButAdvice {plane plane' : MemoryPlane} (most : Nat)
    (listed : plane.ikeSas = plane'.ikeSas)
    (behaves : ∀ rpc, rpc.isAdvisory = false → plane.behavior rpc = plane'.behavior rpc) :
    (inMemory plane most).connector.SameButAdvice (inMemory plane' most).connector := by
  refine ⟨rfl, fun calls rpc request acting => ?_⟩
  have responses : plane.response rpc request = plane'.response rpc request := by
    cases rpc
    case listSas => simp only [MemoryPlane.response, listed]
    all_goals rfl
  have answers : plane.answer rpc request = plane'.answer rpc request := by
    simp only [MemoryPlane.answer, behaves rpc acting, responses]
  simp only [inMemory, MemoryPlane.connector, answers, and_self]

/-- A control plane that takes a while to negotiate. -/
def unhurried : MemoryPlane := ({} : MemoryPlane).behave .initiate (.delay (.ofSeconds 1))

/-- The same control plane, when it tells no status and is slow to tell its version. -/
def reticent (delay : Duration) : MemoryPlane :=
  (unhurried.behave .stats (.reject .permissionDenied "no")).behave .version (.delay delay)

theorem reticent_sameButAdvice (delay : Duration) : (inMemory unhurried 5).connector.SameButAdvice
    (inMemory (reticent delay) 5).connector := by
  refine inMemory_sameButAdvice 5 rfl fun rpc acting => ?_
  cases rpc <;> first | rfl | contradiction

theorem advice_costs_only_time_in_memory :
    ∃ result t result' t', run {} (inMemory unhurried 5) { now := ⟨0⟩ } = .ok (result, t) ∧
      run {} (inMemory (reticent (.ofSeconds 3)) 5) { now := ⟨0⟩ } = .ok (result', t') ∧
      failureOf result = failureOf result' ∧
      (reportOf result).withoutAdvice = (reportOf result').withoutAdvice := by
  have observed : shows {} (inMemory unhurried 5) { now := ⟨0⟩ } (fun _ t =>
      sharedSteps.all fun step => !t.acts.contains (Config.cutOff {} step)) = true := by
    decide +kernel
  have observed' : shows {} (inMemory (reticent (.ofSeconds 3)) 5) { now := ⟨0⟩ } (fun _ t =>
      sharedSteps.all fun step => !t.acts.contains (Config.cutOff {} step)) = true := by
    decide +kernel
  obtain ⟨result, t, ended, seen⟩ := run_of_shows observed
  obtain ⟨result', t', ended', seen'⟩ := run_of_shows observed'
  obtain ⟨es, es', acts, acts', alike⟩ := (advice_costs_only_time {} _ _ _
    (reticent_sameButAdvice (.ofSeconds 3)) rfl (inMemory_advises _ 5) (inMemory_advises _ 5) rfl rfl).1
    result t result' t' ended ended'
  simp only [List.all_eq_true, Bool.not_eq_true', List.contains_eq_mem, decide_eq_false_iff_not,
    acts, acts'] at seen seen'
  have unaffected := alike fun step shared _ => iff_of_false (seen step shared) (seen' step shared)
  exact ⟨result, t, result', t', ended, ended', unaffected.2⟩

/-- A version that is not told in time leaves no time to negotiate. -/
theorem slow_version_fails_negotiation :
    (inMemory unhurried 5).connector.SameButAdvice
        (inMemory (reticent (.ofSeconds 60)) 5).connector ∧
      ∃ report t aborted t', run {} (inMemory unhurried 5) { now := ⟨0⟩ } = .ok (.ok report, t) ∧
        run {} (inMemory (reticent (.ofSeconds 60)) 5) { now := ⟨0⟩ } = .ok (.error aborted, t') ∧
        aborted.failure = ⟨.initiate, .timedOut Step.initiate.name (.ofSeconds 30)⟩ := by
  have observed : shows {} (inMemory unhurried 5) { now := ⟨0⟩ } (fun result _ => result.isOk) = true := by
    decide +kernel
  have observed' : shows {} (inMemory (reticent (.ofSeconds 60)) 5) { now := ⟨0⟩ } (fun result _ =>
      failureOf result = some ⟨.initiate, .timedOut Step.initiate.name (.ofSeconds 30)⟩) = true := by
    decide +kernel
  obtain ⟨result, t, ended, succeeded⟩ := run_of_shows observed
  obtain ⟨result', t', ended', failed⟩ := run_of_shows observed'
  cases result with
  | error aborted => simp [Except.isOk, Except.toBool] at succeeded
  | ok report =>
    cases result' with
    | ok report' => simp [failureOf] at failed
    | error aborted =>
      simp only [failureOf, Option.some.injEq, decide_eq_true_eq] at failed
      exact ⟨reticent_sameButAdvice _, report, t, aborted, t', ended, ended', failed⟩

end Tunnel
end IPsecControl
