import IPsecControl.Proofs.Tunnel.Pairing

/-! What the cleanup cannot change. Runs against control planes that differ in how they answer
cleanup calls are one run until the cleanup begins, and a cleanup adds nothing to a report but what
it did itself. A failure from before the cleanup is what both runs end with. -/
namespace IPsecControl

/-- Two connectors open alike and answer every call alike that is not one of a cleanup. -/
structure Connector.SameButCleanup (c c' : Connector) : Prop where
  opening : c.opening = c'.opening
  answers : ∀ calls rpc request, rpc ≠ .terminate → rpc ≠ .unloadConn →
    c.answer calls rpc request = c'.answer calls rpc request

/-- A plane may be made to behave differently in its cleanup. -/
theorem MemoryPlane.behave_sameButCleanup (plane : MemoryPlane) {rpc : Rpc}
    (cleans : rpc = .terminate ∨ rpc = .unloadConn) (b : Behavior) :
    plane.connector.SameButCleanup (plane.behave rpc b).connector := by
  constructor
  · rfl
  · intro calls called request notTerminate notUnload
    have other : called ≠ rpc := by
      rintro rfl
      rcases cleans with terminates | unloads
      · exact notTerminate terminates
      · exact notUnload unloads
    simp only [connector, answer, behave, other, if_false]
    rfl

namespace Tunnel
open Message

/-- Everything that a report shows, apart from the cleanup and the states. -/
def Report.withoutCleanup (r : Report) : Report :=
  { r with
    state := .unloaded
    passed := []
    completed := r.completed.filter (· ∉ cleanupSteps)
    cleanupFailures := [] }

theorem Report.withoutCleanup_succeed (r : Report) {step : Step} (outcome : step.Outcome)
    (cleans : step ∈ cleanupSteps) : (r.succeed step outcome).withoutCleanup = r.withoutCleanup := by
  cases step
  case terminate | unloadConn =>
    simp [succeed, keep, complete, Step.reached?, advance, enter, withoutCleanup, cleanupSteps]
  all_goals simp [cleanupSteps] at cleans

section
variable {config : Config} {cleanupTimeout : Duration} {load : LoadConnRequest} {env : Environment}
variable {connector : Connector} {guard : Guard} {s t t' : Session} {a a' : Attempt}
variable {as as' cs cs' : List Attempt} {r r' : Report} {f f' : Option Failure}

section
variable (same : env.connector.SameButCleanup connector)
include same

theorem reply_sameButCleanup (calls : List Call) (step : Step) (acting : step ∉ cleanupSteps) :
    config.reply load env calls step =
      { config with cleanupTimeout }.reply load { env with connector } calls step := by
  cases step
  case terminate | unloadConn => simp [cleanupSteps] at acting
  case connect | probe => rfl
  all_goals exact congrArg Except.ok (same.answers _ _ _ (by decide) (by decide))

/-- An attempt before the cleanup is the same attempt in both runs. -/
theorem Made.coincide (made : Made config load env s a t)
    (made' : Made { config with cleanupTimeout } load { env with connector } s a' t')
    (step : a.step = a'.step) (guards : a.guard = a'.guard) (acting : a.step ∉ cleanupSteps) :
    a = a' ∧ t = t' := by
  have replies := made.reply_eq made' step (reply_sameButCleanup same _ _ acting)
  obtain ⟨-, issued, -, ends, after⟩ := made
  obtain ⟨-, issued', -, ends', after'⟩ := made'
  obtain ⟨step, guard, _, reply, wake, ended⟩ := a
  obtain ⟨step', guard', _, reply', wake', ended'⟩ := a'
  dsimp only at *
  subst guards issued issued'
  cases replies
  cases ends.symm.trans ends'
  exact ⟨rfl, after.trans after'.symm⟩

/-- Steps that are none of a cleanup go the same way in both runs. -/
theorem Drove.coincide {steps : List Step} {p : Progress} (acting : ∀ step ∈ steps, step ∉ cleanupSteps)
    (drove : Drove config load env guard ⟨steps, p, s⟩ as r f t)
    (drove' : Drove { config with cleanupTimeout } load { env with connector } guard ⟨steps, p, s⟩
      as' r' f' t') : r = r' ∧ f = f' ∧ t = t' := by
  induction steps generalizing p s as as' with
  | nil =>
    obtain ⟨-, rfl, rfl, rfl⟩ := drove.last
    obtain ⟨-, rfl, rfl, rfl⟩ := drove'.last
    exact ⟨rfl, rfl, rfl⟩
  | cons step rest ih =>
    have first' := drove'.first
    obtain ⟨g, bar, -, rfl, rfl, rfl⟩ | ⟨q, begun, fires, rfl, rfl, rfl⟩ |
      ⟨q, a, bs, u, begun, rfl, guarded, rfl, made, goes⟩ := drove.first
    · simp only [bar, reduceCtorEq, false_and, exists_false, or_false, Except.error.injEq] at first'
      obtain ⟨_, rfl, -, rfl, rfl, rfl⟩ := first'
      exact ⟨rfl, rfl, rfl⟩
    · simp only [begun, reduceCtorEq, false_and, exists_false, false_or, Except.ok.injEq] at first'
      obtain ⟨_, rfl, -, rfl, rfl, rfl⟩ | ⟨_, a', bs', u', -, -, -, -, made', -⟩ := first'
      · exact ⟨rfl, rfl, rfl⟩
      · have quiet := made'.quiet
        simp [fires] at quiet
    · simp only [begun, reduceCtorEq, false_and, exists_false, false_or, Except.ok.injEq] at first'
      obtain ⟨_, -, fires, -⟩ | ⟨_, a', bs', u', rfl, step, guarded', -, made', goes'⟩ := first'
      · have quiet := made.quiet
        simp [fires] at quiet
      · -- Both runs make the same attempt, so that it ends both or neither.
        obtain ⟨rfl, rfl⟩ := made.coincide same made' step.symm (guarded.trans guarded'.symm)
          (acting _ List.mem_cons_self)
        obtain ⟨kept, -, later⟩ | ⟨e, failed, fatal, -, rfl, rfl, rfl⟩ := goes
        · obtain ⟨-, -, later'⟩ | ⟨e', failed', fatal', -⟩ := goes'
          · exact ih (fun step member => acting step (List.mem_cons_of_mem _ member)) later later'
          · cases (kept e' failed').symm.trans fatal'
        · obtain ⟨kept', -⟩ | ⟨e', failed', -, -, rfl, rfl, rfl⟩ := goes'
          · cases (kept' e failed).symm.trans fatal
          · cases failed.symm.trans failed'
            exact ⟨rfl, rfl, rfl⟩

theorem Driven.coincide (driven : Driven config load env s as r f t)
    (driven' : Driven { config with cleanupTimeout } load { env with connector } s as' r' f' t') :
    r = r' ∧ f = f' ∧ t = t' :=
  driven.drove.coincide same (by decide) driven'.drove

end

/-- A cleanup fails with a step of its own, and shows in its own part of the report. -/
theorem TornDown.withoutCleanup {steps : List Step} (cleans : steps ⊆ cleanupSteps)
    (torn : TornDown config load env steps r s cs r' f t) :
    r'.withoutCleanup = r.withoutCleanup ∧ ∀ g, f = some g → g.step ∈ cleanupSteps := by
  induction torn with
  | finished => exact ⟨rfl, by simp⟩
  | forgone =>
    refine ⟨rfl, ?_⟩
    rintro _ ⟨⟩
    exact cleans List.mem_cons_self
  | succeeded _ _ _ _ ih =>
    obtain ⟨report, own⟩ := ih fun step member => cleans (List.mem_cons_of_mem _ member)
    rw [Report.withoutCleanup_succeed _ _ (cleans List.mem_cons_self)] at report
    exact ⟨report, own⟩
  | failed =>
    refine ⟨rfl, ?_⟩
    rintro _ ⟨⟩
    exact cleans List.mem_cons_self

theorem CleanedUp.withoutCleanup (cleaned : CleanedUp config load env r s cs r' f t) :
    r'.withoutCleanup = r.withoutCleanup ∧ ∀ g, f = some g → g.step ∈ cleanupSteps := by
  cases cleaned with
  | left => exact ⟨rfl, by simp⟩
  | tornDown _ torn => exact torn.withoutCleanup (List.Subset.refl _)

/-- Two ends of a run that differ in nothing but the cleanup. -/
structure Unmasked (r r' : Report) (f f' : Option Failure) : Prop where
  report : r.withoutCleanup = r'.withoutCleanup
  failure : ∀ g : Failure, g.step ∉ cleanupSteps → (f = some g ↔ f' = some g)

namespace Unmasked
variable {q : Report} {g : Option Failure}

theorem refl (r : Report) (f : Option Failure) : Unmasked r r f f := ⟨rfl, fun _ _ => Iff.rfl⟩

theorem symm (unmasked : Unmasked r r' f f') : Unmasked r' r f' f :=
  ⟨unmasked.report.symm, fun h early => (unmasked.failure h early).symm⟩

theorem trans (first : Unmasked r r' f f') (second : Unmasked r' q f' g) : Unmasked r q f g where
  report := first.report.trans second.report
  failure h early := (first.failure h early).trans (second.failure h early)

end Unmasked

/-- What a run does with its client ends as its shared steps do, apart from the cleanup. -/
theorem Exercised.unmasked (exercised : Exercised config load env s as cs r f t) :
    ∃ q g u, Driven config load env s as q g u ∧ Unmasked r q f g := by
  cases exercised with
  | abandoned driven => exact ⟨_, _, _, driven, .refl _ _⟩
  | cleanedUp driven _ cleaned =>
    obtain ⟨report, own⟩ := cleaned.withoutCleanup
    refine ⟨_, _, _, driven, report, ?_⟩
    intro g early
    rw [Option.or_eq_some_iff]
    constructor
    · rintro (failed | ⟨-, undone⟩)
      · exact failed
      · exact absurd (own g undone) early
    · exact Or.inl

theorem Ran.unmasked {result result' : Except Aborted Report}
    (same : env.connector.SameButCleanup connector) (ran : Ran config env s as cs result t)
    (ran' : Ran { config with cleanupTimeout } { env with connector } s as' cs' result' t') :
    Unmasked (reportOf result) (reportOf result') (failureOf result) (failureOf result') := by
  obtain ⟨rfl, -⟩ | ⟨load, valid, quiet, opens⟩ := ran.alike_or_opens ran' rfl rfl rfl same.opening
  · exact .refl _ _
  · obtain ⟨r, f, u, rfl, -, exercised⟩ := ran.opened valid quiet opens
    obtain ⟨r', f', u', rfl, -, exercised'⟩ := ran'.opened valid quiet (same.opening ▸ opens)
    obtain ⟨q, g, v, driven, unmasked⟩ := exercised.unmasked
    obtain ⟨q', g', v', driven', unmasked'⟩ := exercised'.unmasked
    obtain ⟨rfl, rfl, -⟩ := driven.coincide same driven'
    rw [reportOf_conclude, reportOf_conclude, failureOf_conclude, failureOf_conclude]
    exact unmasked.trans unmasked'.symm

/-- A run that fails before its cleanup fails in the same way, and with the same report apart from
the cleanup, however the cleanup goes. The run with the other cleanup comes to an end if its durations fit
the clock. -/
theorem cleanup_never_masks (config : Config) (cleanupTimeout : Duration) (env : Environment)
    (connector : Connector) (s : Session) (same : env.connector.SameButCleanup connector) :
    (∀ a t result' t', run config env s = .ok (.error a, t) → a.failure.step ∉ cleanupSteps →
      run { config with cleanupTimeout } { env with connector } s = .ok (result', t') →
        ∃ a', result' = .error a' ∧ a'.failure = a.failure ∧
          a'.report.withoutCleanup = a.report.withoutCleanup) ∧
    (Fits { config with cleanupTimeout } { env with connector } s.now →
      ∃ result' t', run { config with cleanupTimeout } { env with connector } s = .ok (result', t')) := by
  constructor
  · intro a t result' t' ended early ended'
    obtain ⟨as, cs, ran⟩ := ran_of_run ended
    obtain ⟨as', cs', ran'⟩ := ran_of_run ended'
    have unmasked := ran.unmasked same ran'
    have failed := (unmasked.failure a.failure early).mp rfl
    cases result' with
    | ok r => cases failed
    | error a' =>
      refine ⟨a', rfl, ?_, unmasked.report.symm⟩
      exact Option.some.inj failed
  · exact run_returns

/-- A control plane that does not rekey. -/
def unrekeyed : MemoryPlane := ({} : MemoryPlane).behave .rekey (.reject .notFound "no IKE SA")

/-- The same control plane, lost when it is asked to terminate. -/
def lostInCleanup : MemoryPlane := unrekeyed.behave .terminate (.unavailable "channel closed")

theorem cleanup_never_masks_lost_channel :
    ∃ a t a' t', run {} (inMemory unrekeyed 5) { now := ⟨0⟩ } = .ok (.error a, t) ∧
      run { cleanupTimeout := .ofSeconds 1 } (inMemory lostInCleanup 5) { now := ⟨0⟩ } =
        .ok (.error a', t') ∧
      a'.failure = a.failure ∧ a'.report.withoutCleanup = a.report.withoutCleanup ∧
      .terminate ∈ a.report.completed ∧ .terminate ∉ a'.report.completed := by
  have observed : shows {} (inMemory unrekeyed 5) { now := ⟨0⟩ } (fun result _ =>
      (failureOf result).any (·.step ∉ cleanupSteps) &&
        (reportOf result).completed.contains .terminate) = true := by
    decide +kernel
  have observed' : shows { cleanupTimeout := .ofSeconds 1 } (inMemory lostInCleanup 5) { now := ⟨0⟩ }
      (fun result _ => !(reportOf result).completed.contains .terminate) = true := by
    decide +kernel
  obtain ⟨result, t, ended, seen⟩ := run_of_shows observed
  obtain ⟨result', t', ended', seen'⟩ := run_of_shows observed'
  simp only [Bool.and_eq_true, Bool.not_eq_true', List.contains_eq_mem, decide_eq_true_eq,
    decide_eq_false_iff_not] at seen seen'
  cases result with
  | ok r => simp [failureOf] at seen
  | error a =>
    have same : unrekeyed.connector.SameButCleanup lostInCleanup.connector :=
      unrekeyed.behave_sameButCleanup (.inl rfl) _
    have early : a.failure.step ∉ cleanupSteps := of_decide_eq_true seen.1
    obtain ⟨a', rfl, failure, report⟩ := (cleanup_never_masks {} (.ofSeconds 1) (inMemory unrekeyed 5)
      lostInCleanup.connector { now := ⟨0⟩ } same).1 a t result' t' ended early ended'
    exact ⟨a, t, a', t', ended, ended', failure, report, seen.2, seen'⟩

end
end Tunnel
end IPsecControl
