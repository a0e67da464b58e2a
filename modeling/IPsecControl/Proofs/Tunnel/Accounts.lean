import IPsecControl.Proofs.Tunnel.Trail
import Mathlib.Data.List.Nodup

/-! What a report says of the attempts of a run. An attempt that succeeded is completed; one that
failed is a warning, a failure of the cleanup or the failure of the run, and no report leaves one
out. -/
namespace IPsecControl.Tunnel
open Message

/-- A run goes on after this failure of the step: it was not given up, and the step is advisory, or
it is a listing and listings are advisory. -/
def Config.Passes (config : Config) (step : Step) (e : Error) : Prop :=
  e.isCancelled = false ∧ (step ∈ [Step.version, .stats] ∨
    step ∈ [Step.listSas, .listConns, .listCerts] ∧ config.advisoryIntrospection = true)

/-- What a report keeps is there exactly if the step that brings it is completed. Statistics of a
probe that are kept count a reply. -/
structure Report.Retains (r : Report) : Prop where
  daemon : r.daemon.isSome ↔ .version ∈ r.completed
  daemonStatus : r.daemonStatus.isSome ↔ .stats ∈ r.completed
  probe : r.probe.isSome ↔ .probe ∈ r.completed
  reachable : ∀ statistics, r.probe = some statistics → 0 < statistics.received

/-- The report of a run and the failure it ended with account for its attempts. -/
structure Accounted (config : Config) (as : List Attempt) (r : Report) (f : Option Failure) :
    Prop where
  distinct : (as.map (·.step)).Nodup
  completed : r.completed = (as.filter (·.failure?.isNone)).map (·.step)
  passed : ∀ a ∈ as, ∀ e, a.failure? = some e → config.Passes a.step e →
    ⟨a.step, e.message⟩ ∈ r.warnings
  uncleaned : ∀ a ∈ as, ∀ e, a.failure? = some e → a.step ∈ cleanupSteps →
    r.cleanupFailures = [⟨a.step, e.message⟩]
  fatal : ∀ a ∈ as, ∀ e, a.failure? = some e → a.step ∉ cleanupSteps → ¬ config.Passes a.step e →
    f = some ⟨a.step, e⟩
  /-- When every listing failed and was passed over, the first one fails the run. -/
  unlisted : (∀ step ∈ [Step.listSas, .listConns, .listCerts],
      ∃ a ∈ as, a.step = step ∧ ∃ e, a.failure? = some e ∧ config.Passes step e) →
    ∃ a ∈ as, a.step = .listSas ∧ ∃ e, a.failure? = some e ∧ f = some ⟨.listSas, e⟩
  /-- Once the shared steps went well, only the cleanup fails the run, with what it recorded. -/
  undone : .rekey ∈ r.completed → r.cleanupFailures = (f.map (·.warning)).toList
  retains : r.Retains

section
variable {config : Config} {load : LoadConnRequest} {env : Environment} {guard : Guard}
variable {s t : Session} {a b : Attempt} {as cs : List Attempt} {r r' : Report}
variable {f : Option Failure} {step : Step} {e : Error}

theorem tolerates_iff : config.tolerates ⟨step, e⟩ = true ↔ config.Passes step e := by
  cases step <;> simp [Config.tolerates, Config.Passes, Step.isAdvisory, Step.isListing]

theorem Config.Passes.shared (passes : config.Passes step e) : step ∈ sharedSteps := by
  obtain ⟨-, advisory | ⟨listing, -⟩⟩ := passes
  · revert advisory
    cases step <;> decide
  · revert listing
    cases step <;> decide

theorem Attempt.failure?_eq_some : a.failure? = some e ↔ a.result = .error e := by
  cases result : a.result with
  | ok outcome => simp [failure?_ok result]
  | error e' => simp [failure?_error result]

theorem same_attempt (distinct : (as.map (·.step)).Nodup) (left : a ∈ as) (right : b ∈ as)
    (same : a.step = b.step) : a = b :=
  List.inj_on_of_nodup_map distinct left right same

theorem completes_eq (as : List Attempt) :
    as.flatMap (·.completes) = (as.filter (·.failure?.isNone)).map (·.step) := by
  induction as with
  | nil => rfl
  | cons a rest ih =>
    rw [List.flatMap_cons, ih]
    cases failed : a.failure? <;> simp [Attempt.completes, failed]

namespace Report
variable (outcome : step.Outcome)

/-- What a successful step brings is kept in the field of that step. -/
theorem keep_values :
    (r.keep step outcome).daemon.isSome = (r.daemon.isSome || .version = step) ∧
    (r.keep step outcome).daemonStatus.isSome = (r.daemonStatus.isSome || .stats = step) ∧
    (r.keep step outcome).probe.isSome = (r.probe.isSome || .probe = step) := by
  cases step
  case listSas => simp [keep_listSas]
  all_goals simp [keep]

theorem keep_probe_of_ne (other : step ≠ .probe) : (r.keep step outcome).probe = r.probe := by
  cases step
  case probe => contradiction
  case listSas => rw [keep_listSas]
  all_goals rfl

namespace Retains

theorem start (config : Config) : (Report.start config).Retains := by
  constructor <;> simp [Report.start]

theorem advance (retains : r.Retains) (state? : Option State) : (r.advance state?).Retains := by
  cases state? with
  | none => exact retains
  | some state => exact ⟨retains.daemon, retains.daemonStatus, retains.probe, retains.reachable⟩

theorem warn (retains : r.Retains) (w : Warning) : (r.warn w).Retains :=
  ⟨retains.daemon, retains.daemonStatus, retains.probe, retains.reachable⟩

theorem failCleanup (retains : r.Retains) (f : Failure) : (r.failCleanup f).Retains :=
  ⟨retains.daemon, retains.daemonStatus, retains.probe, retains.reachable⟩

variable {outcome}

theorem succeed (retains : r.Retains) (reachable : ∀ statistics,
      (r.keep step outcome).probe = some statistics → 0 < statistics.received) :
    (r.succeed step outcome).Retains := by
  obtain ⟨daemon, daemonStatus, probe⟩ := keep_values (r := r) outcome
  have completed : ((r.keep step outcome).complete step).Retains := by
    refine ⟨?_, ?_, ?_, reachable⟩
    · simp [complete, daemon, keep_fields, retains.daemon]
    · simp [complete, daemonStatus, keep_fields, retains.daemonStatus]
    · simp [complete, probe, keep_fields, retains.probe]
  exact completed.advance step.reached?

end Retains
end Report

/-- A probe that succeeded counts a reply. -/
theorem reply_reachable {calls : List Call} {reply : Reply Step.probe.Outcome}
    {statistics : Probe.Statistics} (replied : config.reply load env calls .probe = .ok reply)
    (ok : reply.outcome = .ok statistics) : 0 < statistics.received := by
  cases probed : env.prober config.probeTarget Probe.verificationCount with
  | error cause => simp [Config.reply, probed, Except.map] at replied
  | ok raw =>
    simp only [Config.reply, probed, Except.map, Except.ok.injEq] at replied
    subst replied
    exact (Probe.verified_ok ok).2

theorem Made.retains (made : Made config load env s a t) {outcome : a.step.Outcome}
    (ok : a.result = .ok outcome) (retains : r.Retains) : (r.succeed a.step outcome).Retains := by
  refine retains.succeed fun statistics kept => ?_
  obtain ⟨step, guard, issued, reply, wake, ended⟩ := a
  by_cases probe : step = .probe
  · subst probe
    cases kept
    exact reply_reachable made.replied (Attempt.result_ok_iff.mp ok).2
  · rw [Report.keep_probe_of_ne outcome probe] at kept
    exact retains.reachable statistics kept

theorem Advance.retains {x y : Stage} (advance : Advance config load env guard x a y)
    (retains : x.progress.report.Retains) : y.progress.report.Retains := by
  cases advance with
  | succeeded _ begun made ok =>
    rw [Progress.begin?_ok begun]
    exact made.retains ok (retains.advance _)
  | tolerated _ begun =>
    rw [Progress.begin?_ok begun]
    exact (retains.advance _).warn _

theorem Advances.retains {x y : Stage} (advances : Advances config load env guard x as y)
    (retains : x.progress.report.Retains) : y.progress.report.Retains := by
  induction advances with
  | refl => exact retains
  | next _ last ih => exact last.retains ih

/-- The shared steps end with the report as it was before the attempt that ended them, but for
its state. -/
theorem Stops.report {x : Stage} {last : Option Attempt}
    (stops : Stops config load env guard x last r f t) :
    ∃ state?, r = x.progress.report.advance state? := by
  cases stops with
  | finished | barred => exact ⟨none, rfl⟩
  | forgone begun | failed _ begun => exact ⟨_, by rw [Progress.begin?_ok begun]⟩

theorem Stops.failure {x : Stage} {last : Option Attempt}
    (stops : Stops config load env guard x last r f t) (member : a ∈ last.toList) :
    ∃ e, a.failure? = some e ∧ config.tolerates ⟨a.step, e⟩ = false ∧ f = some ⟨a.step, e⟩ := by
  cases stops with
  | finished | barred | forgone => contradiction
  | failed _ _ _ failed fatal =>
    cases List.mem_singleton.mp member
    exact ⟨_, Attempt.failure?_error failed, fatal, rfl⟩

theorem rekey_last {before rest : List Step} (split : before ++ step :: rest = sharedSteps) :
    .rekey ∉ before := by
  have shared : step ∈ sharedSteps := by simp [← split]
  rw [steps_before split]
  cases step <;> revert shared <;> decide

/-- The step that follows all listings and no probe is the probe. -/
theorem probe_next {before rest : List Step} (split : before ++ step :: rest = sharedSteps)
    (listed : .listCerts ∈ before) (unprobed : .probe ∉ before) : step = .probe := by
  rw [steps_before split] at listed unprobed
  cases step <;> revert listed unprobed <;> decide

/-- If the first of all listings failed, it is the first listing that failed. -/
theorem first_listing {bs : List Attempt} {rest : List Step} {g : Failure}
    (steps : bs.map (·.step) ++ rest = sharedSteps)
    (first : bs.findSome? (·.failedListing?) = some g) (member : a ∈ bs) (lists : a.step = .listSas)
    (failed : a.failure? = some e) : g = ⟨.listSas, e⟩ := by
  obtain ⟨before, b, after, rfl, found, unfailed⟩ := List.findSome?_eq_some_iff.mp first
  obtain ⟨listing, same, failed'⟩ := Attempt.failedListing?_eq_some found
  have distinct : ((before ++ b :: after).map (·.step)).Nodup := by
    have distinct : sharedSteps.Nodup := by decide
    exact distinct.sublist (steps ▸ List.sublist_append_left _ _)
  -- A later listing would have the first one before it, which failed too.
  have foremost : b.step = .listSas := by
    by_contra later
    have split : before.map (·.step) ++ b.step :: (after.map (·.step) ++ rest) = sharedSteps := by
      simpa using steps
    have earlier : .listSas ∈ before.map (·.step) := by
      rw [steps_before split]
      revert listing later
      cases b.step <;> decide
    obtain ⟨c, member', lists'⟩ := List.mem_map.mp earlier
    have same := same_attempt distinct (List.mem_append_left _ member') member (lists'.trans lists.symm)
    have unfailed := unfailed c member'
    rw [same] at unfailed
    simp [Attempt.failedListing?, lists, failed, Step.isListing] at unfailed
  have same' := same_attempt distinct member (List.mem_append_right _ List.mem_cons_self)
    (lists.trans foremost.symm)
  rw [← same', failed] at failed'
  cases failed'
  cases g
  rw [foremost] at same
  cases same
  rfl

namespace Driven

theorem retains (driven : Driven config load env s as r f t) : r.Retains := by
  obtain ⟨bs, last, x, rfl, advances, stops⟩ := driven
  obtain ⟨state?, rfl⟩ := stops.report
  exact (advances.retains (.start config)).advance state?

theorem cleanupFailures (driven : Driven config load env s as r f t) : r.cleanupFailures = [] := by
  obtain ⟨bs, last, x, rfl, advances, stops⟩ := driven
  obtain ⟨state?, rfl⟩ := stops.report
  rw [Report.advance_cleanupFailures]
  exact advances.cleanupFailures

/-- A failure among the shared attempts is a warning if it is tolerated. Otherwise it fails the
run. -/
theorem failure (driven : Driven config load env s as r f t) (member : a ∈ as)
    (failed : a.failure? = some e) :
    if config.tolerates ⟨a.step, e⟩ then ⟨a.step, e.message⟩ ∈ r.warnings
    else f = some ⟨a.step, e⟩ := by
  obtain ⟨bs, last, x, rfl, advances, stops⟩ := driven
  rcases List.mem_append.mp member with earlier | latest
  · rw [if_pos (advances.kept a earlier e failed)]
    obtain ⟨state?, rfl⟩ := stops.report
    rw [Report.advance_warnings, advances.warnings]
    refine List.mem_append_right _ (List.mem_flatMap.mpr ⟨a, earlier, ?_⟩)
    simp [Attempt.warnings, Attempt.failure?_eq_some.mp failed]
  · obtain ⟨e', failed', fatal, rfl⟩ := stops.failure latest
    rw [failed] at failed'
    cases failed'
    rw [if_neg (by simp [fatal])]

theorem distinct (driven : Driven config load env s as r f t) : (as.map (·.step)).Nodup := by
  have distinct : sharedSteps.Nodup := by decide
  exact distinct.sublist driven.steps.sublist

/-- A run whose rekeying succeeded has its shared steps behind it. -/
theorem finished_of_rekeyed (driven : Driven config load env s as r f t) (member : a ∈ as)
    (rekeys : a.step = .rekey) (succeeded : a.failure? = none) : f = none := by
  obtain ⟨bs, last, x, rfl, advances, stops⟩ := driven
  have steps : bs.map (·.step) ++ x.rest = sharedSteps := advances.steps
  rcases List.mem_append.mp member with earlier | latest
  · have rekeyed : .rekey ∈ bs.map (·.step) := rekeys ▸ List.mem_map_of_mem earlier
    cases stops with
    | finished => rfl
    | barred | forgone | failed => exact absurd rekeyed (rekey_last steps)
  · obtain ⟨e, failed, -⟩ := stops.failure latest
    rw [succeeded] at failed
    contradiction

/-- Listings that all failed, but were tolerated, bar the probe. The run fails with the first. -/
theorem unlisted (driven : Driven config load env s as r f t)
    (failed : ∀ step ∈ [Step.listSas, .listConns, .listCerts],
      ∃ a ∈ as, a.step = step ∧ ∃ e, a.failure? = some e ∧ config.tolerates ⟨step, e⟩ = true) :
    ∃ a ∈ as, a.step = .listSas ∧ ∃ e, a.failure? = some e ∧ f = some ⟨.listSas, e⟩ := by
  have distinct := driven.distinct
  obtain ⟨bs, last, x, rfl, advances, stops⟩ := driven
  have steps : bs.map (·.step) ++ x.rest = sharedSteps := advances.steps
  have kept : ∀ step ∈ [Step.listSas, .listConns, .listCerts],
      ∃ a ∈ bs, a.step = step ∧ ∃ e, a.failure? = some e := by
    intro step listing
    obtain ⟨a, member, rfl, e, failed, tolerated⟩ := failed step listing
    refine ⟨a, ?_, rfl, e, failed⟩
    rcases List.mem_append.mp member with earlier | latest
    · exact earlier
    · obtain ⟨e', failed', fatal, -⟩ := stops.failure latest
      rw [failed] at failed'
      cases failed'
      rw [tolerated] at fatal
      contradiction
  have unlisted : ¬ ∃ b ∈ bs, b.step.isListing = true ∧ b.failure? = none := by
    rintro ⟨b, member, listing, succeeded⟩
    have among : b.step ∈ [Step.listSas, .listConns, .listCerts] := by
      revert listing
      cases b.step <;> decide
    obtain ⟨a, member', same, e, failed⟩ := kept b.step among
    have same := same_attempt distinct (List.mem_append_left _ member')
      (List.mem_append_left _ member) same
    rw [← same, failed] at succeeded
    contradiction
  -- All listings are behind the run and the probe is not, so the run stopped at the probe.
  have unprobed : .probe ∉ bs.map (·.step) := fun probed => unlisted (advances.listed probed)
  have listed : .listCerts ∈ bs.map (·.step) := by
    obtain ⟨a, member, same, -⟩ := kept .listCerts (by decide)
    exact same ▸ List.mem_map_of_mem member
  cases stops with
  | finished =>
    rw [List.append_nil] at steps
    exact absurd (steps ▸ by decide) unprobed
  | barred bar =>
    obtain ⟨-, first, -⟩ := Progress.begin?_error bar
    rw [advances.failedListing, Config.firstStage, Option.none_or] at first
    obtain ⟨a, member, lists, e, failed⟩ := kept .listSas (by decide)
    refine ⟨a, List.mem_append_left _ member, lists, e, failed, ?_⟩
    rw [first_listing steps first member lists failed]
  | forgone begun =>
    cases probe_next steps listed unprobed
    exact absurd (advances.listed_before rfl begun) unlisted
  | failed _ begun =>
    have probes := probe_next steps listed unprobed
    exact absurd (advances.listed_before (by rw [probes]) (probes ▸ begun)) unlisted

end Driven

namespace TornDown
variable {steps : List Step}

theorem retains (torn : TornDown config load env steps r s cs r' f t) (retains : r.Retains) :
    r'.Retains := by
  induction torn with
  | finished => exact retains
  | forgone => exact retains.failCleanup _
  | succeeded _ made ok _ ih => exact ih (made.retains ok retains)
  | failed => exact retains.failCleanup _

theorem warnings (torn : TornDown config load env steps r s cs r' f t) :
    r.warnings <+: r'.warnings := by
  induction torn with
  | finished | forgone | failed => exact List.prefix_refl _
  | succeeded _ _ _ _ ih =>
    rw [Report.succeed_warnings] at ih
    exact (List.prefix_append _ _).trans ih

theorem cleanupFailures (torn : TornDown config load env steps r s cs r' f t) :
    r'.cleanupFailures = r.cleanupFailures ++ (f.map (·.warning)).toList := by
  induction torn with
  | finished => exact (List.append_nil _).symm
  | forgone | failed => rfl
  | succeeded _ _ _ _ ih => rw [ih, Report.succeed_cleanupFailures]

theorem failure (torn : TornDown config load env steps r s cs r' f t) (member : a ∈ cs)
    (failed : a.failure? = some e) : f = some ⟨a.step, e⟩ := by
  induction torn with
  | finished | forgone => contradiction
  | succeeded _ _ ok _ ih =>
    rcases List.mem_cons.mp member with rfl | later
    · rw [Attempt.failure?_ok ok] at failed
      contradiction
    · exact ih later
  | failed _ _ failed' =>
    cases List.mem_singleton.mp member
    rw [Attempt.failure?_error failed'] at failed
    cases failed
    rfl

end TornDown

/-- What the attempts of a cleanup do to a report, and the failure that the cleanup ends with. -/
structure Settles (r : Report) (cs : List Attempt) (r' : Report) (f : Option Failure) : Prop where
  completed : r'.completed = r.completed ++ cs.flatMap (·.completes)
  warnings : r.warnings <+: r'.warnings
  cleanupFailures : r'.cleanupFailures = r.cleanupFailures ++ (f.map (·.warning)).toList
  retains : r.Retains → r'.Retains
  failure : ∀ a ∈ cs, ∀ e, a.failure? = some e → f = some ⟨a.step, e⟩

theorem Settles.none (r : Report) : Settles r [] r none :=
  ⟨(List.append_nil _).symm, List.prefix_refl _, (List.append_nil _).symm, id, by simp⟩

theorem CleanedUp.settles (cleaned : CleanedUp config load env r s cs r' f t) :
    Settles r cs r' f := by
  cases cleaned with
  | left => exact .none r
  | tornDown _ torn =>
    exact ⟨torn.completed, torn.warnings, torn.cleanupFailures, torn.retains,
      fun _ member _ failed => torn.failure member failed⟩

namespace Exercised

theorem settles (exercised : Exercised config load env s as cs r f t) :
    ∃ q g f' u, Driven config load env s as q g u ∧ Settles q cs r f' ∧ f = g.or f' := by
  cases exercised with
  | abandoned driven => exact ⟨_, _, none, _, driven, .none _, rfl⟩
  | cleanedUp driven _ cleaned => exact ⟨_, _, _, _, driven, cleaned.settles, rfl⟩

theorem accounted (exercised : Exercised config load env s as cs r f t) :
    Accounted config (as ++ cs) r f := by
  have distinct := exercised.distinct
  have shared : ∀ a ∈ as, a.step ∈ sharedSteps := fun _ => exercised.shared
  have cleans : ∀ a ∈ cs, a.step ∈ cleanupSteps := fun _ => exercised.cleans
  obtain ⟨q, g, f', u, driven, settles, rfl⟩ := exercised.settles
  have completed : r.completed = ((as ++ cs).filter (·.failure?.isNone)).map (·.step) := by
    rw [settles.completed, driven.completed, ← List.flatMap_append, completes_eq]
  refine ⟨distinct, completed, ?_, ?_, ?_, ?_, ?_, settles.retains driven.retains⟩
  · intro a member e failed passes
    rcases List.mem_append.mp member with early | late
    · have warned := driven.failure early failed
      rw [if_pos (tolerates_iff.mpr passes)] at warned
      exact settles.warnings.subset warned
    · exact absurd (cleans a late) (shared_not_cleanup passes.shared)
  · intro a member e failed cleanup
    rcases List.mem_append.mp member with early | late
    · exact absurd cleanup (shared_not_cleanup (shared a early))
    · rw [settles.cleanupFailures, driven.cleanupFailures, settles.failure a late e failed]
      rfl
  · intro a member e failed early fatal
    rcases List.mem_append.mp member with early | late
    · have ended := driven.failure early failed
      rw [if_neg (fun tolerated => fatal (tolerates_iff.mp tolerated))] at ended
      rw [ended]
      rfl
    · exact absurd (cleans a late) early
  · intro failed
    obtain ⟨a, member, lists, e, failed, rfl⟩ := driven.unlisted (f := g) fun step listing => by
      obtain ⟨a, member, rfl, e, failed, passes⟩ := failed step listing
      refine ⟨a, ?_, rfl, e, failed, tolerates_iff.mpr passes⟩
      rcases List.mem_append.mp member with early | late
      · exact early
      · exact absurd (cleans a late) (shared_not_cleanup passes.shared)
    exact ⟨a, List.mem_append_left _ member, lists, e, failed, rfl⟩
  · intro rekeyed
    rw [completed] at rekeyed
    obtain ⟨a, member, rekeys⟩ := List.mem_map.mp rekeyed
    obtain ⟨member, succeeded⟩ := List.mem_filter.mp member
    rcases List.mem_append.mp member with early | late
    · have finished : g = none :=
        driven.finished_of_rekeyed early rekeys (Option.isNone_iff_eq_none.mp succeeded)
      rw [settles.cleanupFailures, driven.cleanupFailures, finished, Option.none_or]
      rfl
    · exact absurd (rekeys ▸ cleans a late) (by decide)

end Exercised

/-- Every run that comes to open a client accounts for all it did with it. The steps that it
issued are those of its attempts; the ones that succeeded are completed, in order, and each failure
is reported as its step and its error have it. -/
theorem attempts_accounted (config : Config) (env : Environment) (s : Session)
    (fits : Fits config env s.now) {load : LoadConnRequest} (valid : config.loadRequest = .ok load)
    (quiet : s.fires env.cancellation = false) (opens : env.connector.opening = .ok ()) :
    ∃ result t as, run config env s = .ok (result, t) ∧
      Played config load env s.unlogged as t.unlogged ∧
      Accounted config as (reportOf result) (failureOf result) := by
  obtain ⟨as, cs, result, t, ran, ended⟩ := run_of_fits fits
  obtain ⟨r, f, u, rfl, shown, exercised⟩ := ran.opened valid quiet opens
  refine ⟨_, t, as ++ cs, ended, shown ▸ exercised.played, ?_⟩
  rw [reportOf_conclude, failureOf_conclude]
  exact exercised.accounted

theorem reference_valid : ∃ load, Config.loadRequest {} = .ok load := by
  have valid : (Config.loadRequest {}).isOk = true := by decide +kernel
  cases request : Config.loadRequest {} with
  | error e => simp [request, Except.isOk, Except.toBool] at valid
  | ok load => exact ⟨load, rfl⟩

theorem attempts_accounted_unreachable :
    ∃ result t as, run {} (inMemory {} 0) { now := ⟨0⟩ } = .ok (result, t) ∧
      Accounted {} as (reportOf result) (failureOf result) ∧
      as.map (·.step) = [.version, .stats, .loadConn, .initiate, .listSas, .listConns, .listCerts,
        .probe, .terminate, .unloadConn] ∧
      failureOf result = some ⟨.probe, .noReply "10.1.0.2" 5 0⟩ := by
  have fits : Fits {} (inMemory {} 0) ⟨0⟩ := inMemory_fits {} {} 0 (by decide)
  obtain ⟨load, valid⟩ := reference_valid
  obtain ⟨result, t, as, ended, played, accounted⟩ :=
    attempts_accounted {} (inMemory {} 0) { now := ⟨0⟩ } fits valid rfl rfl
  have observed : shows {} (inMemory {} 0) { now := ⟨0⟩ } (fun result t =>
      issuedIn t.unlogged = [.version, .stats, .loadConn, .initiate, .listSas, .listConns, .listCerts,
        .probe, .terminate, .unloadConn] &&
      failureOf result = some ⟨.probe, .noReply "10.1.0.2" 5 0⟩) = true := by
    decide +kernel
  rw [shows_of_run ended, Bool.and_eq_true, decide_eq_true_eq, decide_eq_true_eq] at observed
  exact ⟨result, t, as, ended, accounted, played.issued.symm.trans observed.1, observed.2⟩

end
end IPsecControl.Tunnel
