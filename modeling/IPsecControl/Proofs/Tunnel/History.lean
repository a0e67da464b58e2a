import IPsecControl.Proofs.Tunnel.Reports

/-! What attempts add up to. At every stage the attempts made so far and the steps that are
left make up the steps of the run, and the attempts alone determine what happened, which
steps are completed, what was warned about and which listing failed first. -/
namespace IPsecControl.Tunnel
open Message

section
variable {config : Config} {load : LoadConnRequest} {env : Environment} {guard : Guard}

/-- An attempt after which a run goes on: it succeeded, or its failure is tolerated. -/
def Attempt.Kept (config : Config) (a : Attempt) : Prop :=
  ∀ e, a.failure? = some e → config.tolerates ⟨a.step, e⟩ = true

namespace Advance
variable {x y : Stage} {a : Attempt}

theorem progress (advance : Advance config load env guard x a y) :
    ∃ q, x.progress.begin? a.step = .ok q ∧ y.progress = q.after a := by
  cases advance with
  | succeeded _ begun _ ok => exact ⟨_, begun, by simp only [Progress.after, ok]⟩
  | tolerated _ begun _ failed => exact ⟨_, begun, by simp only [Progress.after, failed]⟩

theorem kept (advance : Advance config load env guard x a y) : a.Kept config := by
  intro e failed
  cases advance with
  | succeeded _ _ _ ok =>
    rw [Attempt.failure?_ok ok] at failed
    contradiction
  | tolerated _ _ _ failed' tolerates =>
    rw [Attempt.failure?_error failed'] at failed
    cases failed
    exact tolerates

/-- The fields of a report that grow with each attempt. -/
theorem report (advance : Advance config load env guard x a y) :
    y.progress.report.connection = x.progress.report.connection ∧
    y.progress.report.completed = x.progress.report.completed ++ a.completes ∧
    y.progress.report.warnings =
      x.progress.report.warnings ++ a.warnings x.progress.report.connection ∧
    y.progress.report.cleanupFailures = x.progress.report.cleanupFailures ∧
    y.progress.failedListing = x.progress.failedListing.or a.failedListing? := by
  obtain ⟨q, begun, same⟩ := advance.progress
  rw [same, Progress.begin?_ok begun]
  simp [Progress.after_failedListing]

end Advance

namespace Advances
variable {x y : Stage} {as : List Attempt}

theorem steps (advances : Advances config load env guard x as y) :
    as.map (·.step) ++ y.rest = x.rest := by
  induction advances with
  | refl => rfl
  | next _ last ih => simpa [last.rest] using ih

theorem events (advances : Advances config load env guard x as y) :
    y.session.events = x.session.events ++ as.flatMap (·.events config load) := by
  induction advances with
  | refl => simp
  | next _ last ih => simp [last.made.events, ih]

theorem kept (advances : Advances config load env guard x as y) : ∀ a ∈ as, a.Kept config := by
  induction advances with
  | refl => simp
  | next _ last ih =>
    intro a member
    rcases List.mem_append.mp member with earlier | latest
    · exact ih a earlier
    · cases List.mem_singleton.mp latest
      exact last.kept

theorem connection (advances : Advances config load env guard x as y) :
    y.progress.report.connection = x.progress.report.connection := by
  induction advances with
  | refl => rfl
  | next _ last ih => exact last.report.1.trans ih

theorem completed (advances : Advances config load env guard x as y) :
    y.progress.report.completed = x.progress.report.completed ++ as.flatMap (·.completes) := by
  induction advances with
  | refl => simp
  | next _ last ih => simp [last.report.2.1, ih]

theorem warnings (advances : Advances config load env guard x as y) :
    y.progress.report.warnings = x.progress.report.warnings ++
      as.flatMap (·.warnings x.progress.report.connection) := by
  induction advances with
  | refl => simp
  | next earlier last ih => simp [last.report.2.2.1, ih, earlier.connection]

theorem cleanupFailures (advances : Advances config load env guard x as y) :
    y.progress.report.cleanupFailures = x.progress.report.cleanupFailures := by
  induction advances with
  | refl => rfl
  | next _ last ih => exact last.report.2.2.2.1.trans ih

theorem failedListing (advances : Advances config load env guard x as y) :
    y.progress.failedListing = x.progress.failedListing.or (as.findSome? (·.failedListing?)) := by
  induction advances with
  | refl => simp
  | next _ last ih => simp [last.report.2.2.2.2, ih, List.findSome?_append, Option.or_assoc]

end Advances

theorem Attempt.mem_completes {a : Attempt} {step : Step} :
    step ∈ a.completes ↔ step = a.step ∧ a.failure? = none := by
  cases failed : a.failure? <;> simp [completes, failed]

/-- The shared steps before a given one are all those that come before it. -/
theorem steps_before {before after : List Step} {step : Step}
    (split : before ++ step :: after = sharedSteps) : before = sharedSteps.takeWhile (· ≠ step) := by
  have distinct : (before ++ step :: after).Nodup := split ▸ (by decide)
  have others : ∀ other ∈ before, decide (other ≠ step) = true := by
    intro other member
    exact decide_eq_true ((List.nodup_append.mp distinct).2.2 other member step List.mem_cons_self)
  rw [← split, List.takeWhile_append_of_pos others, List.takeWhile_cons]
  simp

theorem Attempt.succeeded_listing {a : Attempt} (listing : a.step.isListing = true)
    (kept : a.failedListing? = none) : a.failure? = none := by
  simpa [failedListing?, listing] using kept

/-- A run that has no shared step left has attempted them all. -/
theorem Advances.whole {s : Session} {x : Stage} {as : List Attempt}
    (advances : Advances config load env guard (config.firstStage s) as x) (ended : x.rest = []) :
    as.map (·.step) = sharedSteps := by
  have steps : as.map (·.step) ++ x.rest = sharedSteps := advances.steps
  rwa [ended, List.append_nil] at steps

/-- The probe is begun only after a listing succeeded. -/
theorem Advances.listed_before {s : Session} {x : Stage} {as : List Attempt} {q : Progress}
    {rest : List Step} (advances : Advances config load env guard (config.firstStage s) as x)
    (next : x.rest = .probe :: rest) (begun : x.progress.begin? .probe = .ok q) :
    ∃ a ∈ as, a.step.isListing = true ∧ a.failure? = none := by
  rcases Progress.begin?_probe begun with unfailed | introspected
  · have steps := advances.steps
    rw [next] at steps
    have made : Step.listSas ∈ as.map (·.step) := by
      rw [steps_before steps]
      decide
    obtain ⟨a, member, same⟩ := List.mem_map.mp made
    have listing : a.step.isListing = true := by rw [same]; rfl
    have found := advances.failedListing
    simp only [unfailed, Config.firstStage, Option.none_or] at found
    exact ⟨a, member, listing,
      Attempt.succeeded_listing listing (List.findSome?_eq_none_iff.mp found.symm a member)⟩
  · obtain ⟨step, completed, listing⟩ := List.any_eq_true.mp introspected
    rw [advances.completed] at completed
    obtain ⟨a, member, completes⟩ := List.mem_flatMap.mp completed
    obtain ⟨rfl, succeeded⟩ := Attempt.mem_completes.mp completes
    exact ⟨a, member, listing, succeeded⟩

/-- The attempts of a run that has probed include a listing that succeeded. -/
theorem Advances.listed {s : Session} {y : Stage} {as : List Attempt}
    (advances : Advances config load env guard (config.firstStage s) as y)
    (probed : .probe ∈ as.map (·.step)) : ∃ a ∈ as, a.step.isListing = true ∧ a.failure? = none := by
  induction advances with
  | refl => contradiction
  | @next as a x y earlier last ih =>
    have before : ∃ b ∈ as, b.step.isListing = true ∧ b.failure? = none := by
      by_cases probes : a.step = .probe
      · obtain ⟨q, begun, -⟩ := last.progress
        exact earlier.listed_before (probes ▸ last.rest) (probes ▸ begun)
      · exact ih (by simpa [Ne.symm probes] using probed)
    obtain ⟨b, member, listing⟩ := before
    exact ⟨b, List.mem_append_left _ member, listing⟩

theorem Stops.steps {x : Stage} {last : Option Attempt} {r : Report} {f : Option Failure} {t : Session}
    (stops : Stops config load env guard x last r f t) : last.toList.map (·.step) <+: x.rest := by
  cases stops with
  | finished | barred | forgone => exact List.nil_prefix
  | failed => exact ⟨_, rfl⟩

theorem Stops.events {x : Stage} {last : Option Attempt} {r : Report} {f : Option Failure} {t : Session}
    (stops : Stops config load env guard x last r f t) :
    t.events = x.session.events ++ last.toList.flatMap (·.events config load) := by
  cases stops with
  | finished | barred => simp
  | forgone => exact (List.append_nil _).symm
  | failed _ _ made => simp [made.events]

theorem Attempt.completes_of_failure {a : Attempt} {e : Error} (failed : a.failure? = some e) :
    a.completes = [] := by
  simp [completes, failed]

theorem Stops.completed {x : Stage} {last : Option Attempt} {r : Report} {f : Option Failure}
    {t : Session} (stops : Stops config load env guard x last r f t) :
    r.completed = x.progress.report.completed ++ last.toList.flatMap (·.completes) := by
  cases stops with
  | finished | barred => exact (List.append_nil _).symm
  | forgone begun =>
    rw [Progress.begin?_ok begun]
    simp
  | failed _ begun _ failed =>
    rw [Progress.begin?_ok begun]
    simp [Attempt.completes_of_failure (Attempt.failure?_error failed)]

namespace Driven
variable {s t : Session} {as : List Attempt} {r : Report} {f : Option Failure}

theorem completed (driven : Driven config load env s as r f t) :
    r.completed = as.flatMap (·.completes) := by
  obtain ⟨bs, last, x, rfl, advances, stops⟩ := driven
  rw [stops.completed, advances.completed, List.flatMap_append]
  rfl

/-- The report of shared steps that went on to their end. -/
theorem report (driven : Driven config load env s as r none t) : r.connection = config.connection ∧
    r.warnings = as.flatMap (·.warnings config.connection) ∧ r.cleanupFailures = [] := by
  obtain ⟨bs, last, x, rfl, advances, stops⟩ := driven
  cases stops with
  | finished =>
    refine ⟨advances.connection, ?_, advances.cleanupFailures⟩
    rw [Option.toList_none, List.append_nil]
    exact advances.warnings

theorem steps (driven : Driven config load env s as r f t) : as.map (·.step) <+: sharedSteps := by
  obtain ⟨bs, last, x, rfl, advances, stops⟩ := driven
  have split : bs.map (·.step) ++ x.rest = sharedSteps := advances.steps
  rw [List.map_append, ← split]
  exact (List.prefix_append_right_inj _).mpr stops.steps

/-- Shared steps that went on to their end were all attempted. -/
theorem whole (driven : Driven config load env s as r none t) : as.map (·.step) = sharedSteps := by
  obtain ⟨bs, last, x, rfl, advances, stops⟩ := driven
  cases stops with
  | finished =>
    rw [Option.toList_none, List.append_nil]
    exact advances.whole rfl

theorem events (driven : Driven config load env s as r f t) :
    t.events = s.events ++ as.flatMap (·.events config load) := by
  obtain ⟨bs, last, x, rfl, advances, stops⟩ := driven
  rw [stops.events, advances.events, List.flatMap_append, List.append_assoc]
  rfl

end Driven

theorem TornDown.steps {steps : List Step} {r r' : Report} {s t : Session} {cs : List Attempt}
    {f : Option Failure} (torn : TornDown config load env steps r s cs r' f t) :
    cs.map (·.step) <+: steps := by
  induction torn with
  | finished => exact List.nil_prefix
  | forgone => exact List.nil_prefix
  | succeeded _ _ _ _ ih => exact (List.prefix_cons_inj _).mpr ih
  | failed => exact ⟨_, rfl⟩

/-- A cleanup that succeeded attempted all of its steps. -/
theorem TornDown.whole {steps : List Step} {r r' : Report} {s t : Session} {cs : List Attempt}
    {f : Option Failure} (torn : TornDown config load env steps r s cs r' f t) (finished : f = none) :
    cs.map (·.step) = steps := by
  induction torn with
  | finished => rfl
  | forgone | failed => contradiction
  | succeeded _ _ _ _ ih => rw [List.map_cons, ih finished]

theorem TornDown.events {steps : List Step} {r r' : Report} {s t : Session} {cs : List Attempt}
    {f : Option Failure} (torn : TornDown config load env steps r s cs r' f t) :
    t.events = s.events ++ cs.flatMap (·.events config load) := by
  induction torn with
  | finished => simp
  | forgone => exact (List.append_nil _).symm
  | succeeded _ made _ _ ih => simp [ih, made.events]
  | failed _ made => simp [made.events]

theorem TornDown.completed {steps : List Step} {r r' : Report} {s t : Session} {cs : List Attempt}
    {f : Option Failure} (torn : TornDown config load env steps r s cs r' f t) :
    r'.completed = r.completed ++ cs.flatMap (·.completes) := by
  induction torn with
  | finished => exact (List.append_nil _).symm
  | forgone => exact (List.append_nil _).symm
  | succeeded _ _ ok _ ih => simp [ih, Attempt.completes, Attempt.failure?_ok ok]
  | failed _ _ failed =>
    simp [Report.failCleanup, Attempt.completes_of_failure (Attempt.failure?_error failed)]

namespace CleanedUp
variable {s t : Session} {cs : List Attempt} {r r' : Report} {f : Option Failure}

theorem steps (cleaned : CleanedUp config load env r s cs r' f t) :
    cs.map (·.step) <+: cleanupSteps := by
  cases cleaned with
  | left => exact List.nil_prefix
  | tornDown _ torn => exact torn.steps

theorem events (cleaned : CleanedUp config load env r s cs r' f t) :
    t.events = s.events ++ cs.flatMap (·.events config load) := by
  cases cleaned with
  | left => exact (List.append_nil _).symm
  | tornDown _ torn => exact torn.events

end CleanedUp

namespace Exercised
variable {s t : Session} {as cs : List Attempt} {r : Report} {f : Option Failure}

theorem steps (exercised : Exercised config load env s as cs r f t) :
    as.map (·.step) <+: sharedSteps ∧ cs.map (·.step) <+: cleanupSteps := by
  cases exercised with
  | abandoned driven => exact ⟨driven.steps, List.nil_prefix⟩
  | cleanedUp driven _ cleaned => exact ⟨driven.steps, cleaned.steps⟩

/-- A run that succeeded and was not cancelled attempted every step. -/
theorem whole (exercised : Exercised config load env s as cs r f t) (finished : f = none)
    (uncancelled : t.cancelled = false) :
    as.map (·.step) = sharedSteps ∧ cs.map (·.step) = cleanupSteps := by
  cases exercised with
  | abandoned => contradiction
  | cleanedUp driven _ cleaned =>
    obtain ⟨rfl, finished⟩ := Option.or_eq_none_iff.mp finished
    cases cleaned with
    | left fires => exact absurd uncancelled (by simp [Session.looked, fires])
    | tornDown _ torn => exact ⟨driven.whole, torn.whole finished⟩

theorem events (exercised : Exercised config load env s as cs r f t) :
    t.events = s.events ++ (as ++ cs).flatMap (·.events config load) := by
  cases exercised with
  | abandoned driven => rw [driven.events, List.append_nil]
  | cleanedUp driven _ cleaned =>
    rw [cleaned.events, driven.events, List.flatMap_append, List.append_assoc]

end Exercised

/-- The calls of attempts are those of their steps. -/
theorem callsIn_attempts (config : Config) (load : LoadConnRequest) (as : List Attempt) :
    callsIn (as.flatMap (·.events config load)) = (as.map (·.step)).filterMap (config.call? load) := by
  induction as with
  | nil => rfl
  | cons a rest ih =>
    rw [List.flatMap_cons, callsIn_append, ih, a.callsIn_events, List.map_cons, List.filterMap_cons]
    cases config.call? load a.step <;> rfl

theorem Driven.calls {s t : Session} {as : List Attempt} {r : Report} {f : Option Failure}
    (driven : Driven config load env s as r f t) :
    t.calls = s.calls ++ (as.map (·.step)).filterMap (config.call? load) := by
  rw [Session.calls_eq, driven.events, callsIn_append, callsIn_attempts, ← Session.calls_eq]

theorem Exercised.calls {s t : Session} {as cs : List Attempt} {r : Report} {f : Option Failure}
    (exercised : Exercised config load env s as cs r f t) :
    t.calls = s.calls ++ ((as.map (·.step)).filterMap (config.call? load) ++
      (cs.map (·.step)).filterMap (config.call? load)) := by
  rw [Session.calls_eq, exercised.events, callsIn_append, callsIn_attempts, List.map_append,
    List.filterMap_append, ← Session.calls_eq]

theorem rpcs_of_steps (config : Config) (load : LoadConnRequest) (steps : List Step) :
    (steps.filterMap (config.call? load)).map (·.rpc) = steps.filterMap (·.rpc?) := by
  rw [List.map_filterMap]
  congr 1
  funext step
  exact call?_rpc config load step

end
end IPsecControl.Tunnel
