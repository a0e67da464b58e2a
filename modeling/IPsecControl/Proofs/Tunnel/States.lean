import IPsecControl.Proofs.Tunnel.Accounts
import Mathlib.Data.List.Infix

/-! The states of a run. The shared steps lead up to rekeying and the cleanup back to where the run
began; the state that a report shows is the one that its completed steps have led to. -/
namespace IPsecControl.Tunnel
open Message

/-- The states that the shared steps lead to, in order. -/
def ascent : List State := [.unloaded, .loaded, .negotiating, .established, .rekeyed]

/-- The states that the cleanup leads to, in order. -/
def descent : List State := [.terminated, .unloaded]

/-- The states of a report are those of a run that goes up some way, at least to negotiating if it
comes down at all, and then some way down. The last of them agrees with the completed steps. -/
structure Report.Honest (r : Report) : Prop where
  path : ∃ up down, r.path = up ++ down ∧ up <+: ascent ∧ down <+: descent ∧
    (down ≠ [] → .negotiating ∈ up)
  settled : r.state ≠ .loaded
  unloaded : r.state = .unloaded ↔ .loadConn ∉ r.completed ∨ .unloadConn ∈ r.completed
  terminated : r.state = .terminated ↔ .terminate ∈ r.completed ∧ .unloadConn ∉ r.completed
  rekeyed : r.state = .rekeyed ↔ .rekey ∈ r.completed ∧ .terminate ∉ r.completed
  listed : r.state = .established ∨ r.state = .rekeyed →
    ∃ step ∈ r.completed, step.isListing = true

/-- The report of shared steps, which only lead upwards. -/
structure Report.Ascends (r : Report) : Prop where
  path : r.path <+: ascent
  settled : r.state ≠ .loaded
  loaded : .loadConn ∈ r.completed ↔ .negotiating ∈ r.path
  rekeyed : .rekey ∈ r.completed ↔ .rekeyed ∈ r.path
  listed : .established ∈ r.path → ∃ step ∈ r.completed, step.isListing = true

/-- The states that a step enters when it succeeds. -/
def Step.states (step : Step) : List State := step.during?.toList ++ step.reached?.toList

/-- The states that a run has entered after its steps succeeded. -/
def pathAfter (steps : List Step) : List State := .unloaded :: steps.flatMap (·.states)

/-- The states that a run has entered when it stops at a shared step. -/
def Step.pathAt (step : Step) : List State :=
  pathAfter (sharedSteps.takeWhile (· ≠ step)) ++ step.during?.toList

/-- These states lead upwards, as far as the steps do that went well. -/
structure Climbs (steps : List Step) (path : List State) : Prop where
  ascends : path <+: ascent
  settled : path.getLast? ≠ some .loaded
  loaded : .loadConn ∈ steps ↔ .negotiating ∈ path
  rekeyed : .rekey ∈ steps ↔ .rekeyed ∈ path

instance (steps : List Step) (path : List State) : Decidable (Climbs steps path) :=
  decidable_of_iff (path <+: ascent ∧ path.getLast? ≠ some .loaded ∧
      (.loadConn ∈ steps ↔ .negotiating ∈ path) ∧ (.rekey ∈ steps ↔ .rekeyed ∈ path))
    ⟨fun ⟨ascends, settled, loaded, rekeyed⟩ => ⟨ascends, settled, loaded, rekeyed⟩,
      fun climbs => ⟨climbs.ascends, climbs.settled, climbs.loaded, climbs.rekeyed⟩⟩

section
variable {config : Config} {load : LoadConnRequest} {env : Environment} {guard : Guard}
variable {s t : Session} {a : Attempt} {as cs : List Attempt} {r r' q : Report}
variable {f : Option Failure} {step : Step} {state : State}

namespace Report

theorem path_getLast? (r : Report) : r.path.getLast? = some r.state := by
  simp [path]

theorem advance_path (state? : Option State) :
    (r.advance state?).path = r.path ++ state?.toList := by
  cases state? <;> simp [advance, enter, path]

theorem succeed_path (outcome : step.Outcome) :
    (r.succeed step outcome).path = r.path ++ step.reached?.toList := by
  rw [succeed, advance_path]
  simp [path, complete, keep_fields]

end Report

/-- A step whose failure may be tolerated leads to no state. -/
theorem tolerated_reaches_nothing {f : Failure} (tolerated : config.tolerates f = true) :
    f.step.reached? = none := by
  obtain ⟨step, e⟩ := f
  cases step <;> simp_all [Config.tolerates, Step.isAdvisory, Step.isListing, Step.reached?]

theorem Advance.path {x y : Stage} (advance : Advance config load env guard x a y) :
    y.progress.report.path = x.progress.report.path ++ a.step.states := by
  cases advance with
  | succeeded _ begun =>
    rw [Progress.begin?_ok begun, Step.states, ← List.append_assoc, ← Report.advance_path,
      ← Report.succeed_path]
    rfl
  | tolerated _ begun _ _ tolerates =>
    have nothing : a.step.reached? = none := tolerated_reaches_nothing tolerates
    rw [Progress.begin?_ok begun, Step.states, nothing, Option.toList_none, List.append_nil,
      ← Report.advance_path]
    rfl

theorem Advances.path {x y : Stage} (advances : Advances config load env guard x as y) :
    y.progress.report.path = x.progress.report.path ++ (as.map (·.step)).flatMap (·.states) := by
  induction advances with
  | refl => exact (List.append_nil _).symm
  | next _ last ih => simp [last.path, ih]

theorem Advances.pathAfter {y : Stage}
    (advances : Advances config load env guard (config.firstStage s) as y) :
    y.progress.report.path = pathAfter (as.map (·.step)) :=
  advances.path

theorem pathAt_climbs (shared : step ∈ sharedSteps) :
    Climbs (sharedSteps.takeWhile (· ≠ step)) step.pathAt := by
  revert shared
  cases step <;> decide

theorem established_pathAt (shared : step ∈ sharedSteps) (established : .established ∈ step.pathAt) :
    step = .probe ∨ .probe ∈ sharedSteps.takeWhile (· ≠ step) := by
  cases step <;> revert shared established <;> decide

theorem negotiating_pathAt (shared : step ∈ sharedSteps) (late : step.precedesNegotiation = false) :
    .negotiating ∈ step.pathAt := by
  cases step <;> revert shared late <;> decide

namespace Advances
variable {x : Stage} {p : Progress} {rest : List Step}

/-- The steps that a run may not fail at are completed as soon as they are behind it. -/
theorem mem_completed (advances : Advances config load env guard (config.firstStage s) as x)
    (strict : step.isAdvisory = false) (acting : step.isListing = false) :
    step ∈ x.progress.report.completed ↔ step ∈ as.map (·.step) := by
  rw [advances.completed]
  simp only [Config.firstStage, Report.start, List.nil_append, List.mem_flatMap,
    Attempt.mem_completes]
  constructor
  · rintro ⟨a, member, rfl, -⟩
    exact List.mem_map_of_mem member
  · intro member
    obtain ⟨a, made, same, succeeded⟩ := advances.succeeded strict acting member
    exact ⟨a, made, same.symm, succeeded⟩

theorem listing_completed (advances : Advances config load env guard (config.firstStage s) as x)
    (listed : ∃ a ∈ as, a.step.isListing = true ∧ a.failure? = none) :
    ∃ step ∈ x.progress.report.completed, step.isListing = true := by
  obtain ⟨a, member, listing, succeeded⟩ := listed
  refine ⟨a.step, ?_, listing⟩
  rw [advances.completed]
  exact List.mem_append_right _
    (List.mem_flatMap.mpr ⟨a, member, Attempt.mem_completes.mpr ⟨rfl, succeeded⟩⟩)

/-- A run whose attempts lead to these states, and that lists before it is established, ascends. -/
theorem ascends (advances : Advances config load env guard (config.firstStage s) as x)
    (climbs : Climbs (as.map (·.step)) r.path) (same : r.completed = x.progress.report.completed)
    (listed : .established ∈ r.path → ∃ a ∈ as, a.step.isListing = true ∧ a.failure? = none) :
    r.Ascends where
  path := climbs.ascends
  settled loaded := climbs.settled (by rw [Report.path_getLast?, loaded])
  loaded := by rw [same, advances.mem_completed rfl rfl, climbs.loaded]
  rekeyed := by rw [same, advances.mem_completed rfl rfl, climbs.rekeyed]
  listed established := same ▸ advances.listing_completed (listed established)

theorem begun_path (advances : Advances config load env guard (config.firstStage s) as x)
    (next : x.rest = step :: rest) (begun : x.progress.begin? step = .ok p) :
    p.report.path = step.pathAt := by
  have steps : as.map (·.step) ++ step :: rest = sharedSteps := next ▸ advances.steps
  rw [Progress.begin?_ok begun, Report.advance_path, Step.pathAt, ← steps_before steps,
    ← advances.pathAfter]

theorem begun_ascends (advances : Advances config load env guard (config.firstStage s) as x)
    (next : x.rest = step :: rest) (begun : x.progress.begin? step = .ok p) : p.report.Ascends := by
  have steps : as.map (·.step) ++ step :: rest = sharedSteps := next ▸ advances.steps
  have shared : step ∈ sharedSteps := by simp [← steps]
  have path := advances.begun_path next begun
  refine advances.ascends ?_ ?_ fun established => ?_
  · rw [path, steps_before steps]
    exact pathAt_climbs shared
  · rw [Progress.begin?_ok begun, Report.advance_completed]
  · -- The probe is begun only after a listing succeeded, and rekeying comes after the probe.
    rcases established_pathAt shared (path ▸ established) with rfl | probed
    · exact advances.listed_before next begun
    · exact advances.listed (steps_before steps ▸ probed)

end Advances

namespace Driven

theorem ascends (driven : Driven config load env s as r f t) : r.Ascends := by
  obtain ⟨bs, last, x, rfl, advances, stops⟩ := driven
  have steps : bs.map (·.step) ++ x.rest = sharedSteps := advances.steps
  have path := advances.pathAfter
  cases stops with
  | finished =>
    have whole := advances.whole rfl
    refine advances.ascends ?_ rfl fun _ => advances.listed (by rw [whole]; decide)
    rw [path, whole]
    decide
  | barred bar =>
    obtain ⟨rfl, -⟩ := Progress.begin?_error bar
    rw [steps_before steps] at path
    refine advances.ascends ?_ rfl fun established => ?_
    · rw [path, steps_before steps]
      decide
    · rw [path] at established
      exact absurd established (by decide)
  | forgone begun | failed _ begun => exact advances.begun_ascends rfl begun

theorem negotiating (driven : Driven config load env s as r f t)
    (late : f.any (·.step.precedesNegotiation) = false) : .negotiating ∈ r.path := by
  obtain ⟨bs, last, x, rfl, advances, stops⟩ := driven
  have steps : bs.map (·.step) ++ x.rest = sharedSteps := advances.steps
  have path := advances.pathAfter
  cases stops with
  | finished =>
    have whole := advances.whole rfl
    rw [path, whole]
    decide
  | barred bar =>
    obtain ⟨rfl, -⟩ := Progress.begin?_error bar
    rw [path, steps_before steps]
    decide
  | forgone begun | failed _ begun =>
    rw [advances.begun_path rfl begun]
    exact negotiating_pathAt (by simp [← steps]) (by simpa using late)

/-- An attempt that ended the shared steps entered the state in which its step is carried out. -/
theorem pathAt (driven : Driven config load env s as r f t) (member : a ∈ as) {e : Error}
    (failed : a.failure? = some e) (fatal : config.tolerates ⟨a.step, e⟩ = false) :
    r.path = a.step.pathAt := by
  obtain ⟨bs, last, x, rfl, advances, stops⟩ := driven
  rcases List.mem_append.mp member with earlier | latest
  · have tolerated := advances.kept a earlier e failed
    rw [fatal] at tolerated
    contradiction
  · cases stops with
    | finished | barred | forgone => contradiction
    | failed _ begun =>
      cases List.mem_singleton.mp latest
      exact advances.begun_path rfl begun

end Driven

theorem TornDown.descended {steps : List Step} (torn : TornDown config load env steps r s cs r' f t) :
    ∃ done, done <+: steps ∧ r'.completed = r.completed ++ done ∧
      r'.path = r.path ++ done.flatMap (·.reached?.toList) := by
  induction torn with
  | finished | forgone | failed =>
    exact ⟨[], List.nil_prefix, (List.append_nil _).symm, (List.append_nil _).symm⟩
  | @succeeded a rest r r' s t u outcome as f guarded made ok later ih =>
    obtain ⟨done, steps, completed, path⟩ := ih
    refine ⟨a.step :: done, (List.prefix_cons_inj _).mpr steps, ?_, ?_⟩
    · rw [completed, Report.succeed_completed, List.append_assoc]
      rfl
    · rw [path, Report.succeed_path, List.append_assoc]
      rfl

theorem CleanedUp.descended (cleaned : CleanedUp config load env r s cs r' f t) :
    ∃ done, done <+: cleanupSteps ∧ r'.completed = r.completed ++ done ∧
      r'.path = r.path ++ done.flatMap (·.reached?.toList) := by
  cases cleaned with
  | left => exact ⟨[], List.nil_prefix, (List.append_nil _).symm, (List.append_nil _).symm⟩
  | tornDown _ torn => exact torn.descended

/-- Where a run stands on its way up tells which states it has entered. -/
theorem stands {path : List State} (ascends : path <+: ascent) (last : path.getLast? = some state)
    (settled : state ≠ .loaded) :
    (state = .unloaded ↔ .negotiating ∉ path) ∧ (state = .rekeyed ↔ .rekeyed ∈ path) ∧
      (state = .established ∨ state = .rekeyed → .established ∈ path) ∧ state ≠ .terminated := by
  have decided : ∀ path ∈ ascent.inits, path.getLast? = some state →
      (state = .unloaded ↔ .negotiating ∉ path) ∧ (state = .rekeyed ↔ .rekeyed ∈ path) ∧
        (state = .established ∨ state = .rekeyed → .established ∈ path) ∧ state ≠ .terminated := by
    revert settled
    cases state <;> decide
  exact decided path ((List.mem_inits _ _).mpr ascends) last

theorem cleanup_prefix {done : List Step} (steps : done <+: cleanupSteps) :
    done = [] ∨ done = [.terminate] ∨ done = [.terminate, .unloadConn] := by
  simpa [cleanupSteps] using (List.mem_inits _ _).mpr steps

namespace Report

theorem state_of_path (path : r.path.getLast? = some state) : r.state = state := by
  rw [path_getLast?] at path
  exact Option.some.inj path

/-- A report of shared steps stays honest through the cleanup that follows them. -/
theorem Ascends.honest (ascends : r.Ascends) (undone : ∀ step ∈ cleanupSteps, step ∉ r.completed)
    {done : List Step} (steps : done <+: cleanupSteps) (completed : r'.completed = r.completed ++ done)
    (path : r'.path = r.path ++ done.flatMap (·.reached?.toList))
    (late : done ≠ [] → .negotiating ∈ r.path) : r'.Honest := by
  have way : ∃ up down, r'.path = up ++ down ∧ up <+: ascent ∧ down <+: descent ∧
      (down ≠ [] → .negotiating ∈ up) := by
    refine ⟨r.path, _, path, ascends.path, ?_, fun some => late ?_⟩
    · rcases cleanup_prefix steps with rfl | rfl | rfl <;> decide
    · rintro rfl
      exact some rfl
  have unterminated : .terminate ∉ r.completed := undone _ (by decide)
  have unloaded : .unloadConn ∉ r.completed := undone _ (by decide)
  rcases cleanup_prefix steps with rfl | rfl | rfl
  · -- Nothing was undone, and the run stands where its shared steps left it.
    have same : r'.state = r.state := state_of_path (by rw [path]; simp [path_getLast?])
    obtain ⟨down, up, listed, still⟩ := stands ascends.path r.path_getLast? ascends.settled
    rw [List.append_nil] at completed
    refine ⟨way, ?_, ?_, ?_, ?_, ?_⟩ <;> rw [same]
    · exact ascends.settled
    · simp [completed, unloaded, down, ascends.loaded]
    · simp [completed, unterminated, still]
    · simp [completed, unterminated, up, ascends.rekeyed]
    · rw [completed]
      exact fun state => ascends.listed (listed state)
  · have state : r'.state = .terminated := state_of_path (by simp [path, Step.reached?])
    have loaded : .loadConn ∈ r.completed := ascends.loaded.mpr (late (by simp))
    refine ⟨way, ?_, ?_, ?_, ?_, ?_⟩ <;> simp [state, completed, loaded, unloaded]
  · have state : r'.state = .unloaded := state_of_path (by simp [path, Step.reached?])
    refine ⟨way, ?_, ?_, ?_, ?_, ?_⟩ <;> simp [state, completed]

end Report

theorem Exercised.honest (exercised : Exercised config load env s as cs r f t) : r.Honest := by
  cases exercised with
  | abandoned driven =>
    exact driven.ascends.honest (fun _ => driven.not_completed) List.nil_prefix
      (List.append_nil _).symm (List.append_nil _).symm (absurd rfl)
  | cleanedUp driven late cleaned =>
    obtain ⟨done, steps, completed, path⟩ := cleaned.descended
    exact driven.ascends.honest (fun _ => driven.not_completed) steps completed path
      fun _ => driven.negotiating late

theorem Report.start_ascends (config : Config) : (Report.start config).Ascends := by
  constructor <;> simp [Report.start, Report.path, ascent]

theorem Driven.listed (driven : Driven config load env s as r f t) (probed : .probe ∈ as.map (·.step)) :
    ∃ step ∈ r.completed, step.isListing = true := by
  obtain ⟨bs, last, x, rfl, advances, stops⟩ := driven
  have listed : ∃ a ∈ bs, a.step.isListing = true ∧ a.failure? = none := by
    rw [List.map_append] at probed
    rcases List.mem_append.mp probed with earlier | latest
    · exact advances.listed earlier
    · cases stops with
      | finished | barred | forgone => contradiction
      | @failed a _ _ _ _ _ _ _ begun =>
        have probes : Step.probe = a.step := List.mem_singleton.mp latest
        rw [← probes] at begun
        exact advances.listed_before (congrArg (· :: _) probes.symm) begun
  obtain ⟨step, completed, listing⟩ := advances.listing_completed listed
  exact ⟨step, stops.completed ▸ List.mem_append_left _ completed, listing⟩

theorem Exercised.listed (exercised : Exercised config load env s as cs r f t)
    (probed : .probe ∈ (as ++ cs).map (·.step)) : ∃ step ∈ r.completed, step.isListing = true := by
  have shared : .probe ∈ as.map (·.step) := by
    rw [List.map_append] at probed
    rcases List.mem_append.mp probed with shared | cleans
    · exact shared
    · exact absurd (exercised.steps.2.subset cleans) (by decide)
  cases exercised with
  | abandoned driven => exact driven.listed shared
  | cleanedUp driven _ cleaned =>
    obtain ⟨done, -, completed, -⟩ := cleaned.descended
    obtain ⟨step, earlier, listing⟩ := driven.listed shared
    exact ⟨step, completed ▸ List.mem_append_left _ earlier, listing⟩

theorem Ran.honest {result : Except Aborted Report} (ran : Ran config env s as cs result t) :
    (reportOf result).Honest ∧ ∃ issued, issuedIn t = issuedIn s ++ issued ∧
      (.probe ∈ issued → ∃ step ∈ (reportOf result).completed, step.isListing = true) := by
  cases ran with
  | invalid | forgone | refused =>
    refine ⟨?_, [], (List.append_nil _).symm, by simp⟩
    exact (Report.start_ascends config).honest (by simp [Report.start]) List.nil_prefix
      (List.append_nil _).symm (List.append_nil _).symm (absurd rfl)
  | exercised _ _ _ exercised =>
    rw [reportOf_conclude]
    exact ⟨exercised.honest, _, exercised.played.issued, exercised.listed⟩

/-- Every run shows states that it passed through in order, ends in the state that its completed
steps have led to, and probes only after a listing succeeded. -/
theorem states_honest (config : Config) (env : Environment) (s : Session)
    (fits : Fits config env s.now) :
    ∃ result t issued, run config env s = .ok (result, t) ∧ issuedIn t = issuedIn s ++ issued ∧
      (reportOf result).Honest ∧
      (.probe ∈ issued → ∃ step ∈ (reportOf result).completed, step.isListing = true) := by
  obtain ⟨as, cs, result, t, ran, ended⟩ := run_of_fits fits
  obtain ⟨honest, issued, added, listed⟩ := ran.honest
  rw [issuedIn_unlogged, issuedIn_unlogged] at added
  exact ⟨result, t, issued, ended, added, honest, listed⟩

theorem states_honest_in_memory :
    ∃ result t, run {} (inMemory {} 5) { now := ⟨0⟩ } = .ok (result, t) ∧
      (reportOf result).Honest ∧ (reportOf result).path = ascent ++ descent := by
  have fits : Fits {} (inMemory {} 5) ⟨0⟩ := inMemory_fits {} {} 5 (by decide)
  obtain ⟨result, t, issued, ended, -, honest, -⟩ :=
    states_honest {} (inMemory {} 5) { now := ⟨0⟩ } fits
  have observed : shows {} (inMemory {} 5) { now := ⟨0⟩ }
      (fun result _ => (reportOf result).path = ascent ++ descent) = true := by
    decide +kernel
  rw [shows_of_run ended, decide_eq_true_eq] at observed
  exact ⟨result, t, ended, honest, observed⟩

end
end IPsecControl.Tunnel
