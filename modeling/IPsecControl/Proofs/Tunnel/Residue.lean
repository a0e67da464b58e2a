import IPsecControl.Proofs.Tunnel.States

/-! What a run leaves loaded. A control plane may carry out a request whose answer nobody waits for
any more. The report of a run that gave up loading its connection shows it as unloaded all the
same; every other report that does so is right. -/
namespace IPsecControl.Tunnel
open Message

/-- These attempts leave no connection behind: none of them loads one, or the answer to the one
that does is a failure, or one that unloads succeeded. -/
def Cleared (as : List Attempt) : Prop :=
  (∀ a ∈ as, a.step ≠ .loadConn) ∨
    (∃ a ∈ as, a.step = .loadConn ∧ a.wake = .answered ∧ a.failure? ≠ none) ∨
    ∃ a ∈ as, a.step = .unloadConn ∧ a.failure? = none

section
variable {config : Config} {load : LoadConnRequest} {env : Environment}
variable {s t : Session} {a : Attempt} {as cs : List Attempt} {r : Report} {f : Option Failure}

/-- An attempt that is not answered fails. -/
theorem Attempt.failed_of_unanswered (unanswered : a.wake ≠ .answered) : ∃ e, a.failure? = some e := by
  refine Option.ne_none_iff_exists'.mp fun succeeded => ?_
  obtain ⟨outcome, ok⟩ := failure?_eq_none.mp succeeded
  exact unanswered (result_ok_iff.mp ok).1

namespace Exercised

/-- A run whose loading fails has nothing to clean up, and ends unloaded. -/
theorem unloaded_of_failed (exercised : Exercised config load env s as cs r f t) (member : a ∈ as)
    (loads : a.step = .loadConn) {e : Error} (failed : a.failure? = some e) :
    cs = [] ∧ r.state = .unloaded := by
  have fatal : config.tolerates ⟨a.step, e⟩ = false := by
    simp [Config.tolerates, loads, Step.isAdvisory, Step.isListing]
  cases exercised with
  | abandoned driven =>
    have path := driven.pathAt member failed fatal
    rw [loads] at path
    exact ⟨rfl, Report.state_of_path (path ▸ rfl)⟩
  | cleanedUp driven late =>
    have fails := driven.failure member failed
    rw [fatal, if_neg Bool.false_ne_true] at fails
    simp [fails, loads, Step.precedesNegotiation] at late

/-- A report shows a run as unloaded rightly, unless it gave up loading its connection. -/
theorem cleared_iff (exercised : Exercised config load env s as cs r f t) :
    (r.state = .unloaded → Cleared (as ++ cs)) ↔
      ∀ a ∈ as ++ cs, a.step = .loadConn → a.wake = .answered := by
  constructor
  · intro cleared a member loads
    by_contra unanswered
    -- The run ends there: nothing is unloaded, and its only loading was given up.
    obtain ⟨e, failed⟩ := a.failed_of_unanswered unanswered
    have shared : a ∈ as := by
      rcases List.mem_append.mp member with shared | cleans
      · exact shared
      · exact absurd (loads ▸ exercised.cleans cleans) (by decide)
    obtain ⟨rfl, unloaded⟩ := exercised.unloaded_of_failed shared loads failed
    obtain unissued | ⟨b, member', loads', answered, -⟩ | ⟨b, member', unloads, -⟩ := cleared unloaded
    · exact unissued a member loads
    · have same := same_attempt exercised.distinct member' member (loads'.trans loads.symm)
      exact unanswered (same ▸ answered)
    · rw [List.append_nil] at member'
      exact absurd (unloads ▸ exercised.shared member') (by decide)
  · intro answered unloaded
    have completed : ∀ a ∈ as ++ cs, a.failure? = none → a.step ∈ r.completed := by
      intro a member succeeded
      rw [exercised.accounted.completed]
      exact List.mem_map_of_mem (List.mem_filter.mpr ⟨member, by simp [succeeded]⟩)
    rcases exercised.honest.unloaded.mp unloaded with unloaded | unloads
    · by_cases loads : ∃ a ∈ as ++ cs, a.step = .loadConn
      · obtain ⟨a, member, loads⟩ := loads
        refine .inr (.inl ⟨a, member, loads, answered a member loads, fun succeeded => ?_⟩)
        exact unloaded (loads ▸ completed a member succeeded)
      · exact .inl fun a member loads' => loads ⟨a, member, loads'⟩
    · rw [exercised.accounted.completed] at unloads
      obtain ⟨a, member, unloads⟩ := List.mem_map.mp unloads
      obtain ⟨member, succeeded⟩ := List.mem_filter.mp member
      exact .inr (.inr ⟨a, member, unloads, Option.isNone_iff_eq_none.mp succeeded⟩)

end Exercised

/-- What any run issues, and when its report shows it as unloaded rightly. -/
theorem Ran.cleared {result : Except Aborted Report} (ran : Ran config env s as cs result t) :
    issuedIn t = issuedIn s ++ (as ++ cs).map (·.step) ∧
      (((reportOf result).state = .unloaded → Cleared (as ++ cs)) ↔
        ∀ a ∈ as ++ cs, a.step = .loadConn → a.wake = .answered) := by
  cases ran with
  | invalid | forgone | refused =>
    exact ⟨(List.append_nil _).symm, iff_of_true (fun _ => .inl (by simp)) (by simp)⟩
  | exercised _ _ _ exercised =>
    rw [reportOf_conclude]
    exact ⟨exercised.played.issued, exercised.cleared_iff⟩

/-- A run whose report shows it as unloaded has left nothing loaded, exactly if it did not give up
on the answer to the loading of its connection. -/
theorem unloaded_rightly_iff_answered (config : Config) (env : Environment) (s : Session)
    (fits : Fits config env s.now) :
    ∃ result t attempts, run config env s = .ok (result, t) ∧
      issuedIn t = issuedIn s ++ attempts.map (·.step) ∧
      (∀ load, config.loadRequest = .ok load → s.fires env.cancellation = false →
        env.connector.opening = .ok () → Played config load env s.unlogged attempts t.unlogged) ∧
      (((reportOf result).state = .unloaded → Cleared attempts) ↔
        ∀ a ∈ attempts, a.step = .loadConn → a.wake = .answered) := by
  obtain ⟨as, cs, result, t, ran, ended⟩ := run_of_fits fits
  obtain ⟨issued, cleared⟩ := ran.cleared
  rw [issuedIn_unlogged, issuedIn_unlogged] at issued
  refine ⟨result, t, as ++ cs, ended, issued, fun load valid quiet opens => ?_, cleared⟩
  obtain ⟨r, f, u, -, shown, exercised⟩ := ran.opened valid quiet opens
  exact shown ▸ exercised.played

/-- A control plane that answers a loading long after the deadline, but never with a failure. -/
def slowLoading : Environment := inMemory (({} : MemoryPlane).behave .loadConn (.delay (.ofSeconds 60))) 5

theorem slowLoading_succeeds (calls : List Call) (request : LoadConnRequest) :
    ∃ response, (slowLoading.connector.answer calls .loadConn request).outcome = .ok response :=
  ⟨_, rfl⟩

theorem unloaded_rightly_iff_answered_late :
    ∃ result t, ∃ attempts : List Attempt, run {} slowLoading { now := ⟨0⟩ } = .ok (result, t) ∧
      issuedIn t = attempts.map (·.step) ∧ (reportOf result).state = .unloaded ∧
      ¬ Cleared attempts ∧ ∃ a ∈ attempts, a.step = .loadConn ∧ a.wake ≠ .answered := by
  have fits : Fits {} slowLoading ⟨0⟩ := inMemory_fits {} _ 5 (by decide)
  obtain ⟨load, valid⟩ := reference_valid
  obtain ⟨result, t, attempts, ended, issued, played, cleared_iff⟩ :=
    unloaded_rightly_iff_answered {} slowLoading { now := ⟨0⟩ } fits
  obtain ⟨u, trail, -⟩ := (played load valid rfl rfl).trail
  have observed : shows {} slowLoading { now := ⟨0⟩ } (fun result t =>
      (reportOf result).state = .unloaded && issuedIn t = [.version, .stats, .loadConn]) = true := by
    decide +kernel
  rw [shows_of_run ended, Bool.and_eq_true, decide_eq_true_eq, decide_eq_true_eq] at observed
  obtain ⟨unloaded, steps⟩ := observed
  have issued : issuedIn t = attempts.map (·.step) := issued
  have uncleared : ¬ Cleared attempts := by
    rw [issued] at steps
    rintro (unissued | ⟨a, member, loads, answered, failed⟩ | ⟨a, member, unloads, -⟩)
    · have loads : Step.loadConn ∈ attempts.map (·.step) := by simp [steps]
      obtain ⟨a, member, loads⟩ := List.mem_map.mp loads
      exact unissued a member loads
    · obtain ⟨v, w, made⟩ := trail.made_of_mem member
      have called : Config.call? {} load a.step = some ⟨.loadConn, load⟩ := by
        rw [loads]
        rfl
      obtain ⟨outcome, ok⟩ := (reply_of_call called made.replied).2.mpr (slowLoading_succeeds _ _)
      exact failed (Attempt.failure?_eq_none.mpr ⟨outcome, Attempt.result_ok_iff.mpr ⟨answered, ok⟩⟩)
    · have issues : a.step ∈ attempts.map (·.step) := List.mem_map_of_mem member
      rw [steps, unloads] at issues
      exact absurd issues (by decide)
  refine ⟨result, t, attempts, ended, issued, unloaded, uncleared, ?_⟩
  by_contra answered
  refine uncleared (cleared_iff.mpr (fun a member loads => ?_) unloaded)
  by_contra unanswered
  exact answered ⟨a, member, loads, unanswered⟩

/-- A connection that is loaded late stays loaded, and is reported as unloaded. -/
theorem slow_loading_unloaded :
    ∃ result t, run {} slowLoading { now := ⟨0⟩ } = .ok (result, t) ∧
      (reportOf result).state = .unloaded ∧ .loadConn ∈ t.calls.map (·.rpc) ∧
      .unloadConn ∉ t.calls.map (·.rpc) ∧ ∀ calls request, ∃ response,
        (slowLoading.connector.answer calls .loadConn request).outcome = .ok response := by
  have observed : shows {} slowLoading { now := ⟨0⟩ } (fun result t =>
      (reportOf result).state = .unloaded && (t.calls.map (·.rpc)).contains .loadConn &&
        !(t.calls.map (·.rpc)).contains .unloadConn) = true := by
    decide +kernel
  obtain ⟨result, t, ended, seen⟩ := run_of_shows observed
  simp only [Bool.and_eq_true, Bool.not_eq_true', decide_eq_true_eq,
    List.contains_eq_mem, decide_eq_false_iff_not] at seen
  obtain ⟨⟨unloaded, loaded⟩, kept⟩ := seen
  exact ⟨result, t, ended, unloaded, loaded, kept, slowLoading_succeeds⟩

end
end IPsecControl.Tunnel
