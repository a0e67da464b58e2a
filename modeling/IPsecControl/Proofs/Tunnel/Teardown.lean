import IPsecControl.Proofs.Tunnel.Forecast
import IPsecControl.Proofs.Tunnel.States

/-! What success says. A run that succeeds has terminated and unloaded, unless its token was
cancelled after the last of its shared steps had ended and before the look that precedes the
cleanup: that run leaves its connection, and succeeds all the same. -/
namespace IPsecControl.Tunnel
open Message

/-- How often a run that begins in the given session has looked at its token when it comes to its
cleanup: once before its client was opened, and once before each shared step. -/
def looksBeforeCleanup (s : Session) : Nat := s.looks + 1 + sharedSteps.length

section
variable {config : Config} {load : LoadConnRequest} {env : Environment} {guard : Guard}
variable {s t base : Session} {es : List Event} {as cs : List Attempt} {r r' : Report}

theorem Answered.called {calls : List Call} {rpc : Rpc} (answered : Answered env calls es rpc) :
    rpc ∈ (callsIn es).map (·.rpc) := by
  obtain ⟨before, request, rest, response, rfl, -⟩ := answered
  simp [callsIn]

namespace Advances
variable {x y : Stage}

theorem looks (advances : Advances config load env guard x as y) :
    y.session.looks = x.session.looks + as.length := by
  induction advances with
  | refl => rfl
  | next _ last ih =>
    rw [last.made.looks, ih, List.length_append]
    rfl

theorem going (advances : Advances config load env guard x as y)
    (fresh : x.session.cancelled = false) : y.session.cancelled = false := by
  cases advances with
  | refl => exact fresh
  | next _ last => exact last.uncancelled

end Advances

/-- A run whose shared steps went on to their end is not cancelled yet. It has looked at its token
before each of them, and has rekeyed. -/
theorem Driven.completion (driven : Driven config load env s as r none t)
    (fresh : s.cancelled = false) :
    t.cancelled = false ∧ t.looks = s.looks + sharedSteps.length ∧ r.state = .rekeyed := by
  obtain ⟨bs, last, x, rfl, advances, stops⟩ := driven
  cases stops with
  | finished =>
    have whole := advances.whole rfl
    have looks := advances.looks
    rw [← List.length_map (·.step), whole] at looks
    refine ⟨advances.going fresh, looks, Report.state_of_path ?_⟩
    rw [advances.pathAfter, whole]
    decide

/-- A cleanup that succeeded had both of its calls answered. -/
theorem TornDown.answered (torn : TornDown config load env cleanupSteps r s cs r' none t)
    (since : s.events = base.events ++ es) :
    Answered env base.calls (es ++ cs.flatMap (·.events config load)) .terminate ∧
      Answered env base.calls (es ++ cs.flatMap (·.events config load)) .unloadConn := by
  obtain ⟨-, -, f, -⟩ | ⟨a, u, terminates, -, made, ended⟩ := torn.first
  · contradiction
  obtain ⟨outcome, bs, ok, rfl, later⟩ | ⟨e, -, -, -, f, -⟩ := ended
  · obtain ⟨-, -, f, -⟩ | ⟨b, v, unloads, -, made', ended⟩ := later.first
    · contradiction
    obtain ⟨outcome', ds, ok', rfl, -⟩ | ⟨e, -, -, -, f, -⟩ := ended
    · have terminated := (made.told since (Attempt.failure?_ok ok)).1 .terminate (by rw [terminates]; rfl)
      have since' : u.events = base.events ++ (es ++ a.events config load) := by
        rw [made.events, since, List.append_assoc]
      have unloaded := (made'.told since' (Attempt.failure?_ok ok')).1 .unloadConn (by rw [unloads]; rfl)
      rw [List.flatMap_cons, List.flatMap_cons, ← List.append_assoc, ← List.append_assoc]
      exact ⟨(terminated.append _).append _, unloaded.append _⟩
    · contradiction
  · contradiction

/-- The shared steps call no procedure of the cleanup. -/
theorem Driven.uncleaned {f : Option Failure} (driven : Driven config load env s as r f t) {rpc : Rpc}
    (cleans : rpc ∈ [Rpc.terminate, .unloadConn]) :
    rpc ∉ (callsIn (as.flatMap (·.events config load))).map (·.rpc) := by
  have apart : ∀ rpc ∈ [Rpc.terminate, .unloadConn], rpc ∉ sharedRpcs := by decide
  have shared : (as.map (·.step)).filterMap (·.rpc?) <+: sharedRpcs := driven.steps.filterMap Step.rpc?
  rw [callsIn_attempts, rpcs_of_steps]
  exact fun called => apart rpc cleans (shared.subset called)

/-- What a run that succeeded left behind, told by the events since a base: it was torn down, or it
was cancelled just before its cleanup and all was left. -/
theorem Exercised.completion (exercised : Exercised config load env s as cs r none t)
    (fresh : s.cancelled = false) (since : s.events = base.events ++ es)
    (uncleaned : ∀ rpc ∈ [Rpc.terminate, .unloadConn], rpc ∉ (callsIn es).map (·.rpc)) :
    (env.cancellation ≠ .beforeLook (s.looks + sharedSteps.length) ∧ r.state = .unloaded ∧
        ∀ rpc ∈ [Rpc.terminate, .unloadConn],
          Answered env base.calls (es ++ (as ++ cs).flatMap (·.events config load)) rpc) ∨
      (env.cancellation = .beforeLook (s.looks + sharedSteps.length) ∧ r.state = .rekeyed ∧
        ∀ rpc ∈ [Rpc.terminate, .unloadConn],
          rpc ∉ (callsIn (es ++ (as ++ cs).flatMap (·.events config load))).map (·.rpc)) := by
  generalize failed : (none : Option Failure) = f at exercised
  cases exercised with
  | abandoned => contradiction
  | cleanedUp driven late cleaned =>
    obtain ⟨rfl, rfl⟩ := Option.or_eq_none_iff.mp failed.symm
    obtain ⟨going, looks, rekeyed⟩ := driven.completion fresh
    -- The token was not cancelled up to here, so the look fires only if it is cancelled for it.
    have fires : ∀ c, Session.fires c _ = decide (c = .beforeLook _) := fun c => by
      rw [Session.fires, going, Bool.false_or, looks]
    cases cleaned with
    | left cancelled =>
      refine .inr ⟨of_decide_eq_true ((fires _).symm.trans cancelled), rekeyed, fun rpc cleans => ?_⟩
      rw [List.append_nil, callsIn_append, List.map_append, List.mem_append]
      exact not_or.mpr ⟨uncleaned rpc cleans, driven.uncleaned cleans⟩
    | tornDown quiet torn =>
      have since' := driven.events
      rw [since, List.append_assoc] at since'
      obtain ⟨terminated, unloaded⟩ := torn.answered since'
      refine .inl ⟨of_decide_eq_false ((fires _).symm.trans quiet), torn.unloaded.1, ?_⟩
      rw [List.append_assoc] at terminated unloaded
      simp only [List.flatMap_append, List.forall_mem_cons]
      exact ⟨terminated, unloaded, by simp⟩

/-- A run that succeeded exercised its client to the end. -/
theorem Ran.succeeded (ran : Ran config env s as cs (.ok r) t) :
    ∃ load u, s.fires env.cancellation = false ∧ t = u.record .closed ∧
      Exercised config load env ((s.looked env.cancellation).record .opened) as cs r none u := by
  generalize succeeded : (.ok r : Except Aborted Report) = result at ran
  cases ran with
  | invalid | forgone | refused => contradiction
  | @exercised u load _ _ _ f _ quiet _ exercised =>
    cases f with
    | some f => contradiction
    | none =>
      cases succeeded
      exact ⟨load, u, quiet, rfl, exercised⟩

end

/-- A run that succeeds has torn down what it set up, exactly if its token was not cancelled
between the end of its last shared step and the look before its cleanup. Otherwise it has called
for no cleanup, and its report shows it as rekeyed. -/
theorem success_torn_down_iff (config : Config) (env : Environment) (s t : Session) (report : Report)
    (succeeded : run config env s = .ok (.ok report, t)) :
    ∃ es, t.acts = s.acts ++ es ∧
      ((Answered env s.calls es .terminate ∧ Answered env s.calls es .unloadConn ∧
          report.state = .unloaded) ↔ env.cancellation ≠ .beforeLook (looksBeforeCleanup s)) ∧
      (env.cancellation = .beforeLook (looksBeforeCleanup s) → report.state = .rekeyed ∧
        ∀ rpc ∈ [Rpc.terminate, .unloadConn], rpc ∉ (callsIn es).map (·.rpc)) := by
  obtain ⟨as, cs, ran⟩ := ran_of_run succeeded
  obtain ⟨load, u, quiet, shown, exercised⟩ := ran.succeeded
  have opened : ((s.unlogged.looked env.cancellation).record .opened).events =
      s.unlogged.events ++ [.opened] := Session.record_events _ _
  have fresh : (s.unlogged.looked env.cancellation).cancelled = false := quiet
  have completion := exercised.completion fresh opened (by decide)
  rw [s.calls_unlogged] at completion
  have acts : t.acts = s.acts ++ ([.opened] ++ (as ++ cs).flatMap (·.events config load) ++ [.closed]) := by
    rw [Session.acts, shown, Session.record_events, exercised.events, opened, List.append_assoc,
      List.append_assoc]
    rfl
  have called : callsIn ([.opened] ++ (as ++ cs).flatMap (·.events config load) ++ [.closed]) =
      callsIn ([.opened] ++ (as ++ cs).flatMap (·.events config load)) := by
    rw [callsIn_append]
    exact List.append_nil _
  refine ⟨_, acts, ?_⟩
  rw [called]
  obtain ⟨early, unloaded, answered⟩ | ⟨late, rekeyed, uncalled⟩ := completion
  · have terminated := (answered .terminate (by decide)).append [.closed]
    have unloads := (answered .unloadConn (by decide)).append [.closed]
    exact ⟨iff_of_true ⟨terminated, unloads, unloaded⟩ early, fun late => absurd late early⟩
  · refine ⟨iff_of_false (fun torn => ?_) (absurd late), fun _ => ⟨rekeyed, uncalled⟩⟩
    rw [rekeyed] at torn
    exact absurd torn.2.2 (by decide)

/-- A control plane in memory, with a token that is cancelled right before the cleanup. -/
def cancelledBeforeCleanup : Environment :=
  { inMemory {} 5 with cancellation := .beforeLook (looksBeforeCleanup { now := ⟨0⟩ }) }

theorem success_torn_down_iff_cancelled :
    ∃ report t es, run {} cancelledBeforeCleanup { now := ⟨0⟩ } = .ok (.ok report, t) ∧ t.acts = es ∧
      ¬ Answered cancelledBeforeCleanup [] es .terminate ∧ report.state = .rekeyed := by
  have observed : shows {} cancelledBeforeCleanup { now := ⟨0⟩ } (fun result _ => result.isOk) = true := by
    decide +kernel
  obtain ⟨result, t, ended, succeeded⟩ := run_of_shows observed
  cases result with
  | error aborted => simp [Except.isOk, Except.toBool] at succeeded
  | ok report =>
    obtain ⟨es, acts, -, left⟩ :=
      success_torn_down_iff {} cancelledBeforeCleanup { now := ⟨0⟩ } t report ended
    obtain ⟨rekeyed, uncalled⟩ := left rfl
    exact ⟨report, t, es, ended, acts, fun answered => uncalled _ (by decide) answered.called, rekeyed⟩

/-- A run that was cancelled right before its cleanup succeeds, and leaves its connection. -/
theorem cancelled_run_succeeds :
    ∃ report t, run {} cancelledBeforeCleanup { now := ⟨0⟩ } = .ok (.ok report, t) ∧
      t.cancelled = true ∧ report.state = .rekeyed ∧ .terminate ∉ t.calls.map (·.rpc) ∧
      .unloadConn ∉ t.calls.map (·.rpc) := by
  have observed : shows {} cancelledBeforeCleanup { now := ⟨0⟩ } (fun result t =>
      result.isOk && t.cancelled && (reportOf result).state = .rekeyed &&
        !(t.calls.map (·.rpc)).contains .terminate &&
        !(t.calls.map (·.rpc)).contains .unloadConn) = true := by
    decide +kernel
  obtain ⟨result, t, ended, seen⟩ := run_of_shows observed
  simp only [Bool.and_eq_true, Bool.not_eq_true', decide_eq_true_eq, List.contains_eq_mem,
    decide_eq_false_iff_not] at seen
  obtain ⟨⟨⟨⟨succeeded, cancelled⟩, rekeyed⟩, unterminated⟩, loaded⟩ := seen
  cases result with
  | error aborted => simp [Except.isOk, Except.toBool] at succeeded
  | ok report => exact ⟨report, t, ended, cancelled, rekeyed, unterminated, loaded⟩

end IPsecControl.Tunnel
