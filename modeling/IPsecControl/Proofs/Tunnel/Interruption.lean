import IPsecControl.Proofs.Tunnel.States

/-! Interruption. A run that is cancelled makes no call any more. The call that is on its way when
the run is cancelled is its last one; what was negotiated by then is left as it is, and the report
shows the state in which that call was made. -/
namespace IPsecControl.Tunnel
open Message

/-- The call was made by the instant, and is then neither answered nor past its deadline. -/
def Attempt.Pending (a : Attempt) (c : Instant) : Prop :=
  a.issued ≤ c ∧ c < a.issued.afterWait a.reply.delay ∧ c < a.guard.deadline

section
variable (config : Config)

/-- The failure of an attempt that the run does not pass over. -/
def Attempt.fatal? (a : Attempt) : Option Failure :=
  (a.failure?.map (⟨a.step, ·⟩)).filter (!config.tolerates ·)

/-- The failure that attempts bring on a run: the first that it does not pass over or, when none
of its listings succeeded, that of the first listing. -/
def Config.fatal? (as : List Attempt) : Option Failure :=
  (as.findSome? (·.fatal? config)).or <|
    if as.any fun a => a.step.isListing && a.failure?.isNone then none
    else as.findSome? (·.failedListing?)

/-- What a run that is cancelled during an attempt ends with, given the attempts before. -/
structure Interrupted (before : List Attempt) (a : Attempt) (r : Report) (f : Option Failure) :
    Prop where
  cancelled : a.failure? = some (.cancelled a.step.name)
  /-- A shared step that is cancelled fails the run, and nothing is cleaned up. -/
  fails : a.step ∉ cleanupSteps →
    f = some ⟨a.step, .cancelled a.step.name⟩ ∧ ∀ b ∈ before, b.step ∉ cleanupSteps
  unloaded : a.step ∈ [Step.version, .stats, .loadConn] → r.state = .unloaded
  negotiating : a.step ∈ [Step.initiate, .listSas, .listConns, .listCerts] → r.state = .negotiating
  established : a.step ∈ [Step.probe, .rekey] → r.state = .established
  /-- A cleanup step that is cancelled is recorded, and fails a run that nothing failed before. -/
  recorded : a.step ∈ cleanupSteps →
    ⟨a.step, (Error.cancelled a.step.name).message⟩ ∈ r.cleanupFailures
  outweighed : a.step ∈ cleanupSteps →
    f = some ((config.fatal? before).getD ⟨a.step, .cancelled a.step.name⟩)

end

section
variable {config : Config} {load : LoadConnRequest} {env : Environment} {guard : Guard}
variable {s t : Session} {a : Attempt} {as cs done : List Attempt} {r r' : Report}
variable {f : Option Failure} {e : Error} {c : Instant}

namespace Attempt

theorem failure?_cancelled (wake : a.wake = .cancelled) :
    a.failure? = some (.cancelled a.step.name) := by
  simp only [failure?, result, wake, Guard.outcome, Guard.failure?]

theorem fatal?_succeeded (succeeded : a.failure? = none) : a.fatal? config = none := by
  simp [fatal?, succeeded]

theorem fatal?_kept (kept : a.Kept config) : a.fatal? config = none := by
  cases failed : a.failure? with
  | none => exact fatal?_succeeded failed
  | some e => simp [fatal?, failed, kept e failed]

theorem fatal?_failed (failed : a.failure? = some e) (fatal : config.tolerates ⟨a.step, e⟩ = false) :
    a.fatal? config = some ⟨a.step, e⟩ := by
  simp [fatal?, failed, fatal]

theorem failedListing?_succeeded (succeeded : a.failure? = none) : a.failedListing? = none := by
  simp [failedListing?, succeeded]

end Attempt

/-- A call that is on its way at the instant of the cancellation is given up. -/
theorem Made.interrupted (made : Made config load env s a t) (during : env.cancellation = .during c)
    (pending : a.Pending c) : a.wake = .cancelled := by
  obtain ⟨issued, unanswered, within⟩ := pending
  have ends := made.ends
  rw [during, ← made.issued] at ends
  exact Run.wakeAt_pending ends issued unanswered within

/-- A trail that starts by the instant of the cancellation has no call after it. -/
theorem Trail.issued_by (trail : Trail config load env s as t) (during : env.cancellation = .during c)
    (early : s.now ≤ c) (member : a ∈ as) : a.issued ≤ c := by
  induction trail with
  | refl => contradiction
  | looked _ ih => exact ih early member
  | made first later ih =>
    rcases List.mem_cons.mp member with rfl | member
    · rw [first.issued]
      exact early
    · exact ih ((Trail.single first).by_cancellation during early).1 member

theorem Trail.cancelled (trail : Trail config load env s as t) (cancelled : s.cancelled = true) :
    as = [] := by
  induction trail with
  | refl => rfl
  | looked _ ih => exact ih (by simp [Session.looked, Session.fires, cancelled])
  | made first =>
    have quiet := first.quiet
    simp [Session.fires, cancelled] at quiet

/-- Each attempt looks at the token, and none is made after the look that finds it cancelled. -/
theorem Trail.by_look (trail : Trail config load env s as t) {n : Nat}
    (before : env.cancellation = .beforeLook n) (early : s.looks ≤ n) : s.looks + as.length ≤ n := by
  induction trail with
  | refl => exact early
  | @looked s t as later ih =>
    by_cases found : s.looks = n
    · -- This is the look that finds the run cancelled, and no attempt comes after it.
      have none : as = [] := later.cancelled (by simp [Session.looked, Session.fires, before, found])
      rw [none]
      exact early
    · have looked : (s.looked env.cancellation).looks = s.looks + 1 := rfl
      have counted := ih (by omega)
      omega
  | @made s t u a as first later ih =>
    have unfound : s.looks ≠ n := by
      rintro rfl
      have quiet := first.quiet
      simp [Session.fires, before] at quiet
    have looks := first.looks
    have counted := ih (by omega)
    rw [List.length_cons]
    omega

namespace Driven

/-- Shared steps that were not cancelled fail with what their attempts bring on the run. -/
theorem fatal (driven : Driven config load env s as r f t) (uncancelled : t.cancelled = false) :
    f = config.fatal? as := by
  obtain ⟨bs, last, x, rfl, advances, stops⟩ := driven
  have kept : bs.findSome? (·.fatal? config) = none :=
    List.findSome?_eq_none_iff.mpr fun b member => Attempt.fatal?_kept (advances.kept b member)
  have listing := advances.failedListing
  rw [Config.firstStage, Option.none_or] at listing
  cases stops with
  | finished =>
    obtain ⟨b, member, lists, succeeded⟩ := advances.listed (by rw [advances.whole rfl]; decide)
    have listed : bs.any (fun a => a.step.isListing && a.failure?.isNone) = true :=
      List.any_eq_true.mpr ⟨b, member, by simp [lists, succeeded]⟩
    simp [Config.fatal?, kept, listed]
  | barred bar =>
    obtain ⟨-, failed, unlisted⟩ := Progress.begin?_error bar
    have unlisted : bs.any (fun a => a.step.isListing && a.failure?.isNone) = false := by
      refine Bool.eq_false_iff.mpr fun listed => ?_
      obtain ⟨b, member, both⟩ := List.any_eq_true.mp listed
      rw [Bool.and_eq_true, Option.isNone_iff_eq_none] at both
      have completed := List.any_eq_true.mpr (advances.listing_completed ⟨b, member, both⟩)
      rw [Report.introspected, completed] at unlisted
      contradiction
    simp [Config.fatal?, kept, unlisted, ← listing, failed]
  | forgone _ fires => simp [Session.looked, fires] at uncancelled
  | failed _ _ _ failed fatal =>
    have fatal := Attempt.fatal?_failed (Attempt.failure?_error failed) fatal
    simp [Config.fatal?, List.findSome?_append, kept, fatal]

/-- A shared attempt that is cancelled is the last, and fails the run. -/
theorem interrupted (driven : Driven config load env s as r f t) (member : a ∈ as)
    (wake : a.wake = .cancelled) : (∃ before, as = before ++ [a]) ∧
      f = some ⟨a.step, .cancelled a.step.name⟩ ∧ r.path = a.step.pathAt ∧ t.cancelled = true := by
  have failed := Attempt.failure?_cancelled wake
  have fatal := not_tolerates_cancelled config a.step a.step.name
  have fails := driven.failure member failed
  rw [fatal] at fails
  have path := driven.pathAt member failed fatal
  obtain ⟨bs, last, x, rfl, advances, stops⟩ := driven
  rcases List.mem_append.mp member with earlier | latest
  · have tolerated := advances.kept a earlier _ failed
    rw [fatal] at tolerated
    contradiction
  · cases stops with
    | finished | barred | forgone => contradiction
    | failed _ _ made =>
      cases List.mem_singleton.mp latest
      exact ⟨⟨bs, rfl⟩, fails, path, by simp [made.cancelled, wake]⟩

end Driven

/-- A cleanup stops at an attempt that fails, and all those before it succeeded. -/
theorem TornDown.failed_last {steps : List Step}
    (torn : TornDown config load env steps r s cs r' f t) (member : a ∈ cs)
    (failed : a.failure? = some e) : ∃ done, cs = done ++ [a] ∧ ∀ b ∈ done, b.failure? = none := by
  induction torn with
  | finished | forgone => contradiction
  | @succeeded b rest r r' s t u outcome as f guarded made ok later ih =>
    have succeeded := Attempt.failure?_ok ok
    rcases List.mem_cons.mp member with rfl | member
    · rw [succeeded] at failed
      contradiction
    · obtain ⟨done, rfl, earlier⟩ := ih member
      exact ⟨b :: done, rfl, List.forall_mem_cons.mpr ⟨succeeded, earlier⟩⟩
  | failed =>
    cases List.mem_singleton.mp member
    exact ⟨[], rfl, by simp⟩

/-- Attempts that succeeded without listing anything bring nothing on a run. -/
theorem fatal?_append (succeeded : ∀ b ∈ done, b.failure? = none)
    (acting : ∀ b ∈ done, b.step.isListing = false) :
    config.fatal? (as ++ done) = config.fatal? as := by
  have fatal : done.findSome? (·.fatal? config) = none :=
    List.findSome?_eq_none_iff.mpr fun b member => Attempt.fatal?_succeeded (succeeded b member)
  have failed : done.findSome? (·.failedListing?) = none :=
    List.findSome?_eq_none_iff.mpr fun b member => Attempt.failedListing?_succeeded (succeeded b member)
  have unlisted : done.any (fun a => a.step.isListing && a.failure?.isNone) = false :=
    List.any_eq_false.mpr fun b member => by simp [acting b member]
  simp [Config.fatal?, List.findSome?_append, fatal, failed, unlisted]

theorem Report.state_at {step : Step} (path : r.path = step.pathAt) :
    (step ∈ [Step.version, .stats, .loadConn] → r.state = .unloaded) ∧
    (step ∈ [Step.initiate, .listSas, .listConns, .listCerts] → r.state = .negotiating) ∧
    (step ∈ [Step.probe, .rekey] → r.state = .established) := by
  have last : ∀ state, step.pathAt.getLast? = some state → r.state = state :=
    fun state last => state_of_path (path ▸ last)
  refine ⟨fun member => last _ ?_, fun member => last _ ?_, fun member => last _ ?_⟩ <;>
    · revert member
      cases step <;> decide

namespace Exercised

theorem interrupted_shared (exercised : Exercised config load env s as cs r f t) (shared : a ∈ as)
    (wake : a.wake = .cancelled) :
    ∃ before, as ++ cs = before ++ [a] ∧ Interrupted config before a r f := by
  have ended : cs = [] ∧ f = some ⟨a.step, .cancelled a.step.name⟩ ∧ r.path = a.step.pathAt ∧
      ∃ before, as = before ++ [a] := by
    cases exercised with
    | abandoned driven =>
      obtain ⟨last, fails, path, -⟩ := driven.interrupted shared wake
      exact ⟨rfl, fails, path, last⟩
    | cleanedUp driven _ cleaned =>
      obtain ⟨last, fails, path, cancelled⟩ := driven.interrupted shared wake
      cases cleaned with
      | left => exact ⟨rfl, by rw [fails, Option.some_or], path, last⟩
      -- The token stays cancelled, so that the look before the cleanup finds it so.
      | tornDown quiet => simp [Session.fires, cancelled] at quiet
  obtain ⟨rfl, fails, path, before, rfl⟩ := ended
  have acts := shared_not_cleanup (exercised.shared shared)
  obtain ⟨unloaded, negotiating, established⟩ := Report.state_at path
  refine ⟨before, List.append_nil _, Attempt.failure?_cancelled wake, fun _ => ⟨fails, ?_⟩, unloaded,
    negotiating, established, fun cleans => absurd cleans acts, fun cleans => absurd cleans acts⟩
  exact fun b earlier => shared_not_cleanup (exercised.shared (List.mem_append_left _ earlier))

theorem interrupted_cleanup (exercised : Exercised config load env s as cs r f t) (cleans : a ∈ cs)
    (wake : a.wake = .cancelled) :
    ∃ before, as ++ cs = before ++ [a] ∧ Interrupted config before a r f := by
  have acts := exercised.cleans cleans
  have apart : ∀ steps, steps ⊆ sharedSteps → a.step ∉ steps :=
    fun steps shared member => shared_not_cleanup (shared member) acts
  have acting : ∀ b ∈ cs, b.step.isListing = false := by
    have unlisted : ∀ step ∈ cleanupSteps, step.isListing = false := by decide
    exact fun b member => unlisted _ (exercised.cleans member)
  cases exercised with
  | abandoned => contradiction
  | @cleanedUp u _ _ _ _ _ g _ driven _ cleaned =>
    cases cleaned with
    | left => contradiction
    | tornDown quiet torn =>
      have cancelled := Attempt.failure?_cancelled wake
      have fails := torn.failure cleans cancelled
      have recorded := torn.cleanupFailures
      obtain ⟨done, rfl, succeeded⟩ := torn.failed_last cleans cancelled
      have going : u.cancelled = false := (Bool.or_eq_false_iff.mp quiet).1
      refine ⟨as ++ done, (List.append_assoc _ _ _).symm, cancelled,
        fun acts' => absurd acts acts', fun early => absurd early (apart _ (by decide)),
        fun early => absurd early (apart _ (by decide)),
        fun early => absurd early (apart _ (by decide)), fun _ => ?_, fun _ => ?_⟩
      · rw [recorded, fails]
        exact List.mem_append_right _ List.mem_cons_self
      · -- What failed the run before its cleanup outweighs the cancellation.
        rw [fatal?_append succeeded fun b earlier => acting b (List.mem_append_left _ earlier),
          ← driven.fatal going, fails]
        cases g <;> rfl

theorem interrupted (exercised : Exercised config load env s as cs r f t) (member : a ∈ as ++ cs)
    (wake : a.wake = .cancelled) :
    ∃ before, as ++ cs = before ++ [a] ∧ Interrupted config before a r f := by
  rcases List.mem_append.mp member with shared | cleans
  · exact exercised.interrupted_shared shared wake
  · exact exercised.interrupted_cleanup cleans wake

end Exercised

namespace Played
variable (played : Played config load env s as t) (quiet : s.fires env.cancellation = false)
include played

theorem by_cancellation (during : env.cancellation = .during c) (early : s.now ≤ c) :
    ∃ added, t.timeline = s.timeline ++ added ∧ ∀ entry ∈ added, entry.1 ≤ c := by
  obtain ⟨u, trail, rfl⟩ := played.trail
  obtain ⟨late, added, timeline, timed⟩ := trail.by_cancellation during early
  refine ⟨(s.now, .opened) :: (added ++ [(u.now, .closed)]), ?_, ?_⟩
  · rw [Session.record, timeline]
    simp [Session.record, Session.looked]
  · intro entry member
    simp only [List.mem_cons, List.mem_append, List.not_mem_nil, or_false] at member
    rcases member with rfl | earlier | rfl
    · exact early
    · exact timed entry earlier
    · exact late

theorem interrupted (during : env.cancellation = .during c) (member : a ∈ as) (pending : a.Pending c) :
    a.wake = .cancelled := by
  obtain ⟨u, trail, -⟩ := played.trail
  obtain ⟨v, w, made⟩ := trail.made_of_mem member
  exact made.interrupted during pending

include quiet in
theorem by_look {n : Nat} (before : env.cancellation = .beforeLook n) (early : s.looks ≤ n) :
    s.looks + as.length ≤ n := by
  obtain ⟨u, trail, -⟩ := played.trail
  have unfound : s.looks ≠ n := by
    rintro rfl
    simp [Session.fires, before] at quiet
  have counted := trail.by_look before (Nat.lt_of_le_of_ne early unfound)
  have looked : ((s.looked env.cancellation).record .opened).looks = s.looks + 1 := rfl
  omega

end Played

/-- The attempts of a valid run, as far as it is cancelled. -/
theorem Ran.interruption {result : Except Aborted Report} (ran : Ran config env s as cs result t)
    (valid : config.loadRequest = .ok load) :
    (s.fires env.cancellation = true →
      result = .error ⟨⟨.connect, .cancelled Step.connect.name⟩, Report.start config⟩ ∧
        t.events = s.events) ∧
    (s.fires env.cancellation = false → env.connector.opening = .ok () →
      Played config load env s (as ++ cs) t) ∧
    (∀ n, env.cancellation = .beforeLook n → s.looks ≤ n → s.looks + (as ++ cs).length ≤ n) ∧
    ∀ c, env.cancellation = .during c → s.now ≤ c →
      (∃ added, t.timeline = s.timeline ++ added ∧ ∀ entry ∈ added, entry.1 ≤ c) ∧
      ∀ a ∈ as ++ cs, a.Pending c → ∃ before, as ++ cs = before ++ [a] ∧
        Interrupted config before a (reportOf result) (failureOf result) := by
  cases ran with
  | invalid invalid => simp [valid] at invalid
  | forgone _ fires =>
    refine ⟨fun _ => ⟨rfl, rfl⟩, by simp [fires], fun _ _ early => early, fun c _ _ => ⟨?_, by simp⟩⟩
    exact ⟨[], (List.append_nil _).symm, by simp⟩
  | refused _ quiet refused =>
    refine ⟨by simp [quiet], by simp [refused], fun _ _ early => early, fun c _ _ => ⟨?_, by simp⟩⟩
    exact ⟨[], (List.append_nil _).symm, by simp⟩
  | exercised valid' quiet _ exercised =>
    rw [valid] at valid'
    cases valid'
    have played := exercised.played
    refine ⟨by simp [quiet], fun _ _ => played, fun n before early => played.by_look quiet before early,
      fun c during early => ⟨played.by_cancellation during early, fun a member pending => ?_⟩⟩
    rw [reportOf_conclude, failureOf_conclude]
    exact exercised.interrupted member (played.interrupted during member pending)

/-- A cancelled run stops and cleans nothing up. When it is cancelled before its start it does
nothing; when a look at the token finds it cancelled, or it is cancelled at an instant while it
waits, it makes no call after that. The call that is pending at that instant is the last one, and
the run ends as that call has it. -/
theorem interruption_stops (config : Config) (env : Environment) (s : Session)
    (fits : Fits config env s.now) {load : LoadConnRequest} (valid : config.loadRequest = .ok load) :
    ∃ result t attempts, run config env s = .ok (result, t) ∧
      (s.fires env.cancellation = true →
        result = .error ⟨⟨.connect, .cancelled Step.connect.name⟩, Report.start config⟩ ∧
          t.acts = s.acts) ∧
      (s.fires env.cancellation = false → env.connector.opening = .ok () →
        Played config load env s.unlogged attempts t.unlogged ∧ t.closes = s.closes + 1) ∧
      (∀ n, env.cancellation = .beforeLook n → s.looks ≤ n → s.looks + attempts.length ≤ n) ∧
      ∀ c, env.cancellation = .during c → s.now ≤ c →
        (∃ added, t.unlogged.timeline = s.unlogged.timeline ++ added ∧
          ∀ entry ∈ added, entry.1 ≤ c) ∧
        ∀ a ∈ attempts, a.Pending c → ∃ before, attempts = before ++ [a] ∧
          Interrupted config before a (reportOf result) (failureOf result) := by
  obtain ⟨as, cs, result, t, ran, ended⟩ := run_of_fits fits
  obtain ⟨forgone, played, looked, interrupted⟩ := ran.interruption valid
  refine ⟨result, t, as ++ cs, ended, forgone, fun quiet opens => ⟨played quiet opens, ?_⟩, looked,
    interrupted⟩
  obtain ⟨-, -, closes⟩ | ⟨unopened, -⟩ := ran.used.counts
  · exact closes
  · exact absurd ⟨⟨load, valid⟩, quiet, opens⟩ unopened

/-- A control plane that takes its time to negotiate, and a run that is cancelled meanwhile. -/
def slowNegotiation : Environment :=
  { inMemory (({} : MemoryPlane).behave .initiate (.delay (.ofSeconds 20))) 5 with
    cancellation := .during ⟨1000000000⟩ }

theorem interruption_stops_negotiation :
    ∃ result t before, ∃ a : Attempt, run {} slowNegotiation { now := ⟨0⟩ } = .ok (result, t) ∧
      a.step = .initiate ∧ a.Pending ⟨1000000000⟩ ∧ t.closes = 1 ∧
      issuedIn t = before.map (·.step) ++ [.initiate] ∧
      Interrupted {} before a (reportOf result) (failureOf result) := by
  have fits : Fits {} slowNegotiation ⟨0⟩ := ⟨by decide, _, rfl⟩
  obtain ⟨load, valid⟩ := reference_valid
  obtain ⟨result, t, attempts, ended, -, played, -, interrupted⟩ :=
    interruption_stops {} slowNegotiation { now := ⟨0⟩ } fits valid
  obtain ⟨played, closes⟩ := played rfl rfl
  obtain ⟨-, interrupted⟩ := interrupted ⟨1000000000⟩ rfl (Nat.zero_le _)
  have observed : shows {} slowNegotiation { now := ⟨0⟩ } (fun _ t =>
      (issuedIn t).contains .initiate) = true := by
    decide +kernel
  have issued : issuedIn t = attempts.map (·.step) := by
    rw [← issuedIn_unlogged, played.issued]
    rfl
  rw [shows_of_run ended, List.contains_iff_mem, issued] at observed
  obtain ⟨a, member, initiates⟩ := List.mem_map.mp observed
  have pending : a.Pending ⟨1000000000⟩ := by
    obtain ⟨u, trail, -⟩ := played.trail
    obtain ⟨v, w, made⟩ := trail.made_of_mem member
    have delay : a.reply.delay = .ofSeconds 20 := by
      have called : ∃ request, Config.call? {} load a.step = some ⟨.initiate, request⟩ := by
        rw [initiates]
        exact ⟨_, rfl⟩
      obtain ⟨request, called⟩ := called
      exact (reply_of_call called made.replied).1
    refine ⟨trail.issued_by rfl (Nat.zero_le _) member, ?_, ?_⟩
    · rw [delay, Instant.lt_iff, Instant.afterWait, Instant.after_nanos]
      exact Nat.lt_of_lt_of_le (by decide) (Nat.le_add_left _ _)
    · rw [played.guarded a member, Config.guardOf, initiates, if_neg (by decide)]
      exact (by decide : 1000000000 < 0 + (Config.timeout {}).nanos)
  obtain ⟨before, same, interrupted⟩ := interrupted a member pending
  rw [same, List.map_append, List.map_singleton, initiates] at issued
  exact ⟨result, t, before, a, ended, initiates, pending, closes, issued, interrupted⟩

end
end IPsecControl.Tunnel
