import IPsecControl.Proofs.Control.Recurrence
import IPsecControl.Proofs.Interchange
import IPsecControl.Proofs.Sa.Exchange

/-! Runs one after another. A run against a control plane that nobody cancels leaves nothing behind
that another run could meet: no outcome, no deadline and no call that it gave up. -/
namespace IPsecControl

/-- The probes among events, in order. -/
def probesIn (es : List Event) : List (String × Nat) :=
  es.filterMap fun | .probed target count => some (target, count) | _ => none

namespace MemoryPlane
variable (plane : MemoryPlane) (refusal : Option String)

theorem behind_steady : (plane.behind refusal).Steady := by
  intro calls rpc request
  rw [plane.behind_answer, plane.behind_answer]

/-- The plane, or a connector that refuses, for runs that nobody cancels. -/
def undisturbed (prober : Probe.Prober) : Environment where
  connector := plane.behind refusal
  prober

end MemoryPlane

namespace Tunnel
open Message

section
variable {env : Environment} {s : Session} {config : Config} {load : LoadConnRequest}
variable (never : env.cancellation = .never) (steady : env.connector.Steady)

include steady in
theorem issue_recurs (step : Step) :
    Run.Recurs env s (config.issue load step) (config.issue load step) := by
  cases step
  case connect => exact .pure _
  case probe => exact (Run.Recurs.startProbe _ _).bind fun reply => .pure _
  all_goals exact .send steady _ _

include never steady

theorem drive_recurs (guard : Guard) (steps : List Step) (p : Progress) :
    Run.Recurs env s (drive config load guard steps p)
      (drive config load (guard.onward s.now) steps p) := by
  induction steps generalizing p with
  | nil => exact .pure _
  | cons step rest ih =>
    unfold drive
    cases p.begin? step with
    | error f => exact .pure _
    | ok p =>
      refine (Run.Recurs.logAll _).bind fun _ => ?_
      refine (guard.run_recurs never _ (issue_recurs steady step)).bind fun result => ?_
      cases result with
      | ok outcome => exact (Run.Recurs.logAll _).bind fun _ => ih _
      | error e =>
        simp only
        split
        · exact (Run.Recurs.log _).bind fun _ => ih _
        · exact .pure _

theorem tearDown_recurs (steps : List Step) (r : Report) :
    Run.Recurs env s (tearDown config load steps r) (tearDown config load steps r) := by
  induction steps generalizing r with
  | nil => exact .pure _
  | cons step rest ih =>
    refine Guard.start_recurs _ fun guard => ?_
    refine (guard.run_recurs never _ (issue_recurs steady step)).bind fun result => ?_
    cases result with
    | ok outcome => exact (Run.Recurs.logAll _).bind fun _ => ih _
    | error e => exact (Run.Recurs.log _).bind fun _ => .pure _

theorem cleanup_recurs (r : Report) :
    Run.Recurs env s (cleanup config load r) (cleanup config load r) := by
  refine Run.Recurs.look.bind fun fires => ?_
  cases fires with
  | true => exact (Run.Recurs.log _).bind fun _ => .pure _
  | false => exact tearDown_recurs never steady cleanupSteps r

theorem exercise_recurs : Run.Recurs env s (exercise config load) (exercise config load) := by
  refine Guard.start_recurs _ fun guard => ?_
  refine (drive_recurs never steady guard _ _).bind fun (r, f) => ?_
  simp only
  split
  · exact .pure _
  · exact (cleanup_recurs never steady r).bind fun _ => .pure _

/-- A run does after any session what it does from the origin of the clock. -/
theorem run_recurs (config : Config) : Run.Recurs env s (run config) (run config) := by
  unfold run
  cases config.loadRequest with
  | error e => exact .pure _
  | ok load =>
    have connects : Run.Recurs env s connect connect := by
      refine Run.Recurs.look.bind fun fires => ?_
      cases fires with
      | true => exact .pure _
      | false => exact .openClient
    refine connects.bind fun opened => ?_
    cases opened with
    | error e => exact (Run.Recurs.log _).bind fun _ => .pure _
    | ok _ =>
      refine (Run.Recurs.log _).bind fun _ => ?_
      refine (exercise_recurs never steady).bind fun (r, f) => ?_
      refine Run.Recurs.closeClient.bind fun _ => ?_
      cases f <;> exact (Run.Recurs.log _).bind fun _ => .pure _

end

/-- What a run comes to: its result, the time that it takes, and what happens in it. -/
structure Single where
  result : Except Aborted Report
  elapsed : Duration
  events : List Event

/-- Between the sessions the same was done a number of times. -/
structure Single.Repeats (single : Single) (n : Nat) (s t : Session) : Prop where
  now : t.now.nanos = s.now.nanos + n * single.elapsed.nanos
  events : t.events = s.events ++ (List.replicate n single.events).flatten

namespace Single.Repeats
variable {single : Single} {n : Nat} {s t u : Session}

theorem zero (s : Session) : single.Repeats 0 s s := by
  constructor <;> simp

theorem since (once : single.Repeats 1 s t) : t.now.since s.now = single.elapsed := by
  rw [Instant.since, once.now, Nat.one_mul, Nat.add_sub_cancel_left]

theorem succ (once : single.Repeats 1 s t) (later : single.Repeats n t u) :
    single.Repeats (n + 1) s u := by
  constructor
  · rw [later.now, once.now, Nat.add_mul]
    omega
  · simp [later.events, once.events, List.replicate_succ]

/-- What a view shows of the events it shows as often. -/
theorem filterMap {α : Type} (repeats : single.Repeats n s t) (view : Event → Option α) :
    t.events.filterMap view =
      s.events.filterMap view ++ (List.replicate n (single.events.filterMap view)).flatten := by
  rw [repeats.events, List.filterMap_append, List.filterMap_flatten, List.map_replicate]

theorem calls (repeats : single.Repeats n s t) :
    t.calls = s.calls ++ (List.replicate n (callsIn single.events)).flatten :=
  repeats.filterMap _

theorem probes (repeats : single.Repeats n s t) :
    t.probes = s.probes ++ (List.replicate n (probesIn single.events)).flatten :=
  repeats.filterMap _

end Single.Repeats

section
variable {env : Environment} {config : Config} {s : Session}

theorem fresh_after (s : Session) :
    ({ now := ⟨0⟩ } : Session).after s = { s with cancelled := false, looks := 0 } := by
  simp [Session.after, Instant.onward]

section
variable (never : env.cancellation = .never) (steady : env.connector.Steady)
include never steady

theorem carryOut_recurs {outcome : Outcome} {t : Session}
    (ended : (Operation.lifecycle config false).carryOut env s = .ok (outcome, t)) :
    ∃ result u, run config env { now := ⟨0⟩ } = .ok (result, u) ∧ outcome = .ran result ∧
      t = u.after s := by
  rw [Operation.carryOut_lifecycle, ← fresh_after] at ended
  cases ran : run config env (({ now := ⟨0⟩ } : Session).after s) with
  | error h => simp [ran, Except.bind] at ended
  | ok x =>
    obtain ⟨result, v⟩ := x
    rw [ran] at ended
    cases ended
    obtain ⟨u, origin, rfl⟩ := run_recurs never steady config _ _ _ ran
    exact ⟨result, u, origin, rfl, rfl⟩

/-- Every run that nobody cancels comes to the same, wherever it begins. -/
theorem exists_single (config : Config) :
    ∃ single : Single, ∀ s outcome t,
      (Operation.lifecycle config false).carryOut env s = .ok (outcome, t) →
        outcome = .ran single.result ∧ single.Repeats 1 s t := by
  cases origin : run config env { now := ⟨0⟩ } with
  | ok x =>
    obtain ⟨result, u⟩ := x
    refine ⟨⟨result, ⟨u.now.nanos⟩, u.events⟩, ?_⟩
    intro s outcome t ended
    obtain ⟨result', u', origin', rfl, rfl⟩ := carryOut_recurs never steady ended
    rw [origin] at origin'
    cases origin'
    refine ⟨rfl, ?_, ?_⟩
    · rw [Nat.one_mul]
      rfl
    · simp
  | error h =>
    -- The run that does not end from the origin of the clock ends from nowhere.
    refine ⟨⟨.ok (Report.start config), .zero, []⟩, ?_⟩
    intro s outcome t ended
    obtain ⟨result, u, origin', -⟩ := carryOut_recurs never steady ended
    rw [origin] at origin'
    contradiction

end

theorem carryOut_run {result : Except Aborted Report} {t : Session}
    (ran : run config env { s with cancelled := false, looks := 0 } = .ok (result, t)) :
    (Operation.lifecycle config false).carryOut env s = .ok (.ran result, t) := by
  rw [Operation.carryOut_lifecycle, ran]
  rfl

theorem carryOut_ends (fits : Fits config env s.now) :
    ∃ outcome t, (Operation.lifecycle config false).carryOut env s = .ok (outcome, t) := by
  obtain ⟨result, t, ended⟩ := run_returns (s := { s with cancelled := false, looks := 0 }) fits
  exact ⟨.ran result, t, carryOut_run ended⟩

/-- Runs on one control plane, each with a token of its own that nobody cancels. -/
def runs (config : Config) (env : Environment) (n : Nat) : List Turn :=
  List.replicate n ⟨.lifecycle config false, env⟩

variable {single : Single}
variable (recurs : ∀ s outcome t, (Operation.lifecycle config false).carryOut env s = .ok (outcome, t) →
  outcome = .ran single.result ∧ single.Repeats 1 s t)
include recurs

theorem runs_repeat (n : Nat) {taken : List (Outcome × Duration)} {t : Session}
    (ended : carryOutAll (runs config env n) s = .ok (taken, t)) :
    taken = List.replicate n (.ran single.result, single.elapsed) ∧ single.Repeats n s t := by
  induction n generalizing s taken t with
  | zero =>
    cases ended
    exact ⟨rfl, .zero _⟩
  | succ n ih =>
    rw [runs, List.replicate_succ, carryOutAll] at ended
    cases first : (Operation.lifecycle config false).carryOut env s with
    | error h => simp [first, bind, Except.bind] at ended
    | ok x =>
      obtain ⟨outcome, u⟩ := x
      obtain ⟨rfl, once⟩ := recurs s outcome u first
      cases later : carryOutAll (runs config env n) u with
      | error h =>
        rw [runs] at later
        simp [first, later, bind, Except.bind] at ended
      | ok y =>
        obtain ⟨rest, v⟩ := y
        obtain ⟨rfl, repeats⟩ := ih later
        rw [runs] at later
        simp only [first, later, bind, Except.bind, once.since] at ended
        cases ended
        exact ⟨rfl, once.succ repeats⟩

theorem runs_end (n : Nat) (fits : ∀ i < n, Fits config env ⟨s.now.nanos + i * single.elapsed.nanos⟩) :
    ∃ taken t, carryOutAll (runs config env n) s = .ok (taken, t) := by
  induction n generalizing s with
  | zero => exact ⟨[], s, rfl⟩
  | succ n ih =>
    have now : Fits config env s.now := by
      have fits := fits 0 n.succ_pos
      rwa [Nat.zero_mul] at fits
    obtain ⟨outcome, u, first⟩ := carryOut_ends now
    obtain ⟨-, once⟩ := recurs s outcome u first
    have later : ∀ i < n, Fits config env ⟨u.now.nanos + i * single.elapsed.nanos⟩ := by
      intro i below
      have fits := fits (i + 1) (Nat.succ_lt_succ below)
      rwa [Nat.add_comm i, Nat.add_mul, ← Nat.add_assoc, ← once.now] at fits
    obtain ⟨taken, t, rest⟩ := ih later
    refine ⟨(outcome, u.now.since s.now) :: taken, t, ?_⟩
    rw [runs] at rest
    rw [runs, List.replicate_succ, carryOutAll]
    simp only [first, rest, bind, Except.bind]
    rfl

end

/-- Runs one after another on one control plane, or on a connector that refuses, all come to the same
result in the same time, with copies of the same events, calls and probes, wherever on the clock they
begin. They come to an end as long as the durations of each fit the clock when it begins. -/
theorem runs_independent (config : Config) (plane : MemoryPlane) (refusal : Option String)
    (prober : Probe.Prober) :
    ∃ single : Single, ∀ (n : Nat) (s : Session),
      (∀ taken t, carryOutAll (runs config (plane.undisturbed refusal prober) n) s = .ok (taken, t) →
        taken = List.replicate n (.ran single.result, single.elapsed) ∧ single.Repeats n s t ∧
        t.calls = s.calls ++ (List.replicate n (callsIn single.events)).flatten ∧
        t.probes = s.probes ++ (List.replicate n (probesIn single.events)).flatten) ∧
      ((∀ i < n, Fits config (plane.undisturbed refusal prober)
          ⟨s.now.nanos + i * single.elapsed.nanos⟩) →
        ∃ taken t, carryOutAll (runs config (plane.undisturbed refusal prober) n) s =
          .ok (taken, t)) := by
  have steady : (plane.undisturbed refusal prober).connector.Steady := plane.behind_steady refusal
  obtain ⟨single, recurs⟩ := exists_single rfl steady config
  refine ⟨single, fun n s => ⟨?_, runs_end recurs n⟩⟩
  intro taken t ended
  obtain ⟨same, repeats⟩ := runs_repeat recurs n ended
  exact ⟨same, repeats, repeats.calls, repeats.probes⟩

/-- A control plane that never answers a termination in time. -/
def lingering : MemoryPlane := MemoryPlane.behave {} .terminate (.delay (.ofSeconds 60))

theorem runs_independent_lingering :
    ∃ result t, carryOutAll (runs {} (lingering.undisturbed none (Probe.canned 5)) 3)
        { now := ⟨7000000000⟩ } = .ok (List.replicate 3 (.ran result, .ofSeconds 5), t) ∧
      failureOf result = some ⟨.terminate, .timedOut "IPsecTerminate" (.ofSeconds 5)⟩ ∧
      t.calls.length = 27 := by
  obtain ⟨single, independent⟩ := runs_independent {} lingering none (Probe.canned 5)
  have observed : shows {} (lingering.undisturbed none (Probe.canned 5))
      { now := ⟨0⟩ } (fun result t =>
        failureOf result = some ⟨.terminate, .timedOut "IPsecTerminate" (.ofSeconds 5)⟩ &&
          t.now = ⟨5000000000⟩ && t.calls.length = 9) = true := by
    decide +kernel
  obtain ⟨result, u, ran, seen⟩ := run_of_shows observed
  simp only [Bool.and_eq_true, decide_eq_true_eq] at seen
  obtain ⟨⟨failure, now⟩, nine⟩ := seen
  have once : carryOutAll (runs {} (lingering.undisturbed none (Probe.canned 5)) 1)
      { now := ⟨0⟩ } = .ok ([(.ran result, .ofSeconds 5)], u) := by
    have ended := carryOut_run (s := { now := ⟨0⟩ }) ran
    simp only [runs, List.replicate, carryOutAll, ended, bind, Except.bind, now]
    rfl
  obtain ⟨taken, -, calls, -⟩ := (independent 1 { now := ⟨0⟩ }).1 _ u once
  simp only [List.replicate, List.cons.injEq, Prod.mk.injEq, Outcome.ran.injEq, and_true] at taken
  obtain ⟨rfl, elapsed⟩ := taken
  have fits : ∀ i < 3, Fits {} (lingering.undisturbed none (Probe.canned 5))
      ⟨7000000000 + i * single.elapsed.nanos⟩ := by
    intro i below
    have room : 7000000000 + 2 * 5000000000 + 40000000000 ≤ Instant.latest.nanos := by decide
    refine ⟨?_, _, rfl⟩
    rw [← elapsed]
    simp only [Duration.ofSeconds]
    omega
  obtain ⟨taken, t, ended⟩ := (independent 3 { now := ⟨7000000000⟩ }).2 fits
  obtain ⟨rfl, -, calls', -⟩ := (independent 3 { now := ⟨7000000000⟩ }).1 _ t ended
  refine ⟨single.result, t, ?_, failure, ?_⟩
  · rw [ended, elapsed]
  · have fresh : ∀ time, ({ now := time } : Session).calls = [] := fun _ => rfl
    simp only [calls, fresh, List.nil_append, List.replicate, List.flatten_cons, List.flatten_nil,
      List.append_nil] at nine
    simp [calls', fresh, nine]

end Tunnel
end IPsecControl
