import IPsecControl.Proofs.Tunnel.Attempts

/-! The course of a run: the stages it passes through while it carries out its shared steps,
what stops it there, and how it cleans up. `Ran` says everything that a run can do; every
run whose durations fit the clock has exactly one course. -/
namespace IPsecControl.Tunnel
open Message

section
variable (config : Config) (load : LoadConnRequest) (env : Environment) (guard : Guard)

/-- Where a run stands before the rest of its shared steps. -/
structure Stage where
  rest : List Step
  progress : Progress
  session : Session

/-- An attempt after which the run goes on. -/
inductive Advance : Stage → Attempt → Stage → Prop where
  | succeeded {a : Attempt} {rest : List Step} {p q : Progress} {s t : Session}
      {outcome : a.step.Outcome} (guarded : a.guard = guard) (begun : p.begin? a.step = .ok q)
      (made : Made config load env s a t) (ok : a.result = .ok outcome) :
      Advance ⟨a.step :: rest, p, s⟩ a ⟨rest, q.succeed a.step outcome, t⟩
  | tolerated {a : Attempt} {rest : List Step} {p q : Progress} {s t : Session}
      {e : Error} (guarded : a.guard = guard) (begun : p.begin? a.step = .ok q)
      (made : Made config load env s a t) (failed : a.result = .error e)
      (tolerates : config.tolerates ⟨a.step, e⟩ = true) :
      Advance ⟨a.step :: rest, p, s⟩ a ⟨rest, q.tolerate ⟨a.step, e⟩, t⟩

/-- The attempts that lead from one stage to another, in order. -/
inductive Advances (start : Stage) : List Attempt → Stage → Prop where
  | refl : Advances start [] start
  | next {as : List Attempt} {a : Attempt} {x y : Stage} (earlier : Advances start as x)
      (last : Advance config load env guard x a y) : Advances start (as ++ [a]) y

/-- The end of the shared steps, with the attempt that ended them, if one did. -/
inductive Stops : Stage → Option Attempt → Report → Option Failure → Session → Prop where
  | finished {p : Progress} {s : Session} : Stops ⟨[], p, s⟩ none p.report none s
  | barred {step : Step} {rest : List Step} {p : Progress} {s : Session} {f : Failure}
      (bar : p.begin? step = .error f) : Stops ⟨step :: rest, p, s⟩ none p.report (some f) s
  | forgone {step : Step} {rest : List Step} {p q : Progress} {s : Session}
      (begun : p.begin? step = .ok q) (fires : s.fires env.cancellation = true) :
      Stops ⟨step :: rest, p, s⟩ none q.report (some ⟨step, .cancelled step.name⟩)
        (s.looked env.cancellation)
  | failed {a : Attempt} {rest : List Step} {p q : Progress} {s t : Session} {e : Error}
      (guarded : a.guard = guard) (begun : p.begin? a.step = .ok q)
      (made : Made config load env s a t) (failed : a.result = .error e)
      (fatal : config.tolerates ⟨a.step, e⟩ = false) :
      Stops ⟨a.step :: rest, p, s⟩ (some a) q.report (some ⟨a.step, e⟩) t

/-- The report with a cleanup that failed. -/
def Report.failCleanup (f : Failure) (r : Report) : Report :=
  { r with cleanupFailures := r.cleanupFailures ++ [f.warning] }

/-- Steps that undo a negotiation, each attempted under a guard of its own. -/
inductive TornDown :
    List Step → Report → Session → List Attempt → Report → Option Failure → Session → Prop where
  | finished {r : Report} {s : Session} : TornDown [] r s [] r none s
  | forgone {step : Step} {rest : List Step} {r : Report} {s : Session}
      (fires : s.fires env.cancellation = true) :
      TornDown (step :: rest) r s [] (r.failCleanup ⟨step, .cancelled step.name⟩)
        (some ⟨step, .cancelled step.name⟩) (s.looked env.cancellation)
  | succeeded {a : Attempt} {rest : List Step} {r r' : Report} {s t u : Session}
      {outcome : a.step.Outcome} {as : List Attempt} {f : Option Failure}
      (guarded : a.guard = ⟨s.now.after config.cleanupTimeout, config.cleanupTimeout⟩)
      (made : Made config load env s a t) (ok : a.result = .ok outcome)
      (later : TornDown rest (r.succeed a.step outcome) t as r' f u) :
      TornDown (a.step :: rest) r s (a :: as) r' f u
  | failed {a : Attempt} {rest : List Step} {r : Report} {s t : Session} {e : Error}
      (guarded : a.guard = ⟨s.now.after config.cleanupTimeout, config.cleanupTimeout⟩)
      (made : Made config load env s a t) (failed : a.result = .error e) :
      TornDown (a.step :: rest) r s [a] (r.failCleanup ⟨a.step, e⟩) (some ⟨a.step, e⟩) t

/-- Cleaning up. A cancelled run leaves everything as it is. -/
inductive CleanedUp :
    Report → Session → List Attempt → Report → Option Failure → Session → Prop where
  | left {r : Report} {s : Session} (fires : s.fires env.cancellation = true) :
      CleanedUp r s [] r none (s.looked env.cancellation)
  | tornDown {r r' : Report} {s t : Session} {as : List Attempt} {f : Option Failure}
      (quiet : s.fires env.cancellation = false)
      (torn : TornDown config load env cleanupSteps r (s.looked env.cancellation) as r' f t) :
      CleanedUp r s as r' f t

/-- The guard of the shared steps of a run that begins them in the given session. -/
def Config.sharedGuard (s : Session) : Guard := ⟨s.now.after config.timeout, config.timeout⟩

/-- The stage before the first shared step. -/
def Config.firstStage (s : Session) : Stage := ⟨sharedSteps, ⟨Report.start config, none⟩, s⟩

/-- The shared steps of a run, from the first on, with the attempts they came to. -/
def Driven (s : Session) (as : List Attempt) (r : Report) (f : Option Failure) (t : Session) : Prop :=
  ∃ bs last x, as = bs ++ last.toList ∧
    Advances config load env (config.sharedGuard s) (config.firstStage s) bs x ∧
    Stops config load env (config.sharedGuard s) x last r f t

/-- What a run does with its client, with its shared attempts and those of its cleanup. -/
inductive Exercised :
    Session → List Attempt → List Attempt → Report → Option Failure → Session → Prop where
  | abandoned {s t : Session} {as : List Attempt} {r : Report} {f : Failure}
      (driven : Driven config load env s as r (some f) t)
      (early : f.step.precedesNegotiation = true) : Exercised s as [] r (some f) t
  | cleanedUp {s t u : Session} {as cs : List Attempt} {r r' : Report} {f f' : Option Failure}
      (driven : Driven config load env s as r f t)
      (late : f.any (·.step.precedesNegotiation) = false)
      (cleaned : CleanedUp config load env r t cs r' f' u) : Exercised s as cs r' (f.or f') u

/-- The result of a run with the report and the failure it ended with. -/
def conclude (r : Report) : Option Failure → Except Aborted Report
  | none => .ok r
  | some f => .error ⟨f, r⟩

end

section
variable (config : Config) (env : Environment)

/-- Everything a run can do. -/
inductive Ran :
    Session → List Attempt → List Attempt → Except Aborted Report → Session → Prop where
  | invalid {s : Session} {e : Error} (invalid : config.loadRequest = .error e) :
      Ran s [] [] (.error ⟨⟨.loadConn, e⟩, Report.start config⟩) s
  | forgone {s : Session} {load : LoadConnRequest} (valid : config.loadRequest = .ok load)
      (fires : s.fires env.cancellation = true) :
      Ran s [] [] (.error ⟨⟨.connect, .cancelled Step.connect.name⟩, Report.start config⟩)
        (s.looked env.cancellation)
  | refused {s : Session} {load : LoadConnRequest} {e : Error}
      (valid : config.loadRequest = .ok load) (quiet : s.fires env.cancellation = false)
      (refused : env.connector.opening = .error e) :
      Ran s [] [] (.error ⟨⟨.connect, e⟩, Report.start config⟩) (s.looked env.cancellation)
  | exercised {s t : Session} {load : LoadConnRequest} {as cs : List Attempt} {r : Report}
      {f : Option Failure} (valid : config.loadRequest = .ok load)
      (quiet : s.fires env.cancellation = false) (opens : env.connector.opening = .ok ())
      (exercised : Exercised config load env ((s.looked env.cancellation).record .opened) as cs r f t) :
      Ran s as cs (conclude r f) (t.record .closed)

end

section
variable {config : Config} {load : LoadConnRequest} {env : Environment} {guard : Guard}

theorem Made.time {s t : Session} {a : Attempt} (made : Made config load env s a t)
    (open_ : s.now ≤ a.guard.deadline) : s.now ≤ t.now ∧ t.now ≤ a.guard.deadline := by
  rw [made.now]
  exact Run.wakeAt_bounds made.ends (Instant.le_afterWait _ _) open_

namespace Advance
variable {x y : Stage} {a : Attempt}

theorem made (advance : Advance config load env guard x a y) :
    Made config load env x.session a y.session := by
  cases advance <;> assumption

theorem guarded (advance : Advance config load env guard x a y) : a.guard = guard := by
  cases advance <;> assumption

theorem rest (advance : Advance config load env guard x a y) : x.rest = a.step :: y.rest := by
  cases advance <;> rfl

end Advance

namespace Advances
variable {x y z : Stage} {a : Attempt} {as bs : List Attempt}

theorem head (first : Advance config load env guard x a y)
    (later : Advances config load env guard y as z) :
    Advances config load env guard x (a :: as) z := by
  induction later with
  | refl => exact .next .refl first
  | next _ last ih => exact .next ih last

theorem time (advances : Advances config load env guard x as y)
    (ahead : x.session.now ≤ guard.deadline) : y.session.now ≤ guard.deadline := by
  induction advances with
  | refl => exact ahead
  | next _ last ih =>
    have made := last.made.time
    rw [last.guarded] at made
    exact (made ih).2

end Advances

theorem Stops.time {x : Stage} {last : Option Attempt} {r : Report} {f : Option Failure} {t : Session}
    (stops : Stops config load env guard x last r f t) (ahead : x.session.now ≤ guard.deadline) :
    t.now ≤ guard.deadline := by
  cases stops with
  | finished | barred | forgone => exact ahead
  | failed guarded _ made =>
    subst guarded
    exact (made.time ahead).2

/-- How a cleanup that has steps left goes: it is cancelled before the first, or the first is
attempted, and the rest only if that succeeds. -/
theorem TornDown.first {step : Step} {rest : List Step} {r r' : Report} {s t : Session}
    {cs : List Attempt} {f : Option Failure}
    (torn : TornDown config load env (step :: rest) r s cs r' f t) :
    s.fires env.cancellation = true ∧ cs = [] ∧ f = some ⟨step, .cancelled step.name⟩ ∧
      t = s.looked env.cancellation ∨
    ∃ a u, a.step = step ∧ a.guard = ⟨s.now.after config.cleanupTimeout, config.cleanupTimeout⟩ ∧
      Made config load env s a u ∧
      ((∃ outcome bs, a.result = .ok outcome ∧ cs = a :: bs ∧
          TornDown config load env rest (r.succeed a.step outcome) u bs r' f t) ∨
        ∃ e, a.result = .error e ∧ cs = [a] ∧ r' = r.failCleanup ⟨a.step, e⟩ ∧
          f = some ⟨a.step, e⟩ ∧ t = u) := by
  cases torn with
  | forgone fires => exact .inl ⟨fires, rfl, rfl, rfl⟩
  | succeeded guarded made ok later =>
    exact .inr ⟨_, _, rfl, guarded, made, .inl ⟨_, _, ok, rfl, later⟩⟩
  | failed guarded made failed =>
    exact .inr ⟨_, _, rfl, guarded, made, .inr ⟨_, failed, rfl, rfl, rfl, rfl⟩⟩

theorem TornDown.last {r r' : Report} {s t : Session} {cs : List Attempt} {f : Option Failure}
    (torn : TornDown config load env [] r s cs r' f t) : cs = [] ∧ r' = r ∧ f = none ∧ t = s := by
  cases torn
  exact ⟨rfl, rfl, rfl, rfl⟩

theorem Driven.time {s t : Session} {as : List Attempt} {r : Report} {f : Option Failure}
    (driven : Driven config load env s as r f t) : t.now ≤ s.now.after config.timeout := by
  obtain ⟨bs, last, x, -, advances, stops⟩ := driven
  exact stops.time (advances.time (Nat.le_add_right _ _))

/-- A cleanup call takes no longer than a cleanup call may take. -/
theorem Made.cleanup_time {s t : Session} {a : Attempt} (made : Made config load env s a t)
    (guarded : a.guard = ⟨s.now.after config.cleanupTimeout, config.cleanupTimeout⟩) :
    t.now.nanos ≤ s.now.nanos + config.cleanupTimeout.nanos := by
  have time := made.time
  rw [guarded] at time
  exact (time (Nat.le_add_right _ _)).2

theorem TornDown.time {steps : List Step} {r r' : Report} {s t : Session} {cs : List Attempt}
    {f : Option Failure} (torn : TornDown config load env steps r s cs r' f t) :
    t.now.nanos ≤ s.now.nanos + steps.length * config.cleanupTimeout.nanos := by
  induction torn with
  | finished | forgone => exact Nat.le_add_right _ _
  | succeeded guarded made _ _ ih =>
    have ended := made.cleanup_time guarded
    rw [List.length_cons, Nat.add_mul, Nat.one_mul]
    omega
  | failed guarded made =>
    have ended := made.cleanup_time guarded
    rw [List.length_cons, Nat.add_mul, Nat.one_mul]
    omega

/-- A run takes no longer than its own time and that of two cleanup calls. -/
theorem Exercised.time {s t : Session} {as cs : List Attempt} {r : Report} {f : Option Failure}
    (exercised : Exercised config load env s as cs r f t) :
    t.now.nanos ≤ s.now.nanos + config.timeout.nanos + 2 * config.cleanupTimeout.nanos := by
  cases exercised with
  | abandoned driven =>
    have shared := driven.time
    rw [Instant.le_iff, Instant.after_nanos] at shared
    omega
  | cleanedUp driven _ cleaned =>
    have shared := driven.time
    rw [Instant.le_iff, Instant.after_nanos] at shared
    cases cleaned with
    | left => exact Nat.le_trans shared (Nat.le_add_right _ _)
    | tornDown _ torn =>
      have cleanup : _ ≤ _ + 2 * _ := torn.time
      exact Nat.le_trans cleanup (Nat.add_le_add_right shared _)

section uncancelled
variable {s t : Session} {r r' : Report} {f : Option Failure} {as cs : List Attempt}

theorem Made.uncancelled {a : Attempt} (made : Made config load env s a t)
    (never : env.cancellation = .never) : t.cancelled = false := by
  have ends := made.ends
  rw [never] at ends
  rw [made.cancelled]
  exact decide_eq_false (Run.wakeAt_never ends)

theorem Advances.uncancelled {x y : Stage} (advances : Advances config load env guard x as y)
    (never : env.cancellation = .never) (fresh : x.session.cancelled = false) :
    y.session.cancelled = false := by
  cases advances with
  | refl => exact fresh
  | next _ last => exact last.made.uncancelled never

theorem Stops.uncancelled {x : Stage} {last : Option Attempt}
    (stops : Stops config load env guard x last r f t) (never : env.cancellation = .never)
    (fresh : x.session.cancelled = false) : t.cancelled = false := by
  cases stops with
  | finished | barred => exact fresh
  | forgone _ fires => simp_all
  | failed _ _ made => exact made.uncancelled never

theorem Driven.uncancelled (driven : Driven config load env s as r f t)
    (never : env.cancellation = .never) (fresh : s.cancelled = false) : t.cancelled = false := by
  obtain ⟨bs, last, x, -, advances, stops⟩ := driven
  exact stops.uncancelled never (advances.uncancelled never fresh)

theorem TornDown.uncancelled {steps : List Step}
    (torn : TornDown config load env steps r s cs r' f t) (never : env.cancellation = .never)
    (fresh : s.cancelled = false) : t.cancelled = false := by
  induction torn with
  | finished => exact fresh
  | forgone fires => simp_all
  | succeeded _ made _ _ ih => exact ih (made.uncancelled never)
  | failed _ made => exact made.uncancelled never

theorem Exercised.uncancelled (exercised : Exercised config load env s as cs r f t)
    (never : env.cancellation = .never) (fresh : s.cancelled = false) : t.cancelled = false := by
  cases exercised with
  | abandoned driven => exact driven.uncancelled never fresh
  | cleanedUp driven _ cleaned =>
    have driven := driven.uncancelled never fresh
    cases cleaned with
    | left fires => simp_all
    | tornDown _ torn => exact torn.uncancelled never (by simp [never, driven])

/-- A run that nobody cancels is not cancelled when it ends. -/
theorem Ran.uncancelled {result : Except Aborted Report} (ran : Ran config env s as cs result t)
    (never : env.cancellation = .never) (fresh : s.cancelled = false) : t.cancelled = false := by
  cases ran with
  | invalid => exact fresh
  | forgone _ fires => simp_all
  | refused => simp [never, fresh]
  | exercised _ _ _ exercised =>
    exact exercised.uncancelled never (by simp [Session.record, never, fresh])

end uncancelled

end
end IPsecControl.Tunnel
