import IPsecControl.Proofs.Tunnel.Forecast
import IPsecControl.Proofs.Tunnel.Trail

/-! Two runs side by side. What a run does from a stage on, attempt by attempt, so that the next
attempts of two runs can be compared; and the ends of runs that open no client. -/
namespace IPsecControl.Tunnel
open Message

section
variable {config config' : Config} {load : LoadConnRequest} {env env' : Environment} {guard : Guard}
variable {s t t' : Session} {a : Attempt} {as as' cs cs' : List Attempt} {r : Report}
variable {f : Option Failure}

theorem Made.going (made : Made config load env s a t) (uncancelled : t.cancelled = false) :
    a.wake ≠ .cancelled :=
  of_decide_eq_false (made.cancelled.symm.trans uncancelled)

variable (config load env guard) in
/-- The shared steps from a stage on, their first attempt first. -/
inductive Drove : Stage → List Attempt → Report → Option Failure → Session → Prop where
  | stopped {x : Stage} {last : Option Attempt} {r : Report} {f : Option Failure} {t : Session}
      (stops : Stops config load env guard x last r f t) : Drove x last.toList r f t
  | advanced {x y : Stage} {a : Attempt} {as : List Attempt} {r : Report} {f : Option Failure}
      {t : Session} (first : Advance config load env guard x a y) (later : Drove y as r f t) :
      Drove x (a :: as) r f t

theorem Advances.drove {x y : Stage} {bs : List Attempt}
    (advances : Advances config load env guard x as y) (later : Drove config load env guard y bs r f t) :
    Drove config load env guard x (as ++ bs) r f t := by
  induction advances generalizing bs with
  | refl => exact later
  | next _ last ih =>
    rw [List.append_assoc]
    exact ih (.advanced last later)

theorem Driven.drove (driven : Driven config load env s as r f t) :
    Drove config load env (config.sharedGuard s) (config.firstStage s) as r f t := by
  obtain ⟨bs, last, x, rfl, advances, stops⟩ := driven
  exact advances.drove (.stopped stops)

namespace Drove
variable {step : Step} {rest : List Step} {p p' : Progress}

theorem last (drove : Drove config load env guard ⟨[], p, s⟩ as r f t) :
    as = [] ∧ r = p.report ∧ f = none ∧ t = s := by
  cases drove with
  | stopped stops =>
    cases stops
    exact ⟨rfl, rfl, rfl, rfl⟩
  | advanced first => cases first

theorem uncancelled {x : Stage} (drove : Drove config load env guard x as r f t)
    (never : env.cancellation = .never) (fresh : x.session.cancelled = false) : t.cancelled = false := by
  induction drove with
  | stopped stops => exact stops.uncancelled never fresh
  | advanced first _ ih => exact ih (first.made.uncancelled never)

/-- How the shared steps go on: the next may not begin, or the run is cancelled before it, or it is
attempted, and the rest only if the attempt allows it. -/
theorem first (drove : Drove config load env guard ⟨step :: rest, p, s⟩ as r f t) :
    (∃ g, p.begin? step = .error g ∧ as = [] ∧ r = p.report ∧ f = some g ∧ t = s) ∨
      (∃ q, p.begin? step = .ok q ∧ s.fires env.cancellation = true ∧ r = q.report ∧
        f = some ⟨step, .cancelled step.name⟩ ∧ t = s.looked env.cancellation) ∨
      ∃ q a bs u, p.begin? step = .ok q ∧ a.step = step ∧ a.guard = guard ∧ as = a :: bs ∧
        Made config load env s a u ∧
        ((a.Kept config ∧ u.cancelled = false ∧
            Drove config load env guard ⟨rest, q.after a, u⟩ bs r f t) ∨
          ∃ e, a.failure? = some e ∧ config.tolerates ⟨a.step, e⟩ = false ∧ bs = [] ∧ r = q.report ∧
            f = some ⟨a.step, e⟩ ∧ t = u) := by
  cases drove with
  | stopped stops =>
    cases stops with
    | barred bar => exact .inl ⟨_, bar, rfl, rfl, rfl, rfl⟩
    | forgone begun fires => exact .inr (.inl ⟨_, begun, fires, rfl, rfl, rfl⟩)
    | @failed a _ _ q _ _ e guarded begun made failed fatal =>
      exact .inr (.inr ⟨q, a, [], t, begun, rfl, guarded, rfl, made,
        .inr ⟨e, Attempt.failure?_error failed, fatal, rfl, rfl, rfl, rfl⟩⟩)
  | @advanced _ y a as _ _ _ first later =>
    obtain ⟨q, begun, progress⟩ := first.progress
    have steps := first.rest
    injection steps with head tail
    refine .inr (.inr ⟨q, a, as, y.session, head ▸ begun, head.symm, first.guarded, rfl, first.made,
      .inl ⟨first.kept, first.uncancelled, ?_⟩⟩)
    rw [tail, ← progress]
    exact later

/-- How they go on if the run is not cancelled. -/
theorem next (drove : Drove config load env guard ⟨step :: rest, p, s⟩ as r f t)
    (uncancelled : t.cancelled = false) :
    (∃ g, p.begin? step = .error g ∧ as = [] ∧ r = p.report ∧ f = some g ∧ t = s) ∨
      ∃ q a bs u, p.begin? step = .ok q ∧ a.step = step ∧ a.guard = guard ∧ as = a :: bs ∧
        Made config load env s a u ∧ u.cancelled = false ∧
        ((a.Kept config ∧ Drove config load env guard ⟨rest, q.after a, u⟩ bs r f t) ∨
          ∃ e, a.failure? = some e ∧ config.tolerates ⟨a.step, e⟩ = false ∧ bs = [] ∧ r = q.report ∧
            f = some ⟨a.step, e⟩ ∧ t = u) := by
  obtain barred | ⟨_, -, fires, -, -, rfl⟩ | ⟨q, a, bs, u, begun, same, guarded, whole, made, goes⟩ :=
    drove.first
  · exact .inl barred
  · exact absurd uncancelled (by simp [Session.looked, fires])
  · obtain ⟨kept, going, later⟩ | ⟨e, failed, fatal, rest, report, failure, rfl⟩ := goes
    · exact .inr ⟨q, a, bs, u, begun, same, guarded, whole, made, going, .inl ⟨kept, later⟩⟩
    · exact .inr ⟨q, a, bs, t, begun, same, guarded, whole, made, uncancelled,
        .inr ⟨e, failed, fatal, rest, report, failure, rfl⟩⟩

end Drove

/-- Two runs that load the same and open alike end in the same way without a call, unless they
open their clients. -/
theorem Ran.alike_or_opens {result result' : Except Aborted Report}
    (ran : Ran config env s as cs result t) (ran' : Ran config' env' s as' cs' result' t')
    (loads : config.loadRequest = config'.loadRequest)
    (starts : Report.start config = Report.start config')
    (looks : s.fires env.cancellation = s.fires env'.cancellation)
    (opening : env.connector.opening = env'.connector.opening) :
    (result = result' ∧ t.calls = s.calls ∧ t'.calls = s.calls) ∨
      ∃ load, config.loadRequest = .ok load ∧ s.fires env.cancellation = false ∧
        env.connector.opening = .ok () := by
  cases ran with
  | invalid invalid =>
    cases ran' with
    | invalid invalid' =>
      cases invalid.symm.trans (loads.trans invalid')
      exact .inl ⟨by rw [starts], rfl, rfl⟩
    | forgone valid' | refused valid' | exercised valid' =>
      cases invalid.symm.trans (loads.trans valid')
  | forgone valid fires =>
    cases ran' with
    | invalid invalid' => cases valid.symm.trans (loads.trans invalid')
    | forgone => exact .inl ⟨by rw [starts], s.looked_calls _, s.looked_calls _⟩
    | refused _ quiet' | exercised _ quiet' => cases fires.symm.trans (looks.trans quiet')
  | refused valid quiet refused =>
    cases ran' with
    | invalid invalid' => cases valid.symm.trans (loads.trans invalid')
    | forgone _ fires' => cases quiet.symm.trans (looks.trans fires')
    | refused _ _ refused' =>
      cases refused.symm.trans (opening.trans refused')
      exact .inl ⟨by rw [starts], s.looked_calls _, s.looked_calls _⟩
    | exercised _ _ opens' => cases refused.symm.trans (opening.trans opens')
  | exercised valid quiet opens => exact .inr ⟨_, valid, quiet, opens⟩

end
end IPsecControl.Tunnel
