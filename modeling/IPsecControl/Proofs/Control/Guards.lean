import IPsecControl.Control.Guard
import IPsecControl.Proofs.Control.Sessions

/-! Clients, requests and guarded calls. A guarded call is given up before it is made, or it
is made and its wait ends in one of three ways; nothing else can come of it. -/
namespace IPsecControl

theorem Duration.min_nanos (a b : Duration) : (a.min b).nanos = Min.min a.nanos b.nanos := by
  by_cases le : a.nanos ≤ b.nanos
  · rw [Duration.min, if_pos le, Nat.min_eq_left le]
  · rw [Duration.min, if_neg le, Nat.min_eq_right (Nat.le_of_not_le le)]

namespace Instant
variable {a b : Instant}

theorem le_iff : a ≤ b ↔ a.nanos ≤ b.nanos := Iff.rfl
theorem lt_iff : a < b ↔ a.nanos < b.nanos := Iff.rfl

@[simp] theorem after_nanos (t : Instant) (d : Duration) : (t.after d).nanos = t.nanos + d.nanos := rfl

theorem le_afterWait (t : Instant) (d : Duration) : t ≤ t.afterWait d := Nat.le_add_right _ _

theorem max_eq_right (le : a ≤ b) : a.max b = b := if_pos le

theorem max_nanos : (a.max b).nanos = Max.max a.nanos b.nanos := by
  by_cases le : a ≤ b
  · rw [max_eq_right le]
    exact (Nat.max_eq_right le).symm
  · rw [Instant.max, if_neg le]
    exact (Nat.max_eq_left (Nat.le_of_not_le le)).symm

/-- No wait is longer than the longest. -/
theorem afterWait_le (t : Instant) (d : Duration) : t.afterWait d ≤ t.farFuture := by
  simp only [le_iff, afterWait, farFuture, after_nanos, Duration.min_nanos]
  omega

end Instant

namespace Run
variable {env : Environment} {s : Session}

/-- A wait whose deadline is not over ends with the answer, at the deadline, or with a
cancellation before either. -/
theorem wakeAt_cases {c : Cancellation} {now finish deadline time : Instant} {wake : Wake}
    (ends : wakeAt c now finish deadline = (wake, time)) (ahead : now ≤ deadline) :
    wake = .answered ∧ time = finish ∧ finish ≤ deadline ∨
    wake = .expired ∧ time = deadline ∧ deadline < finish ∨
    wake = .cancelled ∧ ∃ i, c = .during i ∧ time = now.max i ∧ i < finish ∧ i < deadline := by
  simp only [wakeAt, Instant.max_eq_right ahead] at ends
  by_cases met : finish ≤ deadline
  · simp only [if_pos met] at ends
    cases c with
    | never | beforeLook =>
      cases ends
      exact .inl ⟨rfl, rfl, met⟩
    | during i =>
      by_cases early : i < finish
      · simp only [if_pos early] at ends
        cases ends
        exact .inr (.inr ⟨rfl, i, rfl, rfl, early, Nat.lt_of_lt_of_le early met⟩)
      · simp only [if_neg early] at ends
        cases ends
        exact .inl ⟨rfl, rfl, met⟩
  · have late : deadline < finish := Nat.lt_of_not_le met
    simp only [if_neg met] at ends
    cases c with
    | never | beforeLook =>
      cases ends
      exact .inr (.inl ⟨rfl, rfl, late⟩)
    | during i =>
      by_cases early : i < deadline
      · simp only [if_pos early] at ends
        cases ends
        exact .inr (.inr ⟨rfl, i, rfl, rfl, Nat.lt_trans early late, early⟩)
      · simp only [if_neg early] at ends
        cases ends
        exact .inr (.inl ⟨rfl, rfl, late⟩)

/-- A wait ends between its start and its deadline. -/
theorem wakeAt_bounds {c : Cancellation} {now finish deadline time : Instant} {wake : Wake}
    (ends : wakeAt c now finish deadline = (wake, time)) (waits : now ≤ finish)
    (ahead : now ≤ deadline) : now ≤ time ∧ time ≤ deadline := by
  obtain ⟨-, rfl, met⟩ | ⟨-, rfl, -⟩ | ⟨-, i, -, rfl, -, early⟩ := wakeAt_cases ends ahead
  · exact ⟨waits, met⟩
  · exact ⟨ahead, Nat.le_refl _⟩
  · simp only [Instant.le_iff, Instant.lt_iff, Instant.max_nanos] at *
    omega

/-- A wait does not outlast the answer. -/
theorem wakeAt_le {c : Cancellation} {now finish deadline time : Instant} {wake : Wake}
    (ends : wakeAt c now finish deadline = (wake, time)) (waits : now ≤ finish)
    (ahead : now ≤ deadline) : time ≤ finish := by
  obtain ⟨-, rfl, -⟩ | ⟨-, rfl, late⟩ | ⟨-, i, -, rfl, early, -⟩ := wakeAt_cases ends ahead
  · exact Nat.le_refl _
  · exact Nat.le_of_lt late
  · simp only [Instant.le_iff, Instant.lt_iff, Instant.max_nanos] at *
    omega

/-- A wait that nobody cancels ends with the answer or at the deadline. -/
theorem wakeAt_never {now finish deadline time : Instant} {wake : Wake}
    (ends : wakeAt .never now finish deadline = (wake, time)) : wake ≠ .cancelled := by
  rintro rfl
  simp only [wakeAt] at ends
  split at ends <;> cases ends

/-- A wait that begins by the instant of the cancellation ends by it. -/
theorem wakeAt_by {c now finish deadline time : Instant} {wake : Wake}
    (ends : wakeAt (.during c) now finish deadline = (wake, time)) (early : now ≤ c) : time ≤ c := by
  simp only [wakeAt] at ends
  generalize (if finish ≤ now.max deadline then (Wake.answered, finish)
    else (Wake.expired, now.max deadline)) = quiet at ends
  by_cases before : c < quiet.2
  · rw [if_pos before, Instant.max_eq_right early] at ends
    cases ends
    exact Nat.le_refl _
  · rw [if_neg before] at ends
    subst ends
    exact Nat.le_of_not_lt before

/-- A wait is cancelled if the instant of the cancellation comes before its answer and its
deadline. -/
theorem wakeAt_pending {c now finish deadline time : Instant} {wake : Wake}
    (ends : wakeAt (.during c) now finish deadline = (wake, time)) (begun : now ≤ c)
    (unanswered : c < finish) (within : c < deadline) : wake = .cancelled := by
  have ahead : now ≤ deadline := Nat.le_trans begun (Nat.le_of_lt within)
  simp only [wakeAt, Instant.max_eq_right ahead] at ends
  have quiet : c < (if finish ≤ deadline then (Wake.answered, finish) else (Wake.expired, deadline)).2 := by
    split <;> assumption
  rw [if_pos quiet] at ends
  exact (congrArg Prod.fst ends).symm

theorem openClient_acts {opened : Unit} (opens : env.connector.opening = .ok opened) :
    Acts env openClient s (.ok ()) (s.record .opened) := by
  refine Acts.read.bind ((Acts.logAll _).bind ?_)
  simp only [opens]
  exact (Acts.record rfl).bind (Acts.pure _)

theorem openClient_refused {e : Error} (refused : env.connector.opening = .error e) :
    Acts env openClient s (.error e) s := by
  refine Acts.read.bind ((Acts.logAll _).bind ?_)
  simp only [refused]
  exact Acts.pure _

theorem closeClient_acts : Acts env closeClient s () (s.record .closed) := by
  refine (Acts.record rfl).bind (Acts.read.bind ?_)
  exact Acts.logAll _

theorem send_acts (env : Environment) (s : Session) (rpc : Rpc) (request : rpc.Request) :
    Acts env (send rpc request) s (env.connector.answer s.calls rpc request)
      (s.record (.called ⟨rpc, request⟩)) := by
  rintro u rfl
  rw [Session.calls_unlogged]
  have sent : Acts env (do
      record (.called ⟨rpc, request⟩)
      let reply := (← read).connector.answer u.calls rpc request
      logAll reply.notes
      return reply) u.unlogged (env.connector.answer u.calls rpc request)
      (u.unlogged.record (.called ⟨rpc, request⟩)) := by
    refine (Acts.record rfl).bind (Acts.read.bind ?_)
    exact (Acts.logAll _).bind (Acts.pure _)
  exact sent u rfl

theorem startProbe_acts {target : String} {count : Nat} {reply : Reply Probe.Statistics}
    (replies : env.prober target count = .ok reply) :
    Acts env (startProbe target count) s reply (s.record (.probed target count)) := by
  refine (Acts.record rfl).bind (Acts.read.bind ?_)
  simp only [replies]
  exact (Acts.logAll _).bind (Acts.pure _)

theorem startProbe_halts {target : String} {count : Nat} {cause : Overflow}
    (overflows : env.prober target count = .error cause) :
    Halts env (startProbe target count) s := by
  refine .after (Acts.record rfl) (.after Acts.read ?_)
  simp only [overflows]
  exact fun u _ => ⟨_, rfl⟩

end Run

namespace Guard
variable {α : Type} {env : Environment} {s t : Session} (g : Guard) (operation : String)

/-- The session after the wait for an answer ended, with the end noted. -/
def settled (reply : Reply α) (wake : Run.Wake) (time : Instant) (s : Session) : Session :=
  (s.waited wake time).record (.ended operation (failure? (g.outcome operation reply wake)))

section settled
variable (reply : Reply α) (wake : Run.Wake) (time : Instant) (s : Session)

@[simp] theorem settled_cancelled :
    (g.settled operation reply wake time s).cancelled = (s.cancelled || wake = .cancelled) := rfl

@[simp] theorem settled_events : (g.settled operation reply wake time s).events =
    s.events ++ [.ended operation (failure? (g.outcome operation reply wake))] := by
  rw [settled, Session.record_events]
  rfl

end settled

variable {g operation}

theorem start_fits (env : Environment) (s : Session) (budget : Duration)
    (fits : s.now.after budget ≤ Instant.latest) :
    start budget env s = .ok (⟨s.now.after budget, budget⟩, s) := by
  have ahead : s.now.after? budget = some (s.now.after budget) := if_pos fits
  have read : (get : Run Session) env s = .ok (s, s) := rfl
  rw [start, Run.bind_apply, read]
  simp only [Except.bind, ahead]
  rfl

theorem start_unfit (env : Environment) (s : Session) (budget : Duration)
    (unfit : ¬ s.now.after budget ≤ Instant.latest) : start budget env s = .error ⟨.instant, s⟩ := by
  have past : s.now.after? budget = none := if_neg unfit
  have read : (get : Run Session) env s = .ok (s, s) := rfl
  rw [start, Run.bind_apply, read]
  simp only [Except.bind, past]
  rfl

theorem start_acts (env : Environment) (s : Session) (budget : Duration)
    (fits : s.now.after budget ≤ Instant.latest) :
    Run.Acts env (start budget) s ⟨s.now.after budget, budget⟩ s := by
  rintro u rfl
  exact ⟨u, start_fits env u budget fits, rfl⟩

theorem start_halts (env : Environment) (s : Session) (budget : Duration)
    (unfit : ¬ s.now.after budget ≤ Instant.latest) : Run.Halts env (start budget) s := by
  rintro u rfl
  exact ⟨_, start_unfit env u budget unfit⟩

/-- A guard is set, unless the clock cannot show its deadline. -/
theorem start_ends (env : Environment) (s : Session) (budget : Duration) :
    Run.Ends env (start budget) s (fun g t => g = ⟨s.now.after budget, budget⟩ ∧ s = t)
      (s.now.after budget ≤ Instant.latest) := by
  by_cases fits : s.now.after budget ≤ Instant.latest
  · exact .acts (start_acts env s budget fits) ⟨rfl, rfl⟩
  · exact .inr ⟨fits, start_halts env s budget fits⟩

theorem settle_acts {reply : Reply α} {wake : Run.Wake} {time : Instant}
    (ends : Run.wakeAt env.cancellation s.now (s.now.afterWait reply.delay) g.deadline = (wake, time)) :
    Run.Acts env (g.settle operation reply) s (g.outcome operation reply wake)
      (g.settled operation reply wake time s) := by
  refine (Run.Acts.wait ends).bind ?_
  have noted : Run.Acts env (do
      Run.record (.ended operation (failure? (g.outcome operation reply wake)))
      return g.outcome operation reply wake) (s.waited wake time)
      (g.outcome operation reply wake) (g.settled operation reply wake time s) := by
    refine (Run.Acts.record rfl).bind ?_
    exact Run.Acts.pure _
  by_cases answered : wake = .answered
  · simp only [answered, if_pos]
    exact (Run.Acts.logAll _).bind (answered ▸ noted)
  · simp only [if_neg answered]
    exact noted

/-- A cancelled run makes no call. -/
theorem run_forgone {call : Run (Reply α)} (fires : s.fires env.cancellation = true) :
    Run.Acts env (g.run operation call) s (.error (.cancelled operation))
      (s.looked env.cancellation) := by
  refine (Run.Acts.log _).bind (Run.Acts.look.bind ?_)
  simp only [fires, if_true]
  exact Run.Acts.pure _

theorem run_made {call : Run (Reply α)} {reply : Reply α} {wake : Run.Wake} {time : Instant}
    (quiet : s.fires env.cancellation = false)
    (made : Run.Acts env call (s.looked env.cancellation) reply t)
    (ends : Run.wakeAt env.cancellation t.now (t.now.afterWait reply.delay) g.deadline = (wake, time)) :
    Run.Acts env (g.run operation call) s (g.outcome operation reply wake)
      (g.settled operation reply wake time t) := by
  refine (Run.Acts.log _).bind (Run.Acts.look.bind ?_)
  simp only [quiet, Bool.false_eq_true, if_false]
  exact made.bind (settle_acts ends)

theorem run_halts {call : Run (Reply α)} (quiet : s.fires env.cancellation = false)
    (halts : Run.Halts env call (s.looked env.cancellation)) : Run.Halts env (g.run operation call) s := by
  refine .after (Run.Acts.log _) (.after Run.Acts.look ?_)
  simp only [quiet, Bool.false_eq_true, if_false]
  exact halts.bind _

end Guard
end IPsecControl
