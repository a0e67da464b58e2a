import IPsecControl.Proofs.Control.Guards

/-! Clients from their opening to their closing. Whatever an operation does with a client stands
between the two, and an operation without a client does nothing that could be seen. -/
namespace IPsecControl

/-- What happens on a client that is open. -/
def Event.isWork : Event → Bool
  | .opened | .closed => false
  | _ => true

/-- The events are those of one client, opened and closed, or there is no client and there are
none. -/
def Bracketed (client : Prop) (es : List Event) : Prop :=
  (client ∧ ∃ body, es = .opened :: (body ++ [.closed]) ∧ ∀ e ∈ body, e.isWork = true) ∨
    (¬ client ∧ es = [])

/-- What an operation did with a client, in at most the given number of nanoseconds. -/
structure Used (client : Prop) (span : Nat) (s t : Session) : Prop where
  events : ∃ es, t.events = s.events ++ es ∧ Bracketed client es
  time : t.now.nanos ≤ s.now.nanos + span

theorem unopened_of_work {body : List Event} (work : ∀ e ∈ body, e.isWork = true) :
    body.filter (· = .opened) = [] := by
  rw [List.filter_eq_nil_iff]
  intro e member opened
  cases of_decide_eq_true opened
  exact absurd (work _ member) (by simp [Event.isWork])

theorem unclosed_of_work {body : List Event} (work : ∀ e ∈ body, e.isWork = true) :
    body.filter (· = .closed) = [] := by
  rw [List.filter_eq_nil_iff]
  intro e member closed
  cases of_decide_eq_true closed
  exact absurd (work _ member) (by simp [Event.isWork])

namespace Bracketed
variable {client : Prop} {es : List Event}

/-- As many clients are closed as are opened, and at most one is. -/
theorem counts (bracketed : Bracketed client es) :
    (client ∧ (es.filter (· = .opened)).length = 1 ∧ (es.filter (· = .closed)).length = 1) ∨
      (¬ client ∧ (es.filter (· = .opened)).length = 0 ∧ (es.filter (· = .closed)).length = 0) := by
  obtain ⟨opens, body, rfl, work⟩ | ⟨unopened, rfl⟩ := bracketed
  · simp [opens, unopened_of_work work, unclosed_of_work work]
  · simp [unopened]

end Bracketed

namespace Used
variable {client : Prop} {span : Nat} {s t : Session}

theorem unused (unopened : ¬ client) (events : t.events = s.events) (now : t.now = s.now) :
    Used client span s t :=
  ⟨⟨[], by rw [events, List.append_nil], .inr ⟨unopened, rfl⟩⟩, by simp [now]⟩

theorem used (opens : client) (body : List Event) (work : ∀ e ∈ body, e.isWork = true)
    (events : t.events = s.events ++ .opened :: (body ++ [.closed]))
    (time : t.now.nanos ≤ s.now.nanos + span) : Used client span s t :=
  ⟨⟨_, events, .inl ⟨opens, body, rfl, work⟩⟩, time⟩

/-- What the counters of a session show of an operation. -/
theorem counts (used : Used client span s.unlogged t.unlogged) :
    (client ∧ t.opens = s.opens + 1 ∧ t.closes = s.closes + 1) ∨
      (¬ client ∧ t.opens = s.opens ∧ t.closes = s.closes) := by
  obtain ⟨es, events, bracketed⟩ := used.events
  have opens : t.opens = s.opens + (es.filter (· = .opened)).length := by
    rw [t.opens_eq_acts, s.opens_eq_acts, Session.acts, events, List.filter_append,
      List.length_append]
    rfl
  have closes : t.closes = s.closes + (es.filter (· = .closed)).length := by
    rw [t.closes_eq_acts, s.closes_eq_acts, Session.acts, events, List.filter_append,
      List.length_append]
    rfl
  obtain ⟨client, one, one'⟩ | ⟨none, zero, zero'⟩ := bracketed.counts
  · exact .inl ⟨client, by rw [opens, one], by rw [closes, one']⟩
  · exact .inr ⟨none, by rw [opens, zero, Nat.add_zero], by rw [closes, zero', Nat.add_zero]⟩

theorem congr {client' : Prop} (same : client ↔ client') (used : Used client span s t) :
    Used client' span s t :=
  propext same ▸ used

end Used

variable {env : Environment} {s t : Session} {α : Type}

theorem Run.uncancelled_apply (m : Run α) (env : Environment) (s : Session) :
    Run.uncancelled m env s =
      (m { env with cancellation := .never } { s with cancelled := false, looks := 0 }).bind
        fun x => .ok (x.1, { x.2 with cancelled := s.cancelled, looks := s.looks }) := rfl

/-- An operation with a token of its own acts on a session that is not cancelled. -/
theorem Run.Acts.uncancelled {m : Run α} {a : α}
    (acts :
      Run.Acts { env with cancellation := .never } m { s with cancelled := false, looks := 0 } a t) :
    Run.Acts env (Run.uncancelled m) s a { t with cancelled := s.cancelled, looks := s.looks } := by
  rintro u rfl
  obtain ⟨v, ran, rfl⟩ := acts { u with cancelled := false, looks := 0 } rfl
  refine ⟨{ v with cancelled := u.cancelled, looks := u.looks }, ?_, rfl⟩
  rw [Run.uncancelled_apply, ran]
  rfl

theorem Run.Halts.uncancelled {m : Run α}
    (halts :
      Run.Halts { env with cancellation := .never } m { s with cancelled := false, looks := 0 }) :
    Run.Halts env (Run.uncancelled m) s := by
  rintro u rfl
  obtain ⟨h, halted⟩ := halts { u with cancelled := false, looks := 0 } rfl
  exact ⟨h, by rw [Run.uncancelled_apply, halted]; rfl⟩

theorem Run.Ends.uncancelled {m : Run α} {ways : α → Session → Prop} {fits : Prop}
    (ends : Run.Ends { env with cancellation := .never } m { s with cancelled := false, looks := 0 }
      (fun a t => ways a { t with cancelled := s.cancelled, looks := s.looks }) fits) :
    Run.Ends env (Run.uncancelled m) s ways fits := by
  obtain ⟨a, t, acts, way⟩ | ⟨unfit, halts⟩ := ends
  · exact .acts acts.uncancelled way
  · exact .inr ⟨unfit, halts.uncancelled⟩

theorem Used.uncancelled {m : Run α} {client : Prop} {span : Nat}
    (used : ∀ (quiet : Environment) (u : Session), quiet.connector = env.connector →
      quiet.cancellation = .never → u.cancelled = false → u.now = s.now →
      ∃ a t, Run.Acts quiet m u a t ∧ Used client span u t) :
    ∃ a t, Run.Acts env (Run.uncancelled m) s a t ∧ Used client span s t := by
  obtain ⟨a, t, acts, events, time⟩ :=
    used { env with cancellation := .never } { s with cancelled := false, looks := 0 } rfl rfl rfl rfl
  exact ⟨a, _, acts.uncancelled, events, time⟩

namespace Guard
variable {g : Guard} (never : env.cancellation = .never) (fresh : s.cancelled = false)
variable (ahead : s.now ≤ g.deadline) (operation : String) (rpc : Rpc) (request : rpc.Request)
include never fresh ahead

/-- A call that was made and that nobody cancels ends by its deadline. -/
theorem settle_call : ∃ reply u result t, Run.Acts env (Run.send rpc request) s reply u ∧
    Run.Acts env (g.settle operation reply) u result t ∧
    t.events = s.events ++ [.called ⟨rpc, request⟩, .ended operation (failure? result)] ∧
    t.cancelled = false ∧ t.now ≤ g.deadline ∧ t.now ≤ s.now.farFuture := by
  have sent := Run.send_acts env s rpc request
  generalize env.connector.answer s.calls rpc request = reply at sent
  cases ends : Run.wakeAt env.cancellation s.now (s.now.afterWait reply.delay) g.deadline with
  | mk wake time =>
    have waits := Instant.le_afterWait s.now reply.delay
    refine ⟨_, _, _, _, sent, settle_acts ends, by simp, ?_, ?_, ?_⟩
    · rw [never] at ends
      simp [Session.record, fresh, Run.wakeAt_never ends]
    · exact (Run.wakeAt_bounds ends waits ahead).2
    · exact Nat.le_trans (Run.wakeAt_le ends waits ahead) (Instant.afterWait_le _ _)

/-- A guarded call that nobody cancels is made and ends by the deadline. -/
theorem run_call : ∃ result t, Run.Acts env (g.run operation (Run.send rpc request)) s result t ∧
    t.events = s.events ++ [.called ⟨rpc, request⟩, .ended operation (failure? result)] ∧
    t.cancelled = false ∧ t.now ≤ g.deadline := by
  have quiet : s.fires env.cancellation = false := by simp [never, fresh]
  obtain ⟨reply, u, result, t, sent, settled, events, going, met, -⟩ :=
    settle_call (s := s.looked env.cancellation) never (by simp [never, fresh]) ahead operation rpc request
  refine ⟨result, t, (Run.Acts.log _).bind (Run.Acts.look.bind ?_), events, going, met⟩
  simp only [quiet, Bool.false_eq_true, if_false]
  exact sent.bind settled

end Guard
end IPsecControl
