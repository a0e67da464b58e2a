import IPsecControl.Proofs.Control.Clients

/-! Operations that do again what they did before. Against a control plane that answers every call as if
it were the first, and as long as nobody cancels, what an operation does depends neither on what
happened before it nor on when it begins: it does what it would do from the origin of the clock, moved
to the end of the session that it begins in. -/
namespace IPsecControl

/-- The instant that is as late after `start` as `t` is after the origin of the clock. -/
def Instant.onward (start t : Instant) : Instant := ⟨start.nanos + t.nanos⟩

@[simp] theorem Instant.onward_le_onward (start a b : Instant) :
    start.onward a ≤ start.onward b ↔ a ≤ b := Nat.add_le_add_iff_left

def Guard.onward (start : Instant) (g : Guard) : Guard := { g with deadline := start.onward g.deadline }

/-- What happened in `t`, moved to the end of `s`. The token is that of `t`. -/
def Session.after (t s : Session) : Session :=
  { t with
    now := s.now.onward t.now
    timeline := s.timeline ++ t.timeline.map fun (time, e) => (s.now.onward time, e) }

/-- A call is answered as if no call had been made before it. -/
def Connector.Steady (c : Connector) : Prop :=
  ∀ calls rpc request, c.answer calls rpc request = c.answer [] rpc request

namespace Session
variable (s t : Session)

@[simp] theorem after_events : (t.after s).events = s.events ++ t.events := by
  simp [after, events, Function.comp_def]

theorem after_record (e : Event) : (t.record e).after s = (t.after s).record e := by
  simp [after, record]

end Session

namespace Run
variable {α β : Type} {env : Environment} {s : Session}

/-- What `m'` comes to after the session `s`, `m` comes to from the origin of the clock. -/
def Recurs (env : Environment) (s : Session) (m m' : Run α) : Prop :=
  ∀ u a t', m' env (u.after s) = .ok (a, t') → ∃ t, m env u = .ok (a, t) ∧ t' = t.after s

namespace Recurs
variable {m m' : Run α} {f f' : α → Run β}

/-- Operations that come to an end from every session. -/
theorem of_eq {a : Session → α} {t : Session → Session} (ran : ∀ u, m env u = .ok (a u, t u))
    (ran' : ∀ u, m' env (u.after s) = .ok (a u, (t u).after s)) : Recurs env s m m' := by
  intro u b t' ended
  rw [ran' u] at ended
  cases ended
  exact ⟨t u, ran u, rfl⟩

theorem pure (a : α) : Recurs env s (Pure.pure a) (Pure.pure a) :=
  of_eq (fun _ => rfl) fun _ => rfl

theorem bind (first : Recurs env s m m') (next : ∀ a, Recurs env s (f a) (f' a)) :
    Recurs env s (m >>= f) (m' >>= f') := by
  intro u b t' ended
  rw [bind_apply] at ended
  cases ran' : m' env (u.after s) with
  | error h => simp [ran', Except.bind] at ended
  | ok x =>
    obtain ⟨a, v'⟩ := x
    obtain ⟨v, ran, rfl⟩ := first u a v' ran'
    rw [ran'] at ended
    obtain ⟨t, ranOn, same⟩ := next a v b t' ended
    refine ⟨t, ?_, same⟩
    rw [bind_apply, ran]
    exact ranOn

theorem read : Recurs env s (ReaderT.read : Run Environment) ReaderT.read :=
  of_eq (fun _ => rfl) fun _ => rfl

theorem halt (cause : Overflow) (m : Run α) : Recurs env s m (Run.halt cause) := by
  intro u a t' ended
  cases ended

theorem record (e : Event) : Recurs env s (Run.record e) (Run.record e) := by
  refine of_eq (t := fun u => u.record e) (fun _ => rfl) ?_
  intro u
  rw [Session.after_record]
  rfl

theorem log (line : Log.Line) : Recurs env s (Run.log line) (Run.log line) := record _

theorem logAll (lines : List Log.Line) : Recurs env s (Run.logAll lines) (Run.logAll lines) := by
  induction lines with
  | nil => exact pure ()
  | cons line rest ih => exact (log line).bind fun _ => ih

theorem look : Recurs env s Run.look Run.look :=
  of_eq (t := fun u => u.looked env.cancellation) (fun _ => rfl) fun _ => rfl

theorem openClient : Recurs env s Run.openClient Run.openClient := by
  refine read.bind fun e => (logAll _).bind fun _ => ?_
  split
  · exact (record _).bind fun _ => pure _
  · exact pure _

theorem closeClient : Recurs env s Run.closeClient Run.closeClient :=
  (record _).bind fun _ => read.bind fun _ => logAll _

end Recurs

/-- A wait that nobody cancels ends as late after its start, whenever that is. -/
theorem wakeAt_onward (start now deadline : Instant) (delay : Duration) :
    wakeAt .never (start.onward now) ((start.onward now).afterWait delay) (start.onward deadline) =
      ((wakeAt .never now (now.afterWait delay) deadline).1,
        start.onward (wakeAt .never now (now.afterWait delay) deadline).2) := by
  have finish : (start.onward now).afterWait delay = start.onward (now.afterWait delay) := by
    simp [Instant.onward, Instant.afterWait, Instant.after, Nat.add_assoc]
  have expiry : (start.onward now).max (start.onward deadline) = start.onward (now.max deadline) := by
    simp only [Instant.max, Instant.onward_le_onward]
    split <;> rfl
  simp only [wakeAt, finish, expiry, Instant.onward_le_onward]
  by_cases met : now.afterWait delay ≤ now.max deadline
  · rw [if_pos met, if_pos met]
  · rw [if_neg met, if_neg met]

variable (never : env.cancellation = .never) (steady : env.connector.Steady)

include never in
theorem Recurs.wait (delay : Duration) (deadline : Instant) :
    Recurs env s (Run.wait delay deadline) (Run.wait delay (s.now.onward deadline)) := by
  have waits : ∀ (d : Instant) (u : Session), Run.wait delay d env u = .ok
      ((wakeAt .never u.now (u.now.afterWait delay) d).1,
        u.waited (wakeAt .never u.now (u.now.afterWait delay) d).1
          (wakeAt .never u.now (u.now.afterWait delay) d).2) := by
    intro d u
    rw [← never]
    rfl
  refine of_eq (waits deadline) ?_
  intro u
  have moved := wakeAt_onward s.now u.now deadline delay
  have now : (u.after s).now = s.now.onward u.now := rfl
  rw [waits, now, moved]
  rfl

include steady in
theorem Recurs.send (rpc : Rpc) (request : rpc.Request) :
    Recurs env s (Run.send rpc request) (Run.send rpc request) := by
  let reply := env.connector.answer [] rpc request
  have sends : ∀ u : Session, Run.send rpc request env u = (do
      Run.record (.called ⟨rpc, request⟩)
      Run.logAll reply.notes
      return reply : Run (Reply rpc.Response)) env u := by
    intro u
    simp only [reply]
    rw [← steady u.calls]
    rfl
  intro u answer t ended
  rw [sends] at ended ⊢
  exact ((record _).bind fun _ => (logAll _).bind fun _ => pure _ : Recurs env s _ _) u answer t ended

theorem Recurs.startProbe (target : String) (count : Nat) :
    Recurs env s (Run.startProbe target count) (Run.startProbe target count) := by
  refine (record _).bind fun _ => read.bind fun e => ?_
  split
  · exact halt _ _
  · exact (logAll _).bind fun _ => pure _

end Run

namespace Guard
variable {α β : Type} {env : Environment} {s : Session}

/-- A guard that is set later is the same guard, later. -/
theorem start_recurs (budget : Duration) {f f' : Guard → Run β}
    (next : ∀ g, Run.Recurs env s (f g) (f' (g.onward s.now))) :
    Run.Recurs env s (start budget >>= f) (start budget >>= f') := by
  intro u b t ended
  have later : (u.after s).now.after budget = s.now.onward (u.now.after budget) := by
    simp [Session.after, Instant.onward, Instant.after, Nat.add_assoc]
  rw [Run.bind_apply] at ended ⊢
  by_cases fits : (u.after s).now.after budget ≤ Instant.latest
  · have earlier : u.now.after budget ≤ Instant.latest := by
      rw [later] at fits
      exact Nat.le_trans (Nat.le_add_left _ _) fits
    rw [start_fits env _ budget fits, later] at ended
    rw [start_fits env u budget earlier]
    exact next ⟨u.now.after budget, budget⟩ u b t ended
  · rw [start_unfit env _ budget fits] at ended
    cases ended

variable (never : env.cancellation = .never) (g : Guard) (operation : String)
include never

theorem settle_recurs (reply : Reply α) :
    Run.Recurs env s (g.settle operation reply) ((g.onward s.now).settle operation reply) := by
  refine (Run.Recurs.wait never _ _).bind fun wake => ?_
  have noted : Run.Recurs env s (do
      Run.record (.ended operation (failure? (g.outcome operation reply wake)))
      return g.outcome operation reply wake) _ :=
    (Run.Recurs.record _).bind fun _ => .pure _
  have outcome : (g.onward s.now).outcome operation reply wake = g.outcome operation reply wake := by
    cases wake <;> rfl
  simp only [outcome]
  split
  · exact (Run.Recurs.logAll _).bind fun _ => noted
  · exact noted

theorem run_recurs {call : Run (Reply α)} (calls : Run.Recurs env s call call) :
    Run.Recurs env s (g.run operation call) ((g.onward s.now).run operation call) := by
  refine (Run.Recurs.log _).bind fun _ => Run.Recurs.look.bind fun fires => ?_
  cases fires with
  | true => exact .pure _
  | false => exact calls.bind fun reply => g.settle_recurs never operation reply

end Guard
end IPsecControl
