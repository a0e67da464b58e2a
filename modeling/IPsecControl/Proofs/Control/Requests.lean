import IPsecControl.Proofs.Control.Guards

/-! Requests: the calls and the probes of a session. What is claimed of them is claimed however an
operation ends, so the rules here speak of the requests made when it comes to an end and of those made
when the clock's arithmetic stops it. -/
namespace IPsecControl

def Event.isRequest : Event → Bool
  | .called _ | .probed .. => true
  | _ => false

namespace Session
variable (s : Session)

def requests : List Event := s.events.filter (·.isRequest)

variable {s} in
theorem requests_of_events {t : Session} {es : List Event} (events : t.events = s.events ++ es) :
    t.requests = s.requests ++ es.filter (·.isRequest) := by
  rw [requests, events, List.filter_append]
  rfl

theorem record_quiet {e : Event} (quiet : e.isRequest = false) :
    (s.record e).requests = s.requests := by
  rw [requests_of_events (s.record_events e), List.filter_cons_of_neg (by simp [quiet])]
  exact List.append_nil _

@[simp] theorem requests_unlogged : s.unlogged.requests = s.requests :=
  s.filter_acts (·.isRequest) fun _ => rfl

end Session

namespace Run
variable {α β : Type}

/-- The session in which an operation ends or is stopped. -/
def last (m : Run α) (env : Environment) (s : Session) : Session :=
  match m env s with
  | .ok (_, t) => t
  | .error h => h.session

section
variable (env : Environment) (always : List Event → Prop)

/-- Begun when `before` holds of the requests made since some moment, the operation ends when `after`
holds of them, or is stopped when `always` does. -/
def Upholds (before : List Event → Prop) (m : Run α) (after : α → List Event → Prop) : Prop :=
  ∀ (s : Session) (base made : List Event), s.requests = base ++ made → before made →
    match m env s with
    | .ok (a, t) => ∃ more, t.requests = base ++ more ∧ after a more
    | .error h => ∃ more, h.session.requests = base ++ more ∧ always more

end

namespace Upholds
variable {env : Environment} {always before before' : List Event → Prop} {m : Run α} {f : α → Run β}
variable {after after' : α → List Event → Prop} {later : β → List Event → Prop}

theorem mono (upholds : Upholds env always before m after)
    (earlier : ∀ made, before' made → before made) (allows : ∀ a made, after a made → after' a made) :
    Upholds env always before' m after' := by
  intro s base made shown holds
  have ended := upholds s base made shown (earlier made holds)
  split at ended
  · obtain ⟨more, shown, holds⟩ := ended
    exact ⟨more, shown, allows _ more holds⟩
  · exact ended

theorem pure {a : α} (allows : ∀ made, before made → after a made) :
    Upholds env always before (Pure.pure a) after :=
  fun _ _ made shown holds => ⟨made, shown, allows made holds⟩

theorem bind (first : Upholds env always before m after)
    (next : ∀ a, Upholds env always (after a) (f a) later) :
    Upholds env always before (m >>= f) later := by
  intro s base made shown holds
  have ended := first s base made shown holds
  rw [bind_apply]
  cases ran : m env s with
  | error h =>
    rw [ran] at ended
    exact ended
  | ok x =>
    obtain ⟨a, t⟩ := x
    rw [ran] at ended
    obtain ⟨more, shown, holds⟩ := ended
    exact next a t base more shown holds

/-- An operation that makes no request. -/
theorem silent {a : Session → α} {t : Session → Session} (ran : ∀ s, m env s = .ok (a s, t s))
    (kept : ∀ s, (t s).requests = s.requests) : Upholds env always before m fun _ => before := by
  intro s base made shown holds
  rw [ran s]
  exact ⟨made, (kept s).trans shown, holds⟩

theorem read : Upholds env always before (ReaderT.read : Run Environment) fun _ => before :=
  silent (fun _ => rfl) fun _ => rfl

theorem record {e : Event} (quiet : e.isRequest = false) :
    Upholds env always before (Run.record e) fun _ => before :=
  silent (fun _ => rfl) fun s => s.record_quiet quiet

theorem log (line : Log.Line) : Upholds env always before (Run.log line) fun _ => before := record rfl

theorem logAll (lines : List Log.Line) :
    Upholds env always before (Run.logAll lines) fun _ => before := by
  induction lines with
  | nil => exact pure fun _ => id
  | cons line rest ih => exact (log line).bind fun _ => ih

theorem look : Upholds env always before Run.look fun _ => before :=
  silent (fun _ => rfl) fun _ => rfl

theorem wait (delay : Duration) (deadline : Instant) :
    Upholds env always before (Run.wait delay deadline) fun _ => before :=
  silent (fun _ => rfl) fun _ => rfl

theorem openClient : Upholds env always before Run.openClient fun _ => before := by
  refine read.bind fun e => (logAll _).bind fun _ => ?_
  split
  · exact (record rfl).bind fun _ => pure fun _ => id
  · exact pure fun _ => id

theorem closeClient : Upholds env always before Run.closeClient fun _ => before :=
  (record rfl).bind fun _ => read.bind fun _ => logAll _

/-- Of a request that is made, it holds what held of the requests before with it added. -/
theorem request {e : Event} {made' : List Event → Prop} (requests : e.isRequest = true)
    (asks : ∀ made, before made → made' (made ++ [e])) :
    Upholds env always before (Run.record e) fun _ => made' := by
  intro s base made shown holds
  refine ⟨made ++ [e], ?_, asks made holds⟩
  rw [Session.requests_of_events (s.record_events e), shown]
  simp [requests]

variable {made' : List Event → Prop}

theorem send {rpc : Rpc} {request : rpc.Request}
    (asks : ∀ made, before made → made' (made ++ [.called ⟨rpc, request⟩])) :
    Upholds env always before (Run.send rpc request) fun _ => made' := by
  have earlier : Upholds env always before (get : Run Session) fun _ => before :=
    silent (fun _ => rfl) fun _ => rfl
  refine earlier.bind fun s => (Upholds.request rfl asks).bind fun _ => ?_
  exact read.bind fun e => (logAll _).bind fun _ => pure fun _ => id

theorem startProbe {target : String} {count : Nat}
    (asks : ∀ made, before made → made' (made ++ [.probed target count]))
    (holds : ∀ made, made' made → always made) :
    Upholds env always before (Run.startProbe target count) fun _ => made' := by
  refine (Upholds.request rfl asks).bind fun _ => read.bind fun e => ?_
  split
  · intro s base made shown held
    exact ⟨made, shown, holds made held⟩
  · exact (logAll _).bind fun _ => pure fun _ => id

/-- What holds of the requests of an operation, however it comes to its last session. -/
theorem last (upholds : Upholds env always before m after) (s : Session) (begun : before [])
    (ended : ∀ a made, after a made → always made) :
    ∃ made, (m.last env s).requests = s.requests ++ made ∧ always made := by
  have held := upholds s s.requests [] (List.append_nil _).symm begun
  rw [Run.last]
  split at held
  next a t ran =>
    obtain ⟨made, shown, holds⟩ := held
    exact ⟨made, shown, ended a made holds⟩
  next h halted => exact held

end Upholds
end Run

namespace Guard
variable {α : Type} {env : Environment} {always before after : List Event → Prop}

theorem start_upholds (budget : Duration) (holds : ∀ made, before made → always made) :
    Run.Upholds env always before (start budget) fun _ => before := by
  intro s base made shown held
  by_cases fits : s.now.after budget ≤ Instant.latest
  · rw [start_fits env s budget fits]
    exact ⟨made, shown, held⟩
  · rw [start_unfit env s budget fits]
    exact ⟨made, shown, holds made held⟩

theorem settle_upholds (g : Guard) (operation : String) (reply : Reply α) :
    Run.Upholds env always before (g.settle operation reply) fun _ => before := by
  refine (Run.Upholds.wait _ _).bind fun wake => ?_
  have noted : Run.Upholds env always before (do
      Run.record (.ended operation (failure? (g.outcome operation reply wake)))
      return g.outcome operation reply wake) fun _ => before :=
    (Run.Upholds.record rfl).bind fun _ => .pure fun _ => id
  simp only
  split
  · exact (Run.Upholds.logAll _).bind fun _ => noted
  · exact noted

/-- A guarded call is made, or it fails before that. -/
theorem run_upholds (g : Guard) (operation : String) {call : Run (Reply α)}
    (calls : Run.Upholds env always before call fun _ => after) :
    Run.Upholds env always before (g.run operation call) fun result made =>
      after made ∨ before made ∧ ∃ e, result = .error e := by
  refine (Run.Upholds.log _).bind fun _ => Run.Upholds.look.bind fun fires => ?_
  cases fires with
  | true =>
    exact .pure fun made held => .inr ⟨held, _, rfl⟩
  | false =>
    refine calls.bind fun reply => ?_
    exact (g.settle_upholds operation reply).mono (fun _ => id) fun _ _ => .inl

end Guard
end IPsecControl
