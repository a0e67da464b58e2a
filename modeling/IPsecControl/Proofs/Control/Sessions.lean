import IPsecControl.Control.Session

/-! Sessions without their logs. What an operation does never depends on a line that was
logged, so its effect is told on sessions from which the lines are erased: `Run.Acts` gives
the value and the session that an operation ends with, and its rules follow the operations. -/
namespace IPsecControl

def Event.isLine : Event → Bool
  | .logged _ => true
  | _ => false

/-- The calls among events, in order. -/
def callsIn (es : List Event) : List Call :=
  es.filterMap fun | .called call => some call | _ => none

@[simp] theorem callsIn_append (es fs : List Event) : callsIn (es ++ fs) = callsIn es ++ callsIn fs :=
  List.filterMap_append

namespace Session

/-- The session without its log. -/
def unlogged (s : Session) : Session :=
  { s with timeline := s.timeline.filter fun e => !e.2.isLine }

/-- Everything that happened but the lines logged, in order. -/
def acts (s : Session) : List Event := s.unlogged.events

/-- Notes events at the current time, in order. -/
def recordAll (es : List Event) (s : Session) : Session := es.foldl record s

/-- A look at the token finds the run cancelled. -/
def fires (c : Cancellation) (s : Session) : Bool := s.cancelled || c = .beforeLook s.looks

def looked (c : Cancellation) (s : Session) : Session :=
  { s with cancelled := s.fires c, looks := s.looks + 1 }

def waited (wake : Run.Wake) (time : Instant) (s : Session) : Session :=
  { s with now := time, cancelled := s.cancelled || wake = .cancelled }

variable (s : Session)

@[simp] theorem unlogged_now : s.unlogged.now = s.now := rfl
@[simp] theorem unlogged_cancelled : s.unlogged.cancelled = s.cancelled := rfl

/-- A token that nobody cancels leaves a session as cancelled as it is. -/
@[simp] theorem fires_never : s.fires .never = s.cancelled := by simp [fires]

@[simp] theorem looked_never_cancelled : (s.looked .never).cancelled = s.cancelled := s.fires_never

@[simp] theorem looked_events (c : Cancellation) : (s.looked c).events = s.events := rfl

@[simp] theorem looked_calls (c : Cancellation) : (s.looked c).calls = s.calls := rfl

/-- A token is no part of what happened. -/
@[simp] theorem events_token (cancelled : Bool) (looks : Nat) :
    ({ s with cancelled, looks } : Session).events = s.events := rfl

@[simp] theorem record_events (e : Event) : (s.record e).events = s.events ++ [e] := by
  simp [record, events]

theorem acts_eq_filter : s.acts = s.events.filter (!·.isLine) := by
  simp only [acts, events, unlogged, List.filter_map]
  rfl

theorem unlogged_record_act {e : Event} (act : e.isLine = false) :
    (s.record e).unlogged = s.unlogged.record e := by
  simp [unlogged, record, act]

theorem unlogged_record_line (line : Log.Line) : (s.record (.logged line)).unlogged = s.unlogged := by
  simp [unlogged, record, Event.isLine]

/-- A view of a session that passes over logged lines is a view of its acts. -/
theorem filterMap_acts {α : Type} (view : Event → Option α)
    (lines : ∀ line, view (.logged line) = none) :
    s.acts.filterMap view = s.events.filterMap view := by
  rw [acts_eq_filter, List.filterMap_filter]
  congr 1
  funext e
  cases e <;> simp [Event.isLine, lines]

theorem calls_eq : s.calls = callsIn s.events := rfl

theorem record_calls (e : Event) : (s.record e).calls = s.calls ++ callsIn [e] := by
  rw [calls_eq, record_events, callsIn_append, ← calls_eq]

@[simp] theorem record_opened_calls : (s.record .opened).calls = s.calls :=
  (s.record_calls .opened).trans (List.append_nil _)

@[simp] theorem record_closed_calls : (s.record .closed).calls = s.calls :=
  (s.record_calls .closed).trans (List.append_nil _)

@[simp] theorem calls_unlogged : s.unlogged.calls = s.calls :=
  s.filterMap_acts (fun | .called call => some call | _ => none) fun _ => rfl

theorem filter_acts (kept : Event → Bool) (lines : ∀ line, kept (.logged line) = false) :
    s.acts.filter kept = s.events.filter kept := by
  rw [acts_eq_filter, List.filter_filter]
  congr 1
  funext e
  cases e <;> simp [Event.isLine, lines]

theorem opens_eq_acts : s.opens = (s.acts.filter (· = .opened)).length := by
  rw [filter_acts _ _ fun _ => rfl]
  rfl

theorem closes_eq_acts : s.closes = (s.acts.filter (· = .closed)).length := by
  rw [filter_acts _ _ fun _ => rfl]
  rfl

@[simp] theorem opens_unlogged : s.unlogged.opens = s.opens := s.opens_eq_acts.symm
@[simp] theorem closes_unlogged : s.unlogged.closes = s.closes := s.closes_eq_acts.symm

@[simp] theorem record_opened_opens : (s.record .opened).opens = s.opens + 1 := by
  simp [opens]

@[simp] theorem record_opened_closes : (s.record .opened).closes = s.closes := by
  simp [closes]

@[simp] theorem recordAll_nil : s.recordAll [] = s := rfl

@[simp] theorem recordAll_cons (e : Event) (es : List Event) :
    s.recordAll (e :: es) = (s.record e).recordAll es := rfl

theorem recordAll_eq (es : List Event) :
    s.recordAll es = { s with timeline := s.timeline ++ es.map (s.now, ·) } := by
  induction es generalizing s with
  | nil => simp
  | cons e rest ih => simp [ih, record]

end Session

namespace Run
variable {α β : Type} {env : Environment} {s t u : Session}

theorem bind_apply (m : Run α) (f : α → Run β) (env : Environment) (s : Session) :
    (m >>= f) env s = (m env s).bind fun (a, t) => f a env t := rfl

/-- From a session that shows `s` when its log is erased, the operation gives a value and
goes on to a session that shows `t`. -/
def Acts (env : Environment) (m : Run α) (s : Session) (a : α) (t : Session) : Prop :=
  ∀ u : Session, u.unlogged = s → ∃ v : Session, m env u = .ok (a, v) ∧ v.unlogged = t

namespace Acts
variable {m : Run α} {f : α → Run β} {a : α} {b : β}

theorem pure (a : α) : Acts env (Pure.pure a) s a s :=
  fun u shown => ⟨u, rfl, shown⟩

theorem bind (first : Acts env m s a t) (next : Acts env (f a) t b u) :
    Acts env (m >>= f) s b u := by
  intro x shown
  obtain ⟨y, ran, shown⟩ := first x shown
  obtain ⟨z, ranOn, shown⟩ := next y shown
  refine ⟨z, ?_, shown⟩
  rw [bind_apply, ran]
  exact ranOn

/-- The value and the session that a run from `u` ends with. -/
theorem run (acts : Acts env m u.unlogged a t) : ∃ v : Session, m env u = .ok (a, v) ∧ v.unlogged = t :=
  acts u rfl

theorem read : Acts env (ReaderT.read : Run Environment) s env s :=
  fun u shown => ⟨u, rfl, shown⟩

theorem log (line : Log.Line) : Acts env (Run.log line) s () s :=
  fun u shown => ⟨u.record (.logged line), rfl, (u.unlogged_record_line line).trans shown⟩

theorem logAll (lines : List Log.Line) : Acts env (Run.logAll lines) s () s := by
  induction lines with
  | nil => exact pure ()
  | cons line rest ih => exact (log line).bind ih

theorem record {e : Event} (act : e.isLine = false) : Acts env (Run.record e) s () (s.record e) := by
  rintro u rfl
  exact ⟨u.record e, rfl, u.unlogged_record_act act⟩

/-- The run is given another token. -/
theorem token (cancelled : Bool) (looks : Nat) :
    Acts env (modify fun s => { s with cancelled, looks } : Run Unit) s () { s with cancelled, looks } := by
  rintro u rfl
  exact ⟨_, rfl, rfl⟩

theorem look : Acts env Run.look s (s.fires env.cancellation) (s.looked env.cancellation) := by
  rintro u rfl
  exact ⟨u.looked env.cancellation, rfl, rfl⟩

theorem wait {delay : Duration} {deadline time : Instant} {wake : Wake}
    (ends : wakeAt env.cancellation s.now (s.now.afterWait delay) deadline = (wake, time)) :
    Acts env (Run.wait delay deadline) s wake (s.waited wake time) := by
  rintro u rfl
  simp only [Session.unlogged_now] at ends
  refine ⟨u.waited wake time, ?_, rfl⟩
  have waited : Run.wait delay deadline env u = .ok
      ((wakeAt env.cancellation u.now (u.now.afterWait delay) deadline).1,
        u.waited (wakeAt env.cancellation u.now (u.now.afterWait delay) deadline).1
          (wakeAt env.cancellation u.now (u.now.afterWait delay) deadline).2) := rfl
  rw [waited, ends]

/-- An operation acts in one way only. -/
theorem unique {a' : α} {v w : Session} (acts : Acts env m v.unlogged a t)
    (ran : m env v = .ok (a', w)) : a = a' ∧ t = w.unlogged := by
  obtain ⟨x, ran', rfl⟩ := acts.run
  rw [ran'] at ran
  cases ran
  exact ⟨rfl, rfl⟩

end Acts

/-- From a session that shows `s` when its log is erased, the operation comes to no end. -/
def Halts (env : Environment) (m : Run α) (s : Session) : Prop :=
  ∀ u : Session, u.unlogged = s → ∃ h, m env u = .error h

namespace Halts
variable {m : Run α} {a : α}

theorem bind (halts : Halts env m s) (f : α → Run β) : Halts env (m >>= f) s := by
  intro u shown
  obtain ⟨h, halted⟩ := halts u shown
  exact ⟨h, by rw [bind_apply, halted]; rfl⟩

theorem after {f : α → Run β} (first : Acts env m s a t) (halts : Halts env (f a) t) :
    Halts env (m >>= f) s := by
  intro u shown
  obtain ⟨v, ran, shown⟩ := first u shown
  obtain ⟨h, halted⟩ := halts v shown
  exact ⟨h, by rw [bind_apply, ran]; exact halted⟩

end Halts

/-- The operation ends in one of the given ways, unless its durations do not fit the clock and it
comes to no end. -/
def Ends (env : Environment) (m : Run α) (s : Session) (ways : α → Session → Prop)
    (fits : Prop) : Prop :=
  (∃ a t, Acts env m s a t ∧ ways a t) ∨ (¬ fits ∧ Halts env m s)

namespace Ends
variable {m : Run α} {f : α → Run β} {a : α} {ways ways' : α → Session → Prop}
variable {later : β → Session → Prop} {fits fits' : Prop}

theorem acts (acts : Acts env m s a t) (way : ways a t) : Ends env m s ways fits :=
  .inl ⟨a, t, acts, way⟩

theorem after (first : Acts env m s a t) (ends : Ends env (f a) t later fits) :
    Ends env (m >>= f) s later fits := by
  obtain ⟨b, u, acts, way⟩ | ⟨unfit, halts⟩ := ends
  · exact .inl ⟨b, u, first.bind acts, way⟩
  · exact .inr ⟨unfit, .after first halts⟩

theorem bind (first : Ends env m s ways fits)
    (next : ∀ a t, ways a t → Ends env (f a) t later fits) : Ends env (m >>= f) s later fits := by
  obtain ⟨a, t, acts, way⟩ | ⟨unfit, halts⟩ := first
  · exact .after acts (next a t way)
  · exact .inr ⟨unfit, halts.bind f⟩

theorem mono (ends : Ends env m s ways fits) (allows : ∀ a t, ways a t → ways' a t)
    (narrows : fits' → fits) : Ends env m s ways' fits' := by
  obtain ⟨a, t, acts, way⟩ | ⟨unfit, halts⟩ := ends
  · exact .inl ⟨a, t, acts, allows a t way⟩
  · exact .inr ⟨fun fit => unfit (narrows fit), halts⟩

/-- An operation whose durations fit the clock comes to an end. -/
theorem of_fits (ends : Ends env m s ways fits) (fit : fits) : ∃ a t, Acts env m s a t ∧ ways a t :=
  ends.resolve_right fun halts => halts.1 fit

/-- An operation that came to an end did so in one of its ways. -/
theorem way {u v : Session} (ends : Ends env m u.unlogged ways fits) (ran : m env u = .ok (a, v)) :
    ways a v.unlogged := by
  obtain ⟨b, t, acts, way⟩ | ⟨-, halts⟩ := ends
  · obtain ⟨rfl, rfl⟩ := acts.unique ran
    exact way
  · obtain ⟨h, halted⟩ := halts u rfl
    rw [ran] at halted
    contradiction

end Ends
end Run
end IPsecControl
