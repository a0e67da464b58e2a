import IPsecControl.Proofs.Control.Clients

/-! Operations in two environments that answer alike. Replies that differ only in what is logged of
them make no difference: as long as every call made is one that both environments answer alike, an
operation gives the same value in both, and the sessions show the same when their logs are erased. -/
namespace IPsecControl

/-- The answers have the same outcome at the same time. -/
def Reply.Alike {α : Type} (r r' : Reply α) : Prop := r.delay = r'.delay ∧ r.outcome = r'.outcome

/-- The environments let the same clients open, have the same prober and the same cancellation, and
answer alike what is asked within bounds. -/
structure Environment.Alike (within : Call → Prop) (env env' : Environment) : Prop where
  opening : env.connector.opening = env'.connector.opening
  answers : ∀ calls rpc request, within ⟨rpc, request⟩ →
    (env.connector.answer calls rpc request).Alike (env'.connector.answer calls rpc request)
  prober : env.prober = env'.prober
  cancellation : env.cancellation = env'.cancellation

namespace Run

section
variable (within : Call → Prop) (env env' : Environment)

/-- What ends in one environment, after calls that are all within bounds, ends alike in the other. -/
def Alike {α : Type} (R : α → α → Prop) (m m' : Run α) : Prop :=
  ∀ u u' a t, u.unlogged = u'.unlogged → m env u = .ok (a, t) → u.calls ⊆ t.calls ∧
    ((∀ call ∈ t.calls, within call) →
      ∃ a' t', m' env' u' = .ok (a', t') ∧ R a a' ∧ t.unlogged = t'.unlogged)

end

namespace Alike
variable {within : Call → Prop} {env env' : Environment} {α β : Type} {R : α → α → Prop}
variable {Q : β → β → Prop} {m m' : Run α}

theorem of_acts (acts : ∀ s, (∃ a a' t, Acts env m s a t ∧ Acts env' m' s a' t ∧ s.calls ⊆ t.calls ∧
    ((∀ call ∈ t.calls, within call) → R a a')) ∨ Halts env m s) : Alike within env env' R m m' := by
  intro u u' a t same ran
  obtain ⟨b, b', s, acts, acts', grows, related⟩ | halts := acts u.unlogged
  · obtain ⟨rfl, rfl⟩ := acts.unique ran
    obtain ⟨t', ran', shown⟩ := acts' u' same.symm
    rw [u.calls_unlogged, t.calls_unlogged] at grows
    refine ⟨grows, fun fits => ⟨b', t', ran', related ?_, shown.symm⟩⟩
    rwa [t.calls_unlogged]
  · obtain ⟨h, halted⟩ := halts u rfl
    rw [ran] at halted
    contradiction

/-- Operations that act in the same way in both environments. -/
theorem of_acts_eq (acts : ∀ s, ∃ a t, Acts env m s a t ∧ Acts env' m' s a t ∧ s.calls ⊆ t.calls) :
    Alike within env env' Eq m m' := by
  refine of_acts fun s => .inl ?_
  obtain ⟨a, t, acts, acts', grows⟩ := acts s
  exact ⟨a, a, t, acts, acts', grows, fun _ => rfl⟩

theorem pure {a a' : α} (related : R a a') :
    Alike within env env' R (Pure.pure a) (Pure.pure a') :=
  of_acts fun s => .inl ⟨a, a', s, .pure a, .pure a', List.Subset.refl _, fun _ => related⟩

theorem bind {f f' : α → Run β} (first : Alike within env env' R m m') (total : ∀ a, ∃ a', R a a')
    (next : ∀ a a', R a a' → Alike within env env' Q (f a) (f' a')) :
    Alike within env env' Q (m >>= f) (m' >>= f') := by
  intro u u' b t same ran
  rw [bind_apply] at ran
  cases ranFirst : m env u with
  | error h => simp [ranFirst, Except.bind] at ran
  | ok x =>
    obtain ⟨a, v⟩ := x
    rw [ranFirst] at ran
    obtain ⟨grows, goes⟩ := first u u' a v same ranFirst
    -- That the rest makes more calls only is known before the first values are known to agree.
    obtain ⟨b', related⟩ := total a
    have growsOn := (next a b' related v v b t rfl ran).1
    refine ⟨fun _ member => growsOn (grows member), fun fits => ?_⟩
    obtain ⟨a', v', ran', related, same⟩ := goes fun call member => fits call (growsOn member)
    obtain ⟨b', t', ranOn', related, same⟩ := (next a a' related v v' b t same ran).2 fits
    exact ⟨b', t', by rw [bind_apply, ran']; exact ranOn', related, same⟩

/-- What follows a value that is the same in both. -/
theorem bind_eq {f f' : α → Run β} (first : Alike within env env' Eq m m')
    (next : ∀ a, Alike within env env' Q (f a) (f' a)) :
    Alike within env env' Q (m >>= f) (m' >>= f') :=
  first.bind (fun a => ⟨a, rfl⟩) fun a _ related => related ▸ next a

theorem log (line line' : Log.Line) : Alike within env env' Eq (Run.log line) (Run.log line') :=
  of_acts_eq fun s => ⟨(), s, .log line, .log line', List.Subset.refl _⟩

theorem logAll (lines lines' : List Log.Line) :
    Alike within env env' Eq (Run.logAll lines) (Run.logAll lines') :=
  of_acts_eq fun s => ⟨(), s, .logAll lines, .logAll lines', List.Subset.refl _⟩

theorem token (cancelled : Bool) (looks : Nat) :
    Alike within env env' Eq (modify fun s => { s with cancelled, looks })
      (modify fun s => { s with cancelled, looks }) :=
  of_acts_eq fun _ => ⟨(), _, .token cancelled looks, .token cancelled looks, List.Subset.refl _⟩

end Alike

section
variable {within : Call → Prop} {env env' : Environment} (alike : env.Alike within env')

theorem subset_record (s : Session) (e : Event) : s.calls ⊆ (s.record e).calls := by
  rw [s.record_calls]
  exact List.subset_append_left _ _

section
include alike

theorem look_alike : Alike within env env' Eq look look :=
  .of_acts_eq fun _ => ⟨_, _, .look, alike.cancellation ▸ .look, List.Subset.refl _⟩

theorem openClient_alike : Alike within env env' Eq openClient openClient := by
  refine .of_acts_eq fun s => ?_
  cases opens : env.connector.opening with
  | ok opened =>
    have opens' := alike.opening ▸ opens
    exact ⟨_, _, openClient_acts opens, openClient_acts opens', subset_record s .opened⟩
  | error e =>
    have refused := alike.opening ▸ opens
    exact ⟨_, _, openClient_refused opens, openClient_refused refused, List.Subset.refl _⟩

theorem send_alike (rpc : Rpc) (request : rpc.Request) :
    Alike within env env' Reply.Alike (send rpc request) (send rpc request) := by
  refine .of_acts fun s => .inl ⟨_, _, _, send_acts env s rpc request, send_acts env' s rpc request,
    subset_record s _, fun fits => alike.answers _ _ _ (fits _ ?_)⟩
  rw [s.record_calls]
  exact List.mem_append_right _ List.mem_cons_self

theorem startProbe_alike (target : String) (count : Nat) :
    Alike within env env' Eq (startProbe target count) (startProbe target count) := by
  refine .of_acts fun s => ?_
  cases replies : env.prober target count with
  | ok reply =>
    have replies' := alike.prober ▸ replies
    exact .inl ⟨_, _, _, startProbe_acts replies, startProbe_acts replies', subset_record s _,
      fun _ => rfl⟩
  | error cause => exact .inr (startProbe_halts replies)

end

theorem closeClient_alike : Alike within env env' Eq closeClient closeClient :=
  .of_acts_eq fun s => ⟨_, _, closeClient_acts, closeClient_acts, subset_record s .closed⟩

theorem uncancelled_alike {α : Type} {m : Run α}
    (inner : Alike within { env with cancellation := .never } { env' with cancellation := .never } Eq
      m m) : Alike within env env' Eq (uncancelled m) (uncancelled m) := by
  intro u u' a t same ran
  rw [uncancelled_apply] at ran
  have fresh : ({ u with cancelled := false, looks := 0 } : Session).unlogged =
      ({ u' with cancelled := false, looks := 0 } : Session).unlogged :=
    congrArg (fun s : Session => { s with cancelled := false, looks := 0 }) same
  cases ranInner : m { env with cancellation := .never } { u with cancelled := false, looks := 0 } with
  | error h => simp [ranInner, Except.bind] at ran
  | ok x =>
    obtain ⟨b, v⟩ := x
    rw [ranInner] at ran
    cases ran
    obtain ⟨grows, goes⟩ := inner _ _ _ _ fresh ranInner
    refine ⟨grows, fun fits => ?_⟩
    obtain ⟨_, v', ran', rfl, shown⟩ := goes fits
    refine ⟨_, { v' with cancelled := u'.cancelled, looks := u'.looks }, ?_, rfl, ?_⟩
    · rw [uncancelled_apply, ran']
      rfl
    · have cancelled : u.cancelled = u'.cancelled := congrArg (·.cancelled) same
      have looks : u.looks = u'.looks := congrArg (·.looks) same
      rw [cancelled, looks]
      exact congrArg (fun v : Session => { v with cancelled := u'.cancelled, looks := u'.looks }) shown

end
end Run

theorem Environment.Alike.uncancelled {within : Call → Prop} {env env' : Environment}
    (alike : env.Alike within env') : Environment.Alike within
      { env with cancellation := .never } { env' with cancellation := .never } :=
  ⟨alike.opening, alike.answers, alike.prober, rfl⟩

theorem Environment.Alike.symm {within : Call → Prop} {env env' : Environment}
    (alike : env.Alike within env') : env'.Alike within env where
  opening := alike.opening.symm
  answers calls rpc request fits :=
    let ⟨delay, outcome⟩ := alike.answers calls rpc request fits
    ⟨delay.symm, outcome.symm⟩
  prober := alike.prober.symm
  cancellation := alike.cancellation.symm

namespace Guard
variable {within : Call → Prop} {env env' : Environment} (alike : env.Alike within env')

theorem start_alike (budget : Duration) : Run.Alike within env env' Eq (start budget) (start budget) := by
  refine .of_acts fun s => ?_
  by_cases fits : s.now.after budget ≤ Instant.latest
  · exact .inl ⟨_, _, _, start_acts env s budget fits, start_acts env' s budget fits,
      List.Subset.refl _, fun _ => rfl⟩
  · exact .inr (start_halts env s budget fits)

variable {α : Type} (g : Guard) (operation : String)
include alike

theorem settle_alike {reply reply' : Reply α} (same : reply.Alike reply') :
    Run.Alike within env env' Eq (g.settle operation reply) (g.settle operation reply') := by
  refine .of_acts_eq fun s => ?_
  obtain ⟨delay, outcome⟩ := same
  cases ends : Run.wakeAt env.cancellation s.now (s.now.afterWait reply.delay) g.deadline with
  | mk wake time =>
    have ends' := ends
    rw [alike.cancellation, delay] at ends'
    have outcomes : g.outcome operation reply wake = g.outcome operation reply' wake := by
      cases wake <;> simp only [Guard.outcome, outcome]
    have settled : g.settled operation reply wake time s = g.settled operation reply' wake time s := by
      simp only [Guard.settled, outcomes]
    refine ⟨_, _, settle_acts ends, ?_, Run.subset_record (s.waited wake time) _⟩
    rw [outcomes, settled]
    exact settle_acts ends'

theorem run_alike {call : Run (Reply α)} (calls : Run.Alike within env env' Reply.Alike call call) :
    Run.Alike within env env' Eq (g.run operation call) (g.run operation call) := by
  refine .bind_eq (.log _ _) fun _ => .bind_eq (Run.look_alike alike) fun fires => ?_
  cases fires with
  | true => exact .pure rfl
  | false =>
    exact calls.bind (fun reply => ⟨reply, rfl, rfl⟩) fun _ _ same => g.settle_alike alike operation same

end Guard
end IPsecControl
