import IPsecControl.Proofs.Control.Bench

/-! Recorders as witnesses of what happened. The record of a client holds the calls made on it and nothing
else, and how each call ended is told from the steps alone: by what was last set for its procedure when it
was made, and for a listing of associations by what was last set when its answer was fetched. Setting
anything else makes no difference, and a session that makes a call sees what the bench shows. -/
namespace IPsecControl
open Message

namespace Bench
variable {b b' : Bench} {spares : Client → Rpc → Prop}

/-! ### Settings that a call does not depend on -/

/-- Benches that differ at most in what is set for calls that are not spared, and in their tickets. -/
structure Sparing (spares : Client → Rpc → Prop) (b b' : Bench) : Prop where
  now : b.now = b'.now
  count : b.tickets.length = b'.tickets.length
  behavior : ∀ client rpc, spares client rpc →
    (b.recorder client).plane.behavior rpc = (b'.recorder client).plane.behavior rpc
  ikeSas : ∀ client, spares client .listSas →
    (b.recorder client).plane.ikeSas = (b'.recorder client).plane.ikeSas
  tickets : ∀ (k : Nat) (t : Ticket), b.tickets[k]? = some t → spares t.client t.call.rpc →
    b'.tickets[k]? = some t

namespace Sparing
variable (same : Sparing spares b b')
include same

theorem ticket_eq {client : Client} {call : Call} (spared : spares client call.rpc) :
    b.ticket client call = b'.ticket client call := by
  have behaves := same.behavior client call.rpc spared
  have listed : call.rpc = .listSas →
      (b.recorder client).plane.ikeSas = (b'.recorder client).plane.ikeSas :=
    fun listing => same.ikeSas client (listing ▸ spared)
  simp only [ticket, MemoryPlane.answer_congr behaves listed, same.now]

theorem fetch_eq {t : Ticket} (spared : spares t.client t.call.rpc) : b.fetch t = b'.fetch t := by
  have listed : t.call.rpc = .listSas →
      (b.recorder t.client).plane.ikeSas = (b'.recorder t.client).plane.ikeSas :=
    fun listing => same.ikeSas t.client (listing ▸ spared)
  simp only [fetch, answer, same.now, MemoryPlane.response_congr listed]

theorem step_tickets (s : Step) (k : Nat) (t : Ticket) (held : (b.step s).tickets[k]? = some t)
    (spared : spares t.client t.call.rpc) : (b'.step s).tickets[k]? = some t := by
  cases s with
  | behave | list | elapse => exact same.tickets k t held spared
  | call client call =>
    simp only [step, update] at held ⊢
    by_cases earlier : k < b.tickets.length
    · rw [List.getElem?_append_left earlier] at held
      rw [List.getElem?_append_left (same.count ▸ earlier)]
      exact same.tickets k t held spared
    · rw [List.getElem?_append_right (Nat.le_of_not_lt earlier)] at held
      rw [List.getElem?_append_right (same.count ▸ Nat.le_of_not_lt earlier), ← same.count]
      have made : t = b.ticket client call := List.mem_singleton.mp (List.mem_of_getElem? held)
      subst made
      have renewed : b.ticket client call = b'.ticket client call := same.ticket_eq spared
      rwa [← renewed]
  | poll n =>
    simp only [step, List.getElem?_modify] at held ⊢
    obtain ⟨u, found, rfl⟩ := Option.map_eq_some_iff.mp held
    -- A fetched ticket is still that of the same call.
    have before : spares u.client u.call.rpc := by split at spared <;> simpa using spared
    rw [same.tickets k u found before, same.fetch_eq before]
    rfl

theorem step (s : Step) : Sparing spares (b.step s) (b'.step s) where
  now := by
    cases s with
    | elapse => simp only [Bench.step, same.now]
    | behave | list | call | poll => exact same.now
  count := by rw [step_tickets_length, step_tickets_length, same.count]
  behavior client rpc spared := by
    rw [step_behavior, step_behavior, same.behavior client rpc spared]
  ikeSas client spared := by
    have listed := step_ikeSas b s client
    rw [same.ikeSas client spared, ← step_ikeSas] at listed
    exact Option.some.inj listed
  tickets := same.step_tickets s

theorem run (steps : List Step) : Sparing spares (b.run steps) (b'.run steps) := by
  induction steps generalizing b b' with
  | nil => exact same
  | cons s rest ih => exact ih (same.step s)

end Sparing

theorem sparing_behave (b : Bench) (client : Client) (operation : String) (behavior : Behavior) :
    Sparing (fun c rpc => ¬ (c = client ∧ rpc.name = operation)) b
      (b.step (.behave client operation behavior)) where
  now := rfl
  count := rfl
  behavior c rpc spared := by
    have other : ¬ (client = c ∧ operation = rpc.name) := fun both => spared ⟨both.1.symm, both.2.symm⟩
    rw [step_behavior, Step.behaviorOn?, if_neg other, Option.none_or]
  ikeSas c _ := (Option.some.inj (step_ikeSas b _ c)).symm
  tickets _ _ held _ := held

theorem sparing_list (b : Bench) (client : Client) (ikeSas : List ListIkeSa) :
    Sparing (fun c rpc => ¬ (c = client ∧ rpc = .listSas)) b (b.step (.list client ikeSas)) where
  now := rfl
  count := rfl
  behavior c rpc _ := (step_behavior b (.list client ikeSas) c rpc).symm
  ikeSas c spared := by
    have listed := step_ikeSas b (.list client ikeSas) c
    have other : ¬ client = c := fun same => spared ⟨same.symm, rfl⟩
    rw [Step.ikeSasOn?, if_neg other, Option.none_or] at listed
    exact (Option.some.inj listed).symm
  tickets _ _ held _ := held

/-! ### Runs from the start -/

/-- A bench on which steps were taken, with nothing made or set before. -/
def after (start : Instant) (steps : List Step) : Bench := run { now := start } steps

/-- The behavior that was last set on a client for a procedure. -/
def lastBehavior (client : Client) (rpc : Rpc) (steps : List Step) : Option Behavior :=
  lastSet (·.behaviorOn? client rpc) steps

/-- The associations that were last set on a client. -/
def lastListed (client : Client) (steps : List Step) : List ListIkeSa :=
  (lastSet (·.ikeSasOn? client) steps).getD []

/-- The nanoseconds to wait for the answer to a call with a behavior. -/
def waitFor (behavior : Option Behavior) : Nat :=
  ((Behavior.time behavior).min Instant.longestWait).nanos

/-- Of the steps `later` that come behind a call, those before the look that fetches its answer are
`middle`. -/
def FetchedBehind (before : List Step) (client : Client) (rpc : Rpc) (later middle : List Step) : Prop :=
  Fetches (before.countP Step.isCall) (waitFor (lastBehavior client rpc before)) later middle

/-- What the steps tell of the end of a call, if its answer is fetched behind the steps `middle`. -/
def told (before : List Step) (client : Client) (call : Call) (middle : List Step) :
    Result call.rpc.Response :=
  (Behavior.ending call.rpc (lastBehavior client call.rpc before)).map fun _ =>
    MemoryPlane.response { ikeSas := lastListed client (before ++ .call client call :: middle) }
      call.rpc call.request

variable (start : Instant) (steps : List Step) (client : Client)

theorem after_behavior (rpc : Rpc) :
    ((after start steps).recorder client).plane.behavior rpc = lastBehavior client rpc steps := by
  have kept := run_lastSet { now := start } (fun b => (b.recorder client).plane.behavior rpc) _
    (fun b s => step_behavior b s client rpc) steps
  rwa [Option.or_none] at kept

theorem after_ikeSas : ((after start steps).recorder client).plane.ikeSas = lastListed client steps := by
  have kept := run_lastSet { now := start } (fun b => some (b.recorder client).plane.ikeSas) _
    (fun b s => step_ikeSas b s client) steps
  rw [lastListed, ← Option.some.injEq, after, kept]
  cases lastSet (·.ikeSasOn? client) steps <;> rfl

theorem after_count : (after start steps).tickets.length = steps.countP Step.isCall := by
  rw [after, run_tickets_length]
  exact Nat.zero_add _

theorem after_append (later : List Step) : after start (steps ++ later) = (after start steps).run later :=
  run_append _ steps later

theorem ticket_wait (call : Call) :
    ((after start steps).ticket client call).due.nanos - (after start steps).now.nanos =
      waitFor (lastBehavior client call.rpc steps) := by
  rw [← after_behavior start, waitFor, ← MemoryPlane.answer_delay _ _ call.request]
  exact Nat.add_sub_cancel_left ..

/-- The answer to a call, which is the last of the steps so far, as it is fetched after some more. -/
theorem ticket_answer (call : Call) (middle : List Step) :
    (((after start steps).ticket client call).reply.outcome.map fun _ =>
        ((after start (steps ++ .call client call :: middle)).recorder client).plane.response
          call.rpc call.request) = told steps client call middle := by
  have responds : ((after start (steps ++ .call client call :: middle)).recorder client).plane.response
      call.rpc call.request = MemoryPlane.response
        { ikeSas := lastListed client (steps ++ .call client call :: middle) } call.rpc call.request :=
    MemoryPlane.response_congr (fun _ => after_ikeSas start _ client) call.request
  have replied : ((after start steps).ticket client call).reply.outcome = _ :=
    MemoryPlane.answer_outcome _ call.rpc call.request
  rw [responds, replied, after_behavior, told]
  cases Behavior.ending call.rpc (lastBehavior client call.rpc steps) <;> rfl

/-- Every call has a ticket, and the ticket the answer that the steps tell. -/
theorem after_ticket {before later : List Step} {call : Call}
    (split : steps = before ++ .call client call :: later) :
    ∃ reply due outcome,
      (after start steps).tickets[before.countP Step.isCall]? = some ⟨client, call, reply, due, outcome⟩ ∧
      ∀ result, outcome = some result ↔ ∃ middle,
        FetchedBehind before client call.rpc later middle ∧ result = told before client call middle := by
  subst split
  let t := (after start before).ticket client call
  have made : ((after start before).step (.call client call)).tickets[before.countP Step.isCall]? =
      some ⟨client, call, t.reply, t.due, none⟩ := by
    rw [← after_count start]
    exact List.getElem?_concat_length
  obtain ⟨outcome, held, answered⟩ := run_waiting _ made later
  have wait : t.due.nanos - ((after start before).step (.call client call)).now.nanos =
      waitFor (lastBehavior client call.rpc before) := ticket_wait start before client call
  refine ⟨t.reply, t.due, outcome, ?_, fun result => ?_⟩
  · rw [after_append, run_cons]
    exact held
  · rw [answered, wait]
    refine exists_congr fun middle => and_congr_right fun _ => ?_
    rw [← ticket_answer start, after_append, run_cons]
    rfl

/-- What is in the answer to a call that succeeded. -/
theorem after_response {before later : List Step} {call : Call} {reply : Reply call.rpc.Response}
    {due : Instant} {response : call.rpc.Response} (split : steps = before ++ .call client call :: later)
    (held : (after start steps).tickets[before.countP Step.isCall]? =
      some ⟨client, call, reply, due, some (.ok response)⟩) :
    ∃ middle, FetchedBehind before client call.rpc later middle ∧
      response = MemoryPlane.response { ikeSas := lastListed client (before ++ .call client call :: middle) }
        call.rpc call.request := by
  obtain ⟨_, _, outcome, held', answered⟩ := after_ticket start steps client split
  rw [held'] at held
  cases held
  obtain ⟨middle, fetched, ended⟩ := (answered (.ok response)).mp rfl
  refine ⟨middle, fetched, ?_⟩
  rw [told] at ended
  cases ending : Behavior.ending call.rpc (lastBehavior client call.rpc before) with
  | error e => simp [ending, Except.map] at ended
  | ok _ => simpa [ending, Except.map] using ended

/-! ### Sessions -/

end Bench

/-- A wait that nobody cancels ends with the answer. -/
theorem Run.await_acts {α : Type} {env : Environment} {s : Session} (never : env.cancellation = .never)
    (reply : Reply α) : Run.Acts env (Run.await reply) s reply.outcome
      (s.waited .answered (s.now.afterWait reply.delay)) := by
  rintro u rfl
  have within : u.now.afterWait reply.delay ≤ u.now.max (u.now.after reply.delay) := by
    simp only [Instant.le_iff, Instant.max_nanos, Instant.afterWait, Instant.after_nanos, Duration.min_nanos]
    omega
  have ends : Run.wakeAt env.cancellation u.unlogged.now (u.unlogged.now.afterWait reply.delay)
      (u.now.after reply.delay) = (.answered, u.unlogged.now.afterWait reply.delay) := by
    rw [never, Session.unlogged_now]
    simp only [Run.wakeAt, if_pos within]
  have waits : Run.Acts env (do
      let _ ← Run.wait reply.delay (u.now.after reply.delay)
      Run.logAll reply.remarks
      return reply.outcome) u.unlogged reply.outcome
      (u.unlogged.waited .answered (u.unlogged.now.afterWait reply.delay)) :=
    (Run.Acts.wait ends).bind ((Run.Acts.logAll _).bind (Run.Acts.pure _))
  exact waits u rfl

namespace Bench

/-- A session that makes a call on a client and waits for the answer comes to what is seen on the bench
when the answer is fetched as soon as it is due. -/
def Shows (b : Bench) (client : Client) : Prop :=
  ∀ (env : Environment) (s : Session) (rpc : Rpc) (request : rpc.Request),
    env.connector = (b.recorder client).plane.connector → env.cancellation = .never →
    s.now = b.now → s.calls = (b.recorder client).calls →
    ∃ result t reply due, (Run.send rpc request >>= Run.await) env s = .ok (result, t) ∧
      let seen := b.run
        [.call client ⟨rpc, request⟩, .elapse (t.now.since s.now), .poll b.tickets.length]
      seen.now = t.now ∧ (seen.recorder client).calls = t.calls ∧
        seen.tickets[b.tickets.length]? = some ⟨client, ⟨rpc, request⟩, reply, due, some result⟩

theorem shows_session (b : Bench) (client : Client) : b.Shows client := by
  intro env s rpc request connector never now calls
  let reply := (b.recorder client).plane.answer rpc request
  have sent := Run.send_acts env s.unlogged rpc request
  have replied : env.connector.answer s.unlogged.calls rpc request = reply := by rw [connector]; rfl
  rw [replied] at sent
  obtain ⟨t, ran, shown⟩ := (sent.bind (Run.await_acts never reply)).run
  have later : t.now = b.now.afterWait reply.delay := by
    rw [← t.unlogged_now, shown, ← now]
    rfl
  have since : b.now.after (t.now.since s.now) = t.now := by
    rw [later, now]
    simp [Instant.after, Instant.since, Instant.afterWait]
  have made : t.calls = s.calls ++ [⟨rpc, request⟩] := by
    rw [← t.calls_unlogged, shown, ← s.calls_unlogged]
    exact Session.record_calls _ _
  refine ⟨reply.outcome, t, reply, b.now.afterWait reply.delay, ran, since, ?_, ?_⟩
  · rw [made, calls, run_calls]
    simp [Step.callOn?]
  · let ready := (b.step (.call client ⟨rpc, request⟩)).step (.elapse (t.now.since s.now))
    have held : ready.tickets[b.tickets.length]? = some (b.ticket client ⟨rpc, request⟩) :=
      List.getElem?_concat_length
    have due : (b.ticket client ⟨rpc, request⟩).due = ready.now := later.symm.trans since.symm
    have fetched := step_poll ready held
    have plane : (ready.recorder client).plane = (b.recorder client).plane := by
      simp [ready, step, update, Recorder.record]
    have answered : ready.answer (b.ticket client ⟨rpc, request⟩) = reply.outcome := by
      change reply.outcome.map (fun _ => (ready.recorder client).plane.response rpc request) = _
      rw [plane]
      exact MemoryPlane.answer_map_response _ rpc request
    rw [fetch, if_pos ⟨rfl, Nat.le_of_eq (congrArg Instant.nanos due)⟩, answered] at fetched
    exact fetched

/-! ### The record -/

/-- What the bench shows of the steps that were taken on it. -/
structure Faithful (start : Instant) (steps : List Step) : Prop where
  /-- The record of a client is the calls made on it, in order. -/
  log : ∀ client, ((after start steps).recorder client).calls = steps.filterMap (·.callOn? client)
  /-- A call has an answer once it was looked for after the wait. How it ends was decided by the behavior
  that was last set for its procedure before the call. -/
  answers : ∀ before client call later, steps = before ++ .call client call :: later →
    ∃ reply due outcome,
      (after start steps).tickets[before.countP Step.isCall]? = some ⟨client, call, reply, due, outcome⟩ ∧
      ∀ result, outcome = some result ↔ ∃ middle,
        FetchedBehind before client call.rpc later middle ∧ result = told before client call middle
  /-- A listing of associations that succeeds has those that were last set when its answer was fetched. -/
  associations : ∀ before client request later reply due response,
    steps = before ++ .call client ⟨.listSas, request⟩ :: later →
    (after start steps).tickets[before.countP Step.isCall]? =
      some ⟨client, ⟨.listSas, request⟩, reply, due, some (.ok response)⟩ →
    ∃ middle, FetchedBehind before client .listSas later middle ∧
      response.ikesas = lastListed client (before ++ .call client ⟨.listSas, request⟩ :: middle)
  /-- A listing of connections that succeeds has the one that was asked for. -/
  connections : ∀ before client (request : ListConnsRequest) later reply due response,
    steps = before ++ .call client ⟨.listConns, request⟩ :: later →
    (after start steps).tickets[before.countP Step.isCall]? =
      some ⟨client, ⟨.listConns, request⟩, reply, due, some (.ok response)⟩ →
    response.connection.map (·.name) = [request.ike]

theorem Faithful.of_after (start : Instant) (steps : List Step) : Faithful start steps where
  log client := run_calls _ client steps
  answers _ client _ _ split := after_ticket start steps client split
  associations before client request later reply due response split held := by
    obtain ⟨middle, fetched, rfl⟩ := after_response start steps client split held
    exact ⟨middle, fetched, rfl⟩
  connections before client request later reply due response split held := by
    obtain ⟨middle, -, rfl⟩ := after_response start steps client split held
    rfl

/-- Whatever steps are taken, the bench is faithful to them. A behavior that is set besides changes nothing
about calls of other procedures or on clients of other recorders, and associations that are set besides
change nothing but their own listing. Each client shows what a session sees that makes a call on it. -/
theorem recording_faithful (start : Instant) :
    (∀ steps, Faithful start steps) ∧
    (∀ before client operation behavior later (k : Nat) (t : Ticket),
      (after start (before ++ later)).tickets[k]? = some t →
      ¬ (t.client = client ∧ t.call.rpc.name = operation) →
      (after start (before ++ .behave client operation behavior :: later)).tickets[k]? = some t) ∧
    (∀ before client ikeSas later (k : Nat) (t : Ticket),
      (after start (before ++ later)).tickets[k]? = some t →
      ¬ (t.client = client ∧ t.call.rpc = .listSas) →
      (after start (before ++ .list client ikeSas :: later)).tickets[k]? = some t) ∧
    ∀ steps client, (after start steps).Shows client := by
  refine ⟨Faithful.of_after start, ?_, ?_, fun steps client => shows_session _ client⟩
  · intro before client operation behavior later k t held spared
    rw [after_append] at held ⊢
    exact ((sparing_behave _ client operation behavior).run later).tickets k t held spared
  · intro before client ikeSas later k t held spared
    rw [after_append] at held ⊢
    exact ((sparing_list _ client ikeSas).run later).tickets k t held spared

/-- A listing that takes five seconds, and what is set on its client meanwhile. -/
def overtaken : List Step :=
  [.behave ⟨0⟩ "IPsecListSas" (.delay (.ofSeconds 5)), .call ⟨0⟩ ⟨.listSas, {}⟩,
    .behave ⟨0⟩ "IPsecListSas" (.unavailable "gone"),
    .list ⟨0⟩ [MemoryPlane.establishedIkeSa "opi-test" "opi-child"], .poll 0, .elapse (.ofSeconds 5),
    .poll 0, .list ⟨0⟩ []]

theorem recording_faithful_overtaken :
    ∃ reply due, (after ⟨0⟩ overtaken).tickets[0]? = some ⟨⟨0⟩, ⟨.listSas, {}⟩, reply, due,
        some (.ok { ikesas := [MemoryPlane.establishedIkeSa "opi-test" "opi-child"] })⟩ ∧
      (∀ set ∈ [Step.behave ⟨0⟩ "IPsecStats" (.unavailable "gone"), .list ⟨1⟩ []],
        (after ⟨0⟩ (overtaken.take 1 ++ set :: overtaken.drop 1)).tickets[0]? =
          (after ⟨0⟩ overtaken).tickets[0]?) ∧
      ∃ result t, (Run.send .stats {} >>= Run.await)
        { connector := ((after ⟨0⟩ overtaken).recorder ⟨0⟩).plane.connector, prober := Probe.canned 5 }
        { now := (after ⟨0⟩ overtaken).now, timeline := [(⟨0⟩, .called ⟨.listSas, {}⟩)] } =
          .ok (result, t) ∧ t.calls = [⟨.listSas, {}⟩, ⟨.stats, {}⟩] := by
  have faithful := recording_faithful ⟨0⟩
  obtain ⟨reply, due, outcome, held, answered⟩ :=
    (faithful.1 overtaken).answers (overtaken.take 1) ⟨0⟩ ⟨.listSas, {}⟩ (overtaken.drop 2) rfl
  have second : Fetches 0 5000000000 (overtaken.drop 4) ((overtaken.drop 4).take 2) := by
    refine fetches_cons.mpr ⟨rfl, fun _ => by decide, ?_⟩
    exact fetches_cons.mpr ⟨rfl, nofun, fetches_nil.mpr ⟨_, rfl, rfl⟩⟩
  have first : Fetches 0 5000000000 (overtaken.drop 2) ((overtaken.drop 2).take 4) :=
    fetches_cons.mpr ⟨rfl, nofun, fetches_cons.mpr ⟨rfl, nofun, second⟩⟩
  have fetched := (answered (.ok { ikesas := [MemoryPlane.establishedIkeSa "opi-test" "opi-child"] })).mpr
    ⟨_, first, rfl⟩
  rw [fetched] at held
  have otherRpc : ¬ ((⟨0⟩ : Client) = ⟨0⟩ ∧ Rpc.listSas.name = "IPsecStats") := by decide
  have otherClient : ¬ ((⟨0⟩ : Client) = ⟨1⟩ ∧ Rpc.listSas = .listSas) := by decide
  obtain ⟨result, t, -, -, ran, -, calls, -⟩ := faithful.2.2.2 overtaken ⟨0⟩
    { connector := ((after ⟨0⟩ overtaken).recorder ⟨0⟩).plane.connector, prober := Probe.canned 5 }
    { now := (after ⟨0⟩ overtaken).now, timeline := [(⟨0⟩, .called ⟨.listSas, {}⟩)] }
    .stats {} rfl rfl rfl rfl
  have split : (after ⟨0⟩ (overtaken.take 1 ++ overtaken.drop 1)).tickets[0]? = some _ := held
  refine ⟨reply, due, held, ?_, result, t, ran, calls.symm⟩
  simp only [List.forall_mem_cons, List.not_mem_nil, false_implies, implies_true, and_true]
  exact ⟨(faithful.2.1 _ ⟨0⟩ _ _ _ 0 _ split otherRpc).trans held.symm,
    (faithful.2.2.1 _ ⟨1⟩ _ _ 0 _ split otherClient).trans held.symm⟩

end Bench
end IPsecControl
