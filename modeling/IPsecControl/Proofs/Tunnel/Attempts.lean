import IPsecControl.Proofs.Control.Guards
import IPsecControl.Tunnel.Lifecycle

/-! Attempts: the calls that a run made for its steps, each with the answer that was on its
way and the end of the wait for it. An attempt adds its call and its end to the session;
nothing else of what happened comes from a step. -/
namespace IPsecControl

/-- A verification succeeds with statistics that count a reply. -/
theorem Probe.verified_ok {target : String} {reply : Reply Statistics} {s : Statistics}
    (ok : (verified target reply).outcome = .ok s) : reply.outcome = .ok s ∧ 0 < s.received := by
  cases outcome : reply.outcome with
  | error e => simp [verified, outcome, Except.bind] at ok
  | ok counted =>
    simp only [verified, outcome, Except.bind, verdict] at ok
    split at ok
    next reachable =>
      cases ok
      exact ⟨rfl, by simpa [Statistics.reachable] using reachable⟩
    next => contradiction

namespace Tunnel
open Message

section
variable (config : Config) (load : LoadConnRequest)

/-- The request of a step that calls a procedure. -/
def Config.call? : Step → Option Call
  | .connect | .probe => none
  | .version => some ⟨.version, {}⟩
  | .stats => some ⟨.stats, {}⟩
  | .loadConn => some ⟨.loadConn, load⟩
  | .initiate => some ⟨.initiate, { child := config.child, ike := config.connection }⟩
  | .listSas => some ⟨.listSas, { ike := config.connection }⟩
  | .listConns => some ⟨.listConns, { ike := config.connection }⟩
  | .listCerts => some ⟨.listCerts, { type := config.certType }⟩
  | .rekey => some ⟨.rekey, { ike := config.connection }⟩
  | .terminate => some ⟨.terminate, { ike := config.connection }⟩
  | .unloadConn => some ⟨.unloadConn, { name := config.connection }⟩

/-- What happens when a step is begun: its call is made, or the probe is started. -/
def Config.activity : Step → List Event
  | .probe => [.probed config.probeTarget Probe.verificationCount]
  | step => (config.call? load step).toList.map .called

/-- The answer to a step after the calls made so far. -/
def Config.reply (env : Environment) (calls : List Call) :
    (step : Step) → Except Overflow (Reply step.Outcome)
  | .connect => .ok { outcome := .ok () }
  | .version => .ok (env.connector.answer calls .version {})
  | .stats => .ok (env.connector.answer calls .stats {})
  | .loadConn => .ok (env.connector.answer calls .loadConn load)
  | .initiate =>
    .ok (env.connector.answer calls .initiate { child := config.child, ike := config.connection })
  | .listSas => .ok (env.connector.answer calls .listSas { ike := config.connection })
  | .listConns => .ok (env.connector.answer calls .listConns { ike := config.connection })
  | .listCerts => .ok (env.connector.answer calls .listCerts { type := config.certType })
  | .probe =>
    (env.prober config.probeTarget Probe.verificationCount).map (Probe.verified config.probeTarget)
  | .rekey => .ok (env.connector.answer calls .rekey { ike := config.connection })
  | .terminate => .ok (env.connector.answer calls .terminate { ike := config.connection })
  | .unloadConn => .ok (env.connector.answer calls .unloadConn { name := config.connection })

/-- Every step is answered, as long as the prober's clock does not overflow. -/
theorem reply_exists {env : Environment} {reply : Reply Probe.Statistics}
    (probed : env.prober config.probeTarget Probe.verificationCount = .ok reply)
    (calls : List Call) (step : Step) : ∃ reply, config.reply load env calls step = .ok reply := by
  cases step
  case probe => exact ⟨_, by simp only [Config.reply, probed]; rfl⟩
  all_goals exact ⟨_, rfl⟩

/-- Only the prober can leave a step without an answer. -/
theorem reply_error {env : Environment} {calls : List Call} {step : Step} {cause : Overflow}
    (overflows : config.reply load env calls step = .error cause) :
    step = .probe ∧ env.prober config.probeTarget Probe.verificationCount = .error cause := by
  cases step
  case probe =>
    cases probed : env.prober config.probeTarget Probe.verificationCount with
    | error =>
      simp only [Config.reply, probed, Except.map, Except.error.injEq] at overflows
      exact ⟨rfl, overflows ▸ rfl⟩
    | ok => simp [Config.reply, probed, Except.map] at overflows
  all_goals contradiction

theorem call?_rpc (step : Step) : (config.call? load step).map (·.rpc) = step.rpc? := by
  cases step <;> rfl

variable {config load}

theorem name_of_call {step : Step} {call : Call} (called : config.call? load step = some call) :
    step.name = call.rpc.name := by
  cases step <;> cases called <;> rfl

theorem activity_of_call {step : Step} {call : Call} (called : config.call? load step = some call) :
    config.activity load step = [.called call] := by
  cases step <;> cases called <;> rfl

theorem callsIn_activity (step : Step) :
    callsIn (config.activity load step) = (config.call? load step).toList := by
  cases step <;> rfl

/-- The answer to a step that calls a procedure is the control plane's. -/
theorem reply_of_call {env : Environment} {calls : List Call} {step : Step}
    {reply : Reply step.Outcome} {call : Call} (called : config.call? load step = some call)
    (replied : config.reply load env calls step = .ok reply) :
    reply.delay = (env.connector.answer calls call.rpc call.request).delay ∧
      ((∃ outcome, reply.outcome = .ok outcome) ↔
        ∃ response, (env.connector.answer calls call.rpc call.request).outcome = .ok response) := by
  cases step <;> cases called <;> cases replied <;> exact ⟨rfl, Iff.rfl⟩

theorem issue_acts {env : Environment} {s : Session} {step : Step} {reply : Reply step.Outcome}
    (replied : config.reply load env s.calls step = .ok reply) :
    Run.Acts env (config.issue load step) s reply (s.recordAll (config.activity load step)) := by
  cases step
  case connect =>
    cases replied
    exact Run.Acts.pure _
  case probe =>
    cases probed : env.prober config.probeTarget Probe.verificationCount with
    | error cause => simp [Config.reply, probed, Except.map] at replied
    | ok answer =>
      simp only [Config.reply, probed, Except.map, Except.ok.injEq] at replied
      subst replied
      exact (Run.startProbe_acts probed).bind (Run.Acts.pure _)
  all_goals
    cases replied
    exact Run.send_acts _ _ _ _

end

/-- A call of a step that was made. -/
structure Attempt where
  step : Step
  guard : Guard
  issued : Instant
  reply : Reply step.Outcome
  wake : Run.Wake
  ended : Instant

namespace Attempt
variable (a : Attempt)

def result : Result a.step.Outcome := a.guard.outcome a.step.name a.reply a.wake

def failure? : Option Error := Guard.failure? a.result

/-- What an attempt adds to a session. -/
def events (config : Config) (load : LoadConnRequest) : List Event :=
  config.activity load a.step ++ [.ended a.step.name a.failure?]

theorem callsIn_events (config : Config) (load : LoadConnRequest) :
    callsIn (a.events config load) = (config.call? load a.step).toList := by
  rw [events, callsIn_append, callsIn_activity]
  exact List.append_nil _

variable {a}

theorem failure?_ok {outcome : a.step.Outcome} (ok : a.result = .ok outcome) : a.failure? = none := by
  simp only [failure?, ok, Guard.failure?]

theorem failure?_error {e : Error} (failed : a.result = .error e) : a.failure? = some e := by
  simp only [failure?, failed, Guard.failure?]

theorem failure?_eq_none : a.failure? = none ↔ ∃ outcome, a.result = .ok outcome := by
  cases result : a.result with
  | ok outcome => simp [failure?_ok result]
  | error e => simp [failure?_error result]

/-- Success is an answer that arrived and is one. -/
theorem result_ok_iff {outcome : a.step.Outcome} :
    a.result = .ok outcome ↔ a.wake = .answered ∧ a.reply.outcome = .ok outcome := by
  cases wake : a.wake <;> simp [result, Guard.outcome, wake]

end Attempt

section
variable (config : Config) (load : LoadConnRequest) (env : Environment)

/-- The attempt was made in the session `s`, which went on to `t`. -/
structure Made (s : Session) (a : Attempt) (t : Session) : Prop where
  quiet : s.fires env.cancellation = false
  issued : a.issued = s.now
  replied : config.reply load env s.calls a.step = .ok a.reply
  ends : Run.wakeAt env.cancellation s.now (s.now.afterWait a.reply.delay) a.guard.deadline =
    (a.wake, a.ended)
  after : t = a.guard.settled a.step.name a.reply a.wake a.ended
    ((s.looked env.cancellation).recordAll (config.activity load a.step))

variable {config load env}

/-- A guarded step of a run that is not cancelled is an attempt. -/
theorem run_made {s : Session} {g : Guard} {step : Step} {reply : Reply step.Outcome}
    (quiet : s.fires env.cancellation = false)
    (replied : config.reply load env s.calls step = .ok reply) :
    ∃ wake ended t, Made config load env s ⟨step, g, s.now, reply, wake, ended⟩ t ∧
      Run.Acts env (g.run step.name (config.issue load step)) s (g.outcome step.name reply wake) t := by
  cases ends : Run.wakeAt env.cancellation s.now (s.now.afterWait reply.delay) g.deadline with
  | mk wake ended =>
    refine ⟨wake, ended, _, ⟨quiet, rfl, replied, ends, rfl⟩, ?_⟩
    refine Guard.run_made quiet (issue_acts replied) ?_
    rw [Session.recordAll_eq]
    exact ends

/-- A guarded step of a run that is not cancelled is an attempt, unless it is a probe without an
answer. -/
theorem run_ends {s : Session} (g : Guard) (step : Step) (quiet : s.fires env.cancellation = false) :
    Run.Ends env (g.run step.name (config.issue load step)) s
      (fun result t => ∃ reply wake ended,
        Made config load env s ⟨step, g, s.now, reply, wake, ended⟩ t ∧
          result = g.outcome step.name reply wake)
      (∃ reply, env.prober config.probeTarget Probe.verificationCount = .ok reply) := by
  cases replied : config.reply load env s.calls step with
  | ok reply =>
    obtain ⟨wake, ended, t, made, acted⟩ := run_made (g := g) quiet replied
    exact .acts acted ⟨reply, wake, ended, made, rfl⟩
  | error cause =>
    obtain ⟨rfl, overflows⟩ := reply_error config load replied
    refine .inr ⟨by simp [overflows], Guard.run_halts quiet ?_⟩
    exact (Run.startProbe_halts overflows).bind _

namespace Made
variable {s t : Session} {a : Attempt}

theorem now (made : Made config load env s a t) : t.now = a.ended := by
  rw [made.after]
  rfl

theorem looks (made : Made config load env s a t) : t.looks = s.looks + 1 := by
  rw [made.after, Session.recordAll_eq]
  rfl

/-- A run is cancelled while it waits, or not yet. -/
theorem cancelled (made : Made config load env s a t) : t.cancelled = (a.wake = .cancelled : Bool) := by
  rw [made.after, Session.recordAll_eq]
  simp only [Guard.settled, Session.waited, Session.looked, Session.record, made.quiet, Bool.false_or]

theorem events (made : Made config load env s a t) : t.events = s.events ++ a.events config load := by
  rw [made.after, Session.recordAll_eq]
  simp [Guard.settled, Session.waited, Session.looked, Session.record, Session.events, Attempt.events,
    Attempt.failure?, Attempt.result, Function.comp_def]

theorem calls (made : Made config load env s a t) :
    t.calls = s.calls ++ (config.call? load a.step).toList := by
  rw [Session.calls_eq, made.events, callsIn_append, a.callsIn_events, ← Session.calls_eq]

/-- Attempts at one step of two runs have the same reply if the step is answered alike in both. -/
theorem reply_eq {config' : Config} {env' : Environment} {s' t' : Session} {a' : Attempt}
    (made : Made config load env s a t) (made' : Made config' load env' s' a' t')
    (step : a.step = a'.step)
    (alike : config.reply load env s.calls a.step = config'.reply load env' s'.calls a.step) :
    (⟨a.step, a.reply⟩ : (step : Step) × Reply step.Outcome) = ⟨a'.step, a'.reply⟩ := by
  have replied := made.replied
  have replied' := made'.replied
  obtain ⟨step, guard, issued, reply, wake, ended⟩ := a
  obtain ⟨step', guard', issued', reply', wake', ended'⟩ := a'
  dsimp only at step
  subst step
  dsimp only at alike replied replied'
  rw [alike, replied'] at replied
  cases replied
  rfl

end Made
end
end Tunnel
end IPsecControl
