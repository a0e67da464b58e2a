import IPsecControl.Proofs.Error.Classes
import IPsecControl.Proofs.Files.Path
import IPsecControl.Proofs.Operations
import IPsecControl.Proofs.Tunnel.Accounts

/-! Faults of operations. A configuration error comes before a client is opened, so an operation
that fails with one has opened none and sent nothing; and every operation that opens no client
fails, with an error that says why it did not. -/
namespace IPsecControl

/-- How an operation failed, and for a run of the lifecycle at which step. -/
structure Fault where
  step? : Option Tunnel.Step := none
  error : Error
  deriving DecidableEq

def Fault.ofResult {α : Type} (result : Result α) : Option Fault :=
  (Guard.failure? result).map fun error => { error }

def Fault.ofRun (result : Except Tunnel.Aborted Tunnel.Report) : Option Fault :=
  (Tunnel.failureOf result).map fun f => ⟨some f.step, f.error⟩

/-- How an operation failed, if it did. -/
def Outcome.fault? : Outcome → Option Fault
  | .added result => Fault.ofResult result
  | .deleted result => Fault.ofResult result
  | .queried result => Fault.ofResult result
  | .ran result => Fault.ofRun result

/-- Why no client was opened: the configuration is in error, the channel could not be opened, or
the run was cancelled by then. -/
inductive Unopened (connector : Connector) : Fault → Prop where
  | config {fault : Fault} (of : fault.error.OfConfig) : Unopened connector fault
  | transport {fault : Fault} (of : fault.error.OfTransport)
      (refused : connector.opening = .error fault.error) : Unopened connector fault
  | cancelled : Unopened connector ⟨some .connect, .cancelled Tunnel.Step.connect.name⟩

/-- An operation opened no client and failed for lack of one, or it opened one and did not fail
with a configuration error. -/
def Separated (connector : Connector) (s : Session) (fault? : Option Fault) (t : Session) : Prop :=
  (t.events = s.events ∧ ∃ fault, fault? = some fault ∧ Unopened connector fault) ∨
    ∃ es, t.events = s.events ++ .opened :: es ∧ ∀ fault, fault? = some fault → fault.error.Later

section
variable {env : Environment} {s t : Session} {α : Type} {fault? : Option Fault}

theorem Separated.ofResult_error {connector : Connector} {e : Error}
    (why : Unopened connector ⟨none, e⟩) :
    Separated connector s (Fault.ofResult (.error e : Result α)) s :=
  .inl ⟨rfl, _, rfl, why⟩

theorem Fault.ofResult_later {result : Result α} (fails : Fails Error.Later result) :
    ∀ fault, Fault.ofResult result = some fault → fault.error.Later := by
  intro fault failed
  cases result with
  | ok => contradiction
  | error e =>
    cases failed
    exact fails e rfl

/-- What is seen of a session without its log is seen of the session. -/
theorem Separated.counts {connector : Connector}
    (separated : Separated connector s.unlogged fault? t.unlogged) :
    (t.opens = s.opens ∧ t.calls = s.calls ∧ ∃ fault, fault? = some fault ∧ Unopened connector fault) ∨
      (s.opens < t.opens ∧ ∀ fault, fault? = some fault → fault.error.Later) := by
  rw [t.opens_eq_acts, s.opens_eq_acts, ← t.calls_unlogged, ← s.calls_unlogged, Session.calls_eq,
    Session.calls_eq, Session.acts, Session.acts]
  obtain ⟨events, failed⟩ | ⟨es, events, later⟩ := separated
  · exact .inl ⟨by rw [events], by rw [events], failed⟩
  · exact .inr ⟨by simp [events], later⟩

theorem Unopened.of_opening (provided : env.connector.Provided) {e : Error} {step? : Option Tunnel.Step}
    (refused : env.connector.opening = .error e) : Unopened env.connector ⟨step?, e⟩ := by
  obtain config | transport := provided.opening_fails e refused
  · exact .config config
  · exact .transport transport refused

/-- The session goes on, and the result is no configuration error. -/
def Proceeds (s : Session) (result : Result α) (t : Session) : Prop :=
  (∃ es, t.events = s.events ++ es) ∧ Fails Error.Later result

theorem Guard.settle_proceeds {g : Guard} {operation : String} {reply : Reply α} {fits : Prop}
    (fails : Fails Error.Later reply.outcome) :
    Run.Ends env (g.settle operation reply) s (Proceeds s) fits := by
  cases ends : Run.wakeAt env.cancellation s.now (s.now.afterWait reply.delay) g.deadline with
  | mk wake time =>
    exact .acts (settle_acts ends) ⟨⟨_, settled_events ..⟩, g.outcome_fails operation fails wake⟩

/-- A guarded call fails as its guard or its answer does. -/
theorem Guard.run_proceeds (provided : env.connector.Provided) {g : Guard} {operation : String}
    {rpc : Rpc} {request : rpc.Request} {fits : Prop} :
    Run.Ends env (g.run operation (Run.send rpc request)) s (Proceeds s) fits := by
  by_cases fires : s.fires env.cancellation = true
  · exact .acts (run_forgone fires) ⟨⟨[], by simp⟩, .error rfl⟩
  · have quiet := Bool.eq_false_iff.mpr fires
    refine .after (Run.Acts.log _) (.after Run.Acts.look ?_)
    simp only [quiet, Bool.false_eq_true, if_false]
    refine .after (Run.send_acts _ _ _ _) ?_
    refine (settle_proceeds (provided.answer_fails _ _ _)).mono ?_ id
    rintro result t ⟨⟨es, events⟩, fails⟩
    exact ⟨⟨.called ⟨rpc, request⟩ :: es, by simp [events]⟩, fails⟩

namespace Sa

/-- A call on a client of its own fails before the client is opened, or not with a configuration
error. -/
theorem callOnce_separated (provided : env.connector.Provided) (timeout : Duration) (id : Identifier)
    (rpc : Rpc) (request : rpc.Request) (success failure : String) {fits : Prop} :
    Run.Ends env (callOnce timeout id rpc request success failure) s
      (fun result t => Separated env.connector s (Fault.ofResult result) t) fits := by
  refine .uncancelled ?_
  cases opens : env.connector.opening with
  | error e =>
    refine .after (Run.openClient_refused opens) (.acts (Run.Acts.pure _) ?_)
    exact .ofResult_error (.of_opening provided opens)
  | ok _ =>
    refine .after (Run.openClient_acts opens) (.after (Run.Acts.log _) (.after guardFor_acts ?_))
    refine .after (Run.send_acts _ _ _ _) ?_
    refine (Guard.settle_proceeds (provided.answer_fails _ _ _)).bind ?_
    rintro result t ⟨⟨es, events⟩, fails⟩
    refine .after Run.closeClient_acts (.after (Run.Acts.log _) (.acts (Run.Acts.pure _) ?_))
    refine .inr ⟨.called ⟨rpc, request⟩ :: (es ++ [.closed]), ?_, Fault.ofResult_later fails⟩
    simp [events]

theorem add_separated (provided : env.connector.Provided) (timeout : Duration) (id : Identifier)
    (params : Params) {fits : Prop} :
    Run.Ends env (add timeout id params) s
      (fun result t => Separated env.connector s (Fault.ofResult result) t) fits := by
  unfold add
  cases valid : addRequest id params with
  | error e =>
    exact .acts (Run.Acts.pure _) (.ofResult_error (.config (addRequest_fails id params e valid)))
  | ok request => exact .after (Run.Acts.log _) (callOnce_separated provided ..)

theorem delete_separated (provided : env.connector.Provided) (timeout : Duration) (id : Identifier)
    {fits : Prop} :
    Run.Ends env (delete timeout id) s
      (fun result t => Separated env.connector s (Fault.ofResult result) t) fits := by
  unfold delete
  cases valid : deleteRequest id with
  | error e =>
    exact .acts (Run.Acts.pure _) (.ofResult_error (.config (deleteRequest_fails id e valid)))
  | ok request => exact .after (Run.Acts.log _) (callOnce_separated provided ..)

end Sa

namespace Tunnel
open Message

theorem ask_proceeds (provided : env.connector.Provided) {g : Guard} {fits : Prop} :
    Run.Ends env (ask g) s (Proceeds s) fits := by
  refine (Guard.run_proceeds provided).bind ?_
  rintro (e | version) t ⟨⟨es, events⟩, fails⟩
  · exact .acts (Run.Acts.pure _) ⟨⟨es, events⟩, .error (fails e rfl)⟩
  · refine (Guard.run_proceeds provided).bind ?_
    rintro (e | stats) u ⟨⟨es', events'⟩, fails'⟩
    · exact .acts (Run.Acts.pure _) ⟨⟨es ++ es', by simp [events', events]⟩, .error (fails' e rfl)⟩
    · exact .acts (Run.Acts.pure _) ⟨⟨es ++ es', by simp [events', events]⟩, .ok _⟩

theorem queryDaemon_separated (provided : env.connector.Provided) (timeout : Duration) :
    Run.Ends env (queryDaemon timeout) s
      (fun result t => Separated env.connector s (Fault.ofResult result) t) False := by
  refine .uncancelled ?_
  cases opens : env.connector.opening with
  | error e =>
    refine .after (Run.openClient_refused opens) (.acts (Run.Acts.pure _) ?_)
    exact .ofResult_error (.of_opening provided opens)
  | ok _ =>
    refine .after (Run.openClient_acts opens) ?_
    refine ((Guard.start_ends _ _ _).mono (fun _ _ => id) False.elim).bind ?_
    rintro _ _ ⟨-, rfl⟩
    refine .bind (ask_proceeds ?_) ?_
    · exact provided
    rintro result t ⟨⟨es, events⟩, fails⟩
    refine .after Run.closeClient_acts (.acts (Run.Acts.pure _) ?_)
    refine .inr ⟨es ++ [.closed], ?_, Fault.ofResult_later fails⟩
    simp [events]

section
variable {config : Config} {load : LoadConnRequest} {guard : Guard}
variable {a : Attempt} {as cs : List Attempt} {r r' : Report} {f : Option Failure}

/-- No step is answered with a configuration error. -/
theorem reply_fails (connector : env.connector.Provided) (prober : Probe.Provided env.prober)
    {calls : List Call} {step : Step} {reply : Reply step.Outcome}
    (replied : config.reply load env calls step = .ok reply) : Fails Error.Later reply.outcome := by
  cases step
  case connect =>
    cases replied
    exact .ok _
  case probe =>
    cases probed : env.prober config.probeTarget Probe.verificationCount with
    | error => simp [Config.reply, probed, Except.map] at replied
    | ok answer =>
      simp only [Config.reply, probed, Except.map, Except.ok.injEq] at replied
      subst replied
      exact Probe.verified_fails (prober.reply_fails probed)
  all_goals
    cases replied
    exact connector.answer_fails _ _ _

theorem Made.fails {s t : Session} (made : Made config load env s a t)
    (connector : env.connector.Provided) (prober : Probe.Provided env.prober) {e : Error}
    (failed : a.failure? = some e) : e.Later :=
  a.guard.outcome_fails a.step.name (reply_fails connector prober made.replied) a.wake e
    (Attempt.failure?_eq_some.mp failed)

/-- A failure of a run is that of one of its attempts, or the run was cancelled before a step. -/
def Failure.Arises (as : List Attempt) (f : Failure) : Prop :=
  f.error.isCancelled = true ∨ ∃ a ∈ as, a.failure? = some f.error

theorem Failure.Arises.mono {f : Failure} (arises : f.Arises as) {bs : List Attempt} (within : as ⊆ bs) :
    f.Arises bs := by
  obtain cancelled | ⟨a, member, failed⟩ := arises
  · exact .inl cancelled
  · exact .inr ⟨a, within member, failed⟩

theorem Driven.arises (driven : Driven config load env s as r f t) : ∀ g, f = some g → g.Arises as := by
  rintro g rfl
  obtain ⟨bs, last, x, rfl, advances, stops⟩ := driven
  cases stops with
  | barred bar =>
    obtain ⟨-, listing, -⟩ := Progress.begin?_error bar
    rw [advances.failedListing, Config.firstStage, Option.none_or] at listing
    obtain ⟨a, member, listing⟩ := List.exists_of_findSome?_eq_some listing
    exact .inr ⟨a, List.mem_append_left _ member, (Attempt.failedListing?_eq_some listing).2.2⟩
  | forgone => exact .inl rfl
  | @failed a _ _ _ _ _ _ _ _ _ failed =>
    exact .inr ⟨a, List.mem_append_right _ (List.mem_singleton_self a), Attempt.failure?_error failed⟩

theorem TornDown.arises {steps : List Step} (torn : TornDown config load env steps r s cs r' f t) :
    ∀ g, f = some g → g.Arises cs := by
  induction torn with
  | finished => intro _ none; contradiction
  | forgone => rintro _ ⟨⟩; exact .inl rfl
  | succeeded _ _ _ _ ih => exact fun g failed => (ih g failed).mono (List.subset_cons_self _ _)
  | @failed a _ _ _ _ _ _ _ failed =>
    rintro _ ⟨⟩
    exact .inr ⟨a, List.mem_singleton_self a, Attempt.failure?_error failed⟩

theorem Exercised.arises (exercised : Exercised config load env s as cs r f t) :
    ∀ g, f = some g → g.Arises (as ++ cs) := by
  intro g failed
  cases exercised with
  | abandoned driven => exact (driven.arises g failed).mono (List.subset_append_left _ _)
  | cleanedUp driven _ cleaned =>
    rcases Option.or_eq_some_iff.mp failed with shared | ⟨-, cleanup⟩
    · exact (driven.arises g shared).mono (List.subset_append_left _ _)
    · cases cleaned with
      | left => contradiction
      | tornDown _ torn => exact (torn.arises g cleanup).mono (List.subset_append_right _ _)

theorem Exercised.later (exercised : Exercised config load env s as cs r f t)
    (connector : env.connector.Provided) (prober : Probe.Provided env.prober) :
    ∀ g, f = some g → g.error.Later := by
  intro g failed
  obtain cancelled | ⟨a, member, failed⟩ := exercised.arises g failed
  · cases error : g.error <;> simp_all [Error.isCancelled, Error.Later, Error.isConfig]
  · obtain ⟨u, v, made⟩ := exercised.trail.made_of_mem member
    exact made.fails connector prober failed

theorem Ran.separated {result : Except Aborted Report} (ran : Ran config env s as cs result t)
    (connector : env.connector.Provided) (prober : Probe.Provided env.prober) :
    Separated env.connector s (Fault.ofRun result) t := by
  cases ran with
  | invalid invalid => exact .inl ⟨rfl, _, rfl, .config (config.loadRequest_fails _ invalid)⟩
  | forgone => exact .inl ⟨rfl, _, rfl, .cancelled⟩
  | refused _ _ refused => exact .inl ⟨rfl, _, rfl, .of_opening connector refused⟩
  | @exercised _ load as cs _ f _ _ _ exercised =>
    refine .inr ⟨(as ++ cs).flatMap (·.events config load) ++ [.closed], by simp [exercised.events], ?_⟩
    intro fault failed
    cases f with
    | none => contradiction
    | some g =>
      cases failed
      exact exercised.later connector prober g rfl

end
end Tunnel

theorem Operation.carryOut_separated (operation : Operation) (connector : env.connector.Provided)
    (prober : Probe.Provided env.prober) :
    Run.Ends env operation.carryOut s
      (fun outcome t => Separated env.connector s outcome.fault? t) False := by
  cases operation with
  | add timeout id params =>
    exact (Sa.add_separated connector timeout id params).bind fun _ _ separated =>
      .acts (Run.Acts.pure _) separated
  | delete timeout id =>
    exact (Sa.delete_separated connector timeout id).bind fun _ _ separated =>
      .acts (Run.Acts.pure _) separated
  | query timeout =>
    exact (Tunnel.queryDaemon_separated connector timeout).bind fun _ _ separated =>
      .acts (Run.Acts.pure _) separated
  | lifecycle config cancelled =>
    refine .after (Run.Acts.token cancelled 0) ?_
    refine ((Tunnel.run_ends_ran config env _).mono (fun _ _ => id) False.elim).bind ?_
    rintro result t ⟨as, cs, ran⟩
    exact .acts (Run.Acts.pure _) (ran.separated connector prober)

end

/-- Requests fail with configuration errors only. An operation that fails with a configuration
error has opened no client and called nothing; an operation that opened no client has failed with
such an error, for want of a channel, or cancelled at its start. -/
theorem config_errors_precede_clients (operation : Operation) (env : Environment) (s t : Session)
    (outcome : Outcome) (connector : env.connector.Provided) (prober : Probe.Provided env.prober)
    (ended : operation.carryOut env s = .ok (outcome, t)) :
    (∀ fault, outcome.fault? = some fault → fault.error.isConfig = true →
      t.opens = s.opens ∧ t.calls = s.calls) ∧
    (t.opens = s.opens → ∃ fault, outcome.fault? = some fault ∧ Unopened env.connector fault) ∧
    (∀ id params e, Sa.addRequest id params = .error e → e.isConfig = true) ∧
    (∀ id e, Sa.deleteRequest id = .error e → e.isConfig = true) ∧
    ∀ config : Tunnel.Config, ∀ e, config.loadRequest = .error e → e.isConfig = true := by
  have separated := (operation.carryOut_separated connector prober).way ended
  refine ⟨?_, ?_, Sa.addRequest_fails, Sa.deleteRequest_fails, Tunnel.Config.loadRequest_fails⟩
  · intro fault failed of
    obtain ⟨opens, calls, -⟩ | ⟨-, later⟩ := separated.counts
    · exact ⟨opens, calls⟩
    · have later : fault.error.isConfig = false := later fault failed
      rw [later] at of
      contradiction
  · intro unopened
    obtain ⟨-, -, failed⟩ | ⟨opened, -⟩ := separated.counts
    · exact failed
    · omega

/-- A channel whose certificate cannot be read. -/
def withoutCertificate : Connector :=
  RemotePlane.connector { network := fun _ => true } (fun _ => .error .notFound)
    { tls := some ⟨.ofText "client.crt", .ofText "client.key", .ofText "ca.crt"⟩ }

theorem config_errors_precede_clients_without_certificate :
    ∃ t, (Operation.query (.ofSeconds 1)).carryOut
        { Tunnel.inMemory {} 5 with connector := withoutCertificate } { now := ⟨0⟩ } =
          .ok (.queried (.error (.tlsFile "client.crt" .notFound)), t) ∧
      t.opens = 0 ∧ t.calls = [] := by
  have ended : ∃ t, (Operation.query (.ofSeconds 1)).carryOut
      { Tunnel.inMemory {} 5 with connector := withoutCertificate } { now := ⟨0⟩ } =
        .ok (.queried (.error (.tlsFile (Files.Path.ofText "client.crt").display .notFound)), t) := ⟨_, rfl⟩
  rw [Files.Path.display_ofText] at ended
  obtain ⟨t, ended⟩ := ended
  obtain ⟨unopened, -⟩ := config_errors_precede_clients _ _ _ t _
    (Connector.provided_remote ..) (.canned 5) ended
  obtain ⟨opens, calls⟩ := unopened _ rfl rfl
  exact ⟨t, ended, opens, calls⟩

end IPsecControl
