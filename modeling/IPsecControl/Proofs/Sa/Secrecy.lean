import IPsecControl.Control.RemotePlane
import IPsecControl.Proofs.Sa.Exchange

/-! Keys of static associations. They go into the request of an addition and nowhere else: two
additions whose keys differ end alike, and their sessions show the same but for the keys in the
requests that were sent. -/
namespace IPsecControl
open Message Wire

def Message.SaData.withoutKeys (data : SaData) : SaData := { data with encKey := [], intKey := [] }

def Message.AddSaRequest.withoutKeys (request : AddSaRequest) : AddSaRequest :=
  { request with saData := request.saData.map (·.withoutKeys) }

def Call.withoutKeys : Call → Call
  | ⟨.addSa, request⟩ => ⟨.addSa, request.withoutKeys⟩
  | call => call

def Event.withoutKeys : Event → Event
  | .called call => .called call.withoutKeys
  | event => event

def Session.withoutKeys (s : Session) : Session :=
  { s with timeline := s.timeline.map fun (time, event) => (time, event.withoutKeys) }

theorem Call.withoutKeys_rpc (call : Call) : call.withoutKeys.rpc = call.rpc := by
  obtain ⟨rpc, request⟩ := call
  cases rpc <;> rfl

theorem Event.withoutKeys_opened (e : Event) : e.withoutKeys = .opened ↔ e = .opened := by
  cases e <;> simp [withoutKeys]

theorem Event.withoutKeys_closed (e : Event) : e.withoutKeys = .closed ↔ e = .closed := by
  cases e <;> simp [withoutKeys]

namespace Session
variable (s : Session)

@[simp] theorem withoutKeys_events : s.withoutKeys.events = s.events.map Event.withoutKeys := by
  simp [withoutKeys, events, Function.comp_def]

theorem withoutKeys_record (e : Event) :
    (s.record e).withoutKeys = s.withoutKeys.record e.withoutKeys := by
  simp [withoutKeys, record]

@[simp] theorem withoutKeys_log : s.withoutKeys.log = s.log := by
  rw [log, log, withoutKeys_events, List.filterMap_map]
  congr 1
  funext e
  cases e <;> rfl

@[simp] theorem withoutKeys_opens : s.withoutKeys.opens = s.opens := by
  rw [opens, opens, withoutKeys_events, List.filter_map, List.length_map]
  congr 2
  funext e
  simp [Event.withoutKeys_opened]

@[simp] theorem withoutKeys_closes : s.withoutKeys.closes = s.closes := by
  rw [closes, closes, withoutKeys_events, List.filter_map, List.length_map]
  congr 2
  funext e
  simp [Event.withoutKeys_closed]

theorem withoutKeys_calls : s.withoutKeys.calls = s.calls.map Call.withoutKeys := by
  rw [calls_eq, calls_eq, withoutKeys_events, callsIn, callsIn, List.filterMap_map, List.map_filterMap]
  congr 1
  funext e
  cases e <;> rfl

end Session

/-- The answer to an addition does not depend on keys. -/
def Connector.KeyBlind (c : Connector) : Prop :=
  ∀ (earlier earlier' : List Call) (request request' : AddSaRequest),
    earlier.map Call.withoutKeys = earlier'.map Call.withoutKeys →
    request.withoutKeys = request'.withoutKeys →
    c.answer earlier .addSa request = c.answer earlier' .addSa request'

/-- A server with a script looks at nothing but the paths of what it receives. -/
theorem RemotePlane.scripted_serve {network : Transport.Uri → Bool} {script : String → List ServerAnswer}
    {received received' : List ServerRequest} {request request' : ServerRequest}
    (path : request.path = request'.path) (paths : received.map (·.path) = received'.map (·.path)) :
    (scripted network script).serve received request = (scripted network script).serve received' request' := by
  have counts := congrArg (List.countP (· = request'.path)) paths
  simp only [List.countP_map, Function.comp_def] at counts
  simp only [scripted, path, counts]

/-- A control plane: one in memory, which may refuse its clients, or one behind a channel. -/
inductive ControlPlane where
  | memory (plane : MemoryPlane) (refusal : Option String)
  | remote (network : Transport.Uri → Bool) (script : String → List ServerAnswer) (files : Files.Reader) (config : Transport.Config)

namespace ControlPlane

def connector : ControlPlane → Connector
  | memory plane refusal => plane.behind refusal
  | remote network script files config => (RemotePlane.scripted network script).connector files config

theorem keyBlind (c : ControlPlane) : c.connector.KeyBlind := by
  intro earlier earlier' request request' same _
  cases c with
  | memory plane refusal =>
    rw [connector, MemoryPlane.behind_answer, MemoryPlane.behind_answer]
    rfl
  | remote network script files config =>
    have paths := congrArg (List.map (·.rpc.path)) same
    simp only [List.map_map, Function.comp_def, Call.withoutKeys_rpc] at paths
    have served : (RemotePlane.scripted network script).serve (earlier.map Call.wire)
        (Call.wire ⟨.addSa, request⟩) = (RemotePlane.scripted network script).serve (earlier'.map Call.wire)
          (Call.wire ⟨.addSa, request'⟩) :=
      RemotePlane.scripted_serve rfl (by simpa [Call.wire, Function.comp_def] using paths)
    simp only [connector, RemotePlane.connector, served]

end ControlPlane

/-- Results that agree in a view of their values fail alike or both succeed. -/
theorem Result.of_map_eq {α β : Type} {view : α → β} {r r' : Result α}
    (same : r.map view = r'.map view) :
    (∃ e, r = .error e ∧ r' = .error e) ∨ ∃ a a', r = .ok a ∧ r' = .ok a' ∧ view a = view a' := by
  cases r with
  | error e =>
    cases r' with
    | error e' =>
      left
      cases same
      exact ⟨e, rfl, rfl⟩
    | ok a' => contradiction
  | ok a =>
    cases r' with
    | error e' => contradiction
    | ok a' =>
      right
      exact ⟨a, a', rfl, rfl, Except.ok.inj same⟩

namespace Run
variable {α β : Type} {env : Environment} {m m' : Run α} {f f' : α → Run β}

/-- From sessions that show the same without keys, the operations give the same value and go on to
such sessions again. -/
def Indistinct (env : Environment) (m m' : Run α) : Prop :=
  ∀ u u' : Session, u.withoutKeys = u'.withoutKeys →
    ∃ a t t', m env u = .ok (a, t) ∧ m' env u' = .ok (a, t') ∧ t.withoutKeys = t'.withoutKeys

namespace Indistinct

theorem pure (a : α) : Indistinct env (Pure.pure a) (Pure.pure a) := by
  intro u u' same
  exact ⟨a, u, u', rfl, rfl, same⟩

theorem bind (first : Indistinct env m m') (next : ∀ a, Indistinct env (f a) (f' a)) :
    Indistinct env (m >>= f) (m' >>= f') := by
  intro u u' same
  obtain ⟨a, v, v', ran, ran', same⟩ := first u u' same
  obtain ⟨b, t, t', ranOn, ranOn', same⟩ := next a v v' same
  refine ⟨b, t, t', ?_, ?_, same⟩
  · rw [bind_apply, ran]
    exact ranOn
  · rw [bind_apply, ran']
    exact ranOn'

theorem read {f f' : Environment → Run β} (next : Indistinct env (f env) (f' env)) :
    Indistinct env (ReaderT.read >>= f) (ReaderT.read >>= f') := by
  intro u u' same
  exact next u u' same

theorem record {e e' : Event} (events : e.withoutKeys = e'.withoutKeys) :
    Indistinct env (Run.record e) (Run.record e') := by
  intro u u' same
  refine ⟨(), u.record e, u'.record e', rfl, rfl, ?_⟩
  rw [Session.withoutKeys_record, Session.withoutKeys_record, same, events]

theorem logAll (lines : List Log.Line) : Indistinct env (Run.logAll lines) (Run.logAll lines) := by
  induction lines with
  | nil => exact pure ()
  | cons line rest ih => exact (record rfl).bind fun _ => ih

theorem wait (delay : Duration) (deadline : Instant) :
    Indistinct env (Run.wait delay deadline) (Run.wait delay deadline) := by
  intro u u' same
  have now : u.now = u'.now := congrArg (·.now) same
  let ends := wakeAt env.cancellation u.now (u.now.afterWait delay) deadline
  refine ⟨ends.1, u.waited ends.1 ends.2, u'.waited ends.1 ends.2, rfl, ?_, ?_⟩
  · simp only [ends, now]
    rfl
  · exact congrArg (Session.waited ends.1 ends.2) same

theorem openClient : Indistinct env Run.openClient Run.openClient := by
  apply read
  apply (logAll _).bind
  intro _
  cases env.connector.opening with
  | ok _ => exact (record rfl).bind fun _ => pure _
  | error e => exact pure _

theorem closeClient : Indistinct env Run.closeClient Run.closeClient := by
  apply (record rfl).bind
  intro _
  exact read (logAll _)

theorem send (blind : env.connector.KeyBlind) {request request' : AddSaRequest}
    (requests : request.withoutKeys = request'.withoutKeys) :
    Indistinct env (Run.send .addSa request) (Run.send .addSa request') := by
  intro u u' same
  have calls : u.calls.map Call.withoutKeys = u'.calls.map Call.withoutKeys := by
    rw [← Session.withoutKeys_calls, ← Session.withoutKeys_calls, same]
  have answers := blind u.calls u'.calls request request' calls requests
  have sent : Event.withoutKeys (.called ⟨.addSa, request⟩) =
      Event.withoutKeys (.called ⟨.addSa, request'⟩) :=
    congrArg (fun request => Event.called ⟨.addSa, request⟩) requests
  have noted : Indistinct env
      (do
        Run.record (.called ⟨.addSa, request⟩)
        let reply := (← ReaderT.read).connector.answer u.calls .addSa request
        Run.logAll reply.notes
        return reply)
      (do
        Run.record (.called ⟨.addSa, request'⟩)
        let reply := (← ReaderT.read).connector.answer u'.calls .addSa request'
        Run.logAll reply.notes
        return reply) := by
    apply (record sent).bind
    intro _
    apply read
    rw [answers]
    exact (logAll _).bind fun _ => pure _
  exact noted u u' same

theorem uncancelled
    (inner : Indistinct { env with cancellation := .never } m m') :
    Indistinct env (Run.uncancelled m) (Run.uncancelled m') := by
  intro u u' same
  have cancelled : u.cancelled = u'.cancelled := congrArg (·.cancelled) same
  have looks : u.looks = u'.looks := congrArg (·.looks) same
  have fresh := congrArg (fun s : Session => { s with cancelled := false, looks := 0 }) same
  obtain ⟨a, t, t', ran, ran', shown⟩ := inner { u with cancelled := false, looks := 0 }
    { u' with cancelled := false, looks := 0 } fresh
  refine ⟨a, { t with cancelled := u.cancelled, looks := u.looks },
    { t' with cancelled := u'.cancelled, looks := u'.looks }, ?_, ?_, ?_⟩
  · rw [uncancelled_apply, ran]
    rfl
  · rw [uncancelled_apply, ran']
    rfl
  · rw [cancelled, looks]
    exact congrArg
      (fun s : Session => { s with cancelled := u'.cancelled, looks := u'.looks }) shown

end Indistinct
end Run

theorem Guard.settle_indistinct {α : Type} {env : Environment} (g : Guard) (operation : String)
    (reply : Reply α) :
    Run.Indistinct env (g.settle operation reply) (g.settle operation reply) := by
  apply (Run.Indistinct.wait _ _).bind
  intro wake
  have ended : Run.Indistinct env
      (do
        Run.record (.ended operation (failure? (g.outcome operation reply wake)))
        return g.outcome operation reply wake) _ :=
    (Run.Indistinct.record rfl).bind fun _ => Run.Indistinct.pure _
  by_cases answered : wake = .answered
  · simp only [if_pos answered]
    exact (Run.Indistinct.logAll _).bind fun _ => ended
  · simp only [if_neg answered]
    exact ended

namespace Sa
variable {env : Environment}

theorem guardFor_indistinct (timeout : Duration) :
    Run.Indistinct env (guardFor timeout) (guardFor timeout) := by
  intro u u' same
  have now : u.now = u'.now := congrArg (·.now) same
  refine ⟨⟨(u.now.after? timeout).getD u.now.farFuture, timeout⟩, u, u', rfl, ?_, same⟩
  rw [now]
  rfl

section
variable (timeout : Duration) (id : Identifier) (blind : env.connector.KeyBlind)
include blind

theorem callOnce_indistinct {request request' : AddSaRequest}
    (requests : request.withoutKeys = request'.withoutKeys) (success failure : String) :
    Run.Indistinct env (callOnce timeout id .addSa request success failure)
      (callOnce timeout id .addSa request' success failure) := by
  have blind : { env with cancellation := .never }.connector.KeyBlind := blind
  apply Run.Indistinct.uncancelled
  apply Run.Indistinct.openClient.bind
  intro opened
  cases opened with
  | error e => exact Run.Indistinct.pure _
  | ok _ =>
    apply (Run.Indistinct.record rfl).bind
    intro _
    apply (guardFor_indistinct timeout).bind
    intro guard
    apply (Run.Indistinct.send blind requests).bind
    intro reply
    apply (guard.settle_indistinct _ reply).bind
    intro result
    apply Run.Indistinct.closeClient.bind
    intro _
    exact (Run.Indistinct.record rfl).bind fun _ => Run.Indistinct.pure result

end

def Params.withKeys (p : Params) (encKey intKey : Bytes) : Params := { p with encKey, intKey }

section
variable {p : Params} {encKey intKey : Bytes}
variable (enc : encKey.isEmpty = p.encKey.isEmpty) (int : intKey.isEmpty = p.intKey.isEmpty)
include enc int

theorem message_withoutKeys :
    (p.withKeys encKey intKey).message.map (·.withoutKeys) = p.message.map (·.withoutKeys) := by
  simp only [Params.message, Params.withKeys, enc, int, bind, Except.bind]
  cases Algorithm.modes.lookup p.mode with
  | error e => rfl
  | ok mode =>
    cases Algorithm.ciphers.lookup p.encAlg with
    | error e => rfl
    | ok cipher =>
      cases Algorithm.integrities.lookup p.intAlg with
      | error e => rfl
      | ok integrity =>
        dsimp only
        split
        · rfl
        · split <;> rfl

/-- Which request is built, or which error there is, does not depend on the bytes of keys. -/
theorem addRequest_withoutKeys (id : Identifier) :
    (addRequest id (p.withKeys encKey intKey)).map (·.withoutKeys) =
      (addRequest id p).map (·.withoutKeys) := by
  unfold addRequest
  obtain ⟨e, built', built⟩ | ⟨data', data, built', built, same⟩ :=
    Result.of_map_eq (message_withoutKeys enc int)
  · rw [built, built']
  · rw [built, built']
    cases id.validate with
    | error e => rfl
    | ok _ =>
      have stored : (some data').map SaData.withoutKeys = (some data).map SaData.withoutKeys :=
        congrArg some same
      exact congrArg (fun data => Except.ok (AddSaRequest.mk (some id.message) data)) stored

theorem add_indistinct (timeout : Duration) (id : Identifier) (blind : env.connector.KeyBlind) :
    Run.Indistinct env (add timeout id p) (add timeout id (p.withKeys encKey intKey)) := by
  unfold add
  obtain ⟨e, built', built⟩ | ⟨request', request, built', built, same⟩ :=
    Result.of_map_eq (addRequest_withoutKeys enc int id)
  · rw [built, built']
    exact Run.Indistinct.pure _
  · rw [built, built']
    apply (Run.Indistinct.record rfl).bind
    intro _
    exact callOnce_indistinct timeout id blind same.symm _ _

end

/-- What diagnostics show of parameters does not depend on the bytes of keys. -/
theorem description_withKeys {p : Params} {encKey intKey : Bytes}
    (enc : encKey.length = p.encKey.length) (int : intKey.length = p.intKey.length) :
    (p.withKeys encKey intKey).description = p.description := by
  have encShown : keyLength encKey = keyLength p.encKey := by
    rw [keyLength, keyLength, enc]
  have intShown : keyLength intKey = keyLength p.intKey := by
    rw [keyLength, keyLength, int]
  simp only [Params.description, Params.withKeys, encShown, intShown]

/-- Additions whose keys differ end alike at the same time, after the same events: the same lines,
the same openings and closings of clients, and the same calls but for the keys in them. Nor do the
parameters look different in diagnostics if the keys are of the same length. -/
theorem keys_never_observed (plane : ControlPlane) (prober : Probe.Prober)
    (cancellation : Cancellation) (s : Session) (timeout : Duration) (id : Identifier) (p : Params)
    (encKey intKey : Bytes) (enc : encKey.isEmpty = p.encKey.isEmpty)
    (int : intKey.isEmpty = p.intKey.isEmpty) :
    (∃ result t t',
      add timeout id p { connector := plane.connector, prober, cancellation } s = .ok (result, t) ∧
      add timeout id (p.withKeys encKey intKey)
        { connector := plane.connector, prober, cancellation } s = .ok (result, t') ∧
      t.withoutKeys = t'.withoutKeys ∧ t.log = t'.log ∧ t.opens = t'.opens ∧ t.closes = t'.closes ∧
      t.now = t'.now) ∧
    (encKey.length = p.encKey.length → intKey.length = p.intKey.length →
      (p.withKeys encKey intKey).description = p.description) := by
  constructor
  · have blind : ({ connector := plane.connector, prober, cancellation } : Environment).connector.KeyBlind :=
      plane.keyBlind
    obtain ⟨result, t, t', added, added', same⟩ := add_indistinct enc int timeout id blind s s rfl
    refine ⟨result, t, t', added, added', same, ?_, ?_, ?_, congrArg (·.now) same⟩
    · rw [← t.withoutKeys_log, same, t'.withoutKeys_log]
    · rw [← t.withoutKeys_opens, same, t'.withoutKeys_opens]
    · rw [← t.withoutKeys_closes, same, t'.withoutKeys_closes]
  · intro encLength intLength
    exact description_withKeys encLength intLength

/-- A control plane that refuses additions. -/
def refusing : Environment where
  connector := (ControlPlane.memory (MemoryPlane.behave {} .addSa (.reject .internal "no")) none).connector
  prober := Probe.canned 5

def keyed : Params := { encAlg := "aes_cbc", encKey := [1, 2] }

theorem keys_never_observed_refused :
    ∃ id result t t', add defaultTimeout id keyed refusing { now := ⟨0⟩ } = .ok (result, t) ∧
      add defaultTimeout id (keyed.withKeys [3, 4] []) refusing { now := ⟨0⟩ } = .ok (result, t') ∧
      t.log = t'.log ∧ t.calls ≠ t'.calls := by
  let id : Identifier := ⟨.v4 10 0 0 1, .v4 10 0 0 2, 256, .esp, 0⟩
  obtain ⟨⟨result, t, t', added, added', -, logs, -⟩, -⟩ :=
    keys_never_observed (.memory (MemoryPlane.behave {} .addSa (.reject .internal "no")) none)
      (Probe.canned 5) .never { now := ⟨0⟩ } defaultTimeout id keyed [3, 4] [] rfl rfl
  have differ : (add defaultTimeout id keyed refusing { now := ⟨0⟩ }).toOption.map (·.2.calls) ≠
      (add defaultTimeout id (keyed.withKeys [3, 4] []) refusing { now := ⟨0⟩ }).toOption.map
        (·.2.calls) := by
    decide +kernel
  refine ⟨id, result, t, t', added, added', logs, ?_⟩
  intro same
  apply differ
  have shown := congrArg (fun run => (Except.toOption run).map fun x => x.2.calls) added
  have shown' := congrArg (fun run => (Except.toOption run).map fun x => x.2.calls) added'
  exact shown.trans ((congrArg some same).trans shown'.symm)

end Sa
end IPsecControl
