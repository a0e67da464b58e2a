import IPsecControl.Control.MemoryPlane
import IPsecControl.Control.RemotePlane
import IPsecControl.Proofs.Control.Alike
import IPsecControl.Proofs.Operations
import IPsecControl.Proofs.Wire.RoundTrip

/-! Planes in memory and planes behind a channel are interchangeable. A server that answers as a plane
in memory does brings every operation to the same result, by the same calls; what makes the difference
between the two, the encoding of requests and answers, is undone by decoding them. -/
namespace IPsecControl
open Message

section
variable {within : Call → Prop} {env env' : Environment}

namespace Sa

theorem guardFor_alike (timeout : Duration) :
    Run.Alike within env env' Eq (guardFor timeout) (guardFor timeout) :=
  .of_acts_eq fun _ => ⟨_, _, guardFor_acts, guardFor_acts, List.Subset.refl _⟩

theorem callOnce_alike (alike : env.Alike within env') (timeout : Duration) (id : Identifier) (rpc : Rpc)
    (request : rpc.Request) (success failure : String) :
    Run.Alike within env env' Eq (callOnce timeout id rpc request success failure)
      (callOnce timeout id rpc request success failure) := by
  have quiet := alike.uncancelled
  refine Run.uncancelled_alike (.bind_eq (Run.openClient_alike quiet) fun opened => ?_)
  cases opened with
  | error e => exact .pure rfl
  | ok _ =>
    refine .bind_eq (.log _ _) fun _ => .bind_eq (guardFor_alike timeout) fun guard => ?_
    refine .bind (Run.send_alike quiet rpc request) (fun reply => ⟨reply, rfl, rfl⟩) fun _ _ same => ?_
    refine .bind_eq (guard.settle_alike quiet rpc.name same) fun result => ?_
    exact .bind_eq Run.closeClient_alike fun _ => .bind_eq (.log _ _) fun _ => .pure rfl

theorem add_alike (alike : env.Alike within env') (timeout : Duration) (id : Identifier) (params : Params) :
    Run.Alike within env env' Eq (add timeout id params) (add timeout id params) := by
  unfold add
  cases addRequest id params with
  | error e => exact .pure rfl
  | ok request => exact .bind_eq (.log _ _) fun _ => callOnce_alike alike timeout id .addSa request _ _

theorem delete_alike (alike : env.Alike within env') (timeout : Duration) (id : Identifier) :
    Run.Alike within env env' Eq (delete timeout id) (delete timeout id) := by
  unfold delete
  cases deleteRequest id with
  | error e => exact .pure rfl
  | ok request => exact .bind_eq (.log _ _) fun _ => callOnce_alike alike timeout id .deleteSa request _ _

end Sa

namespace Tunnel

theorem ask_alike (alike : env.Alike within env') (g : Guard) : Run.Alike within env env' Eq (ask g) (ask g) := by
  refine .bind_eq (g.run_alike alike _ (Run.send_alike alike .version {})) fun version => ?_
  cases version with
  | error e => exact .pure rfl
  | ok version =>
    refine .bind_eq (g.run_alike alike _ (Run.send_alike alike .stats {})) fun stats => ?_
    cases stats <;> exact .pure rfl

theorem queryDaemon_alike (alike : env.Alike within env') (timeout : Duration) :
    Run.Alike within env env' Eq (queryDaemon timeout) (queryDaemon timeout) := by
  have quiet := alike.uncancelled
  refine Run.uncancelled_alike (.bind_eq (Run.openClient_alike quiet) fun opened => ?_)
  cases opened with
  | error e => exact .pure rfl
  | ok _ =>
    refine .bind_eq (Guard.start_alike timeout) fun guard => ?_
    refine .bind_eq (ask_alike quiet guard) fun result => ?_
    exact .bind_eq Run.closeClient_alike fun _ => .pure rfl

section
variable (config : Config) (load : LoadConnRequest) (alike : env.Alike within env')
include alike

theorem issue_alike (step : Step) :
    Run.Alike within env env' Reply.Alike (config.issue load step) (config.issue load step) := by
  cases step with
  | connect => exact .pure ⟨rfl, rfl⟩
  | probe => exact .bind_eq (Run.startProbe_alike alike _ _) fun reply => .pure ⟨rfl, rfl⟩
  | version => exact Run.send_alike alike .version _
  | stats => exact Run.send_alike alike .stats _
  | loadConn => exact Run.send_alike alike .loadConn _
  | initiate => exact Run.send_alike alike .initiate _
  | listSas => exact Run.send_alike alike .listSas _
  | listConns => exact Run.send_alike alike .listConns _
  | listCerts => exact Run.send_alike alike .listCerts _
  | rekey => exact Run.send_alike alike .rekey _
  | terminate => exact Run.send_alike alike .terminate _
  | unloadConn => exact Run.send_alike alike .unloadConn _

theorem drive_alike (guard : Guard) (steps : List Step) (p : Progress) :
    Run.Alike within env env' Eq (drive config load guard steps p) (drive config load guard steps p) := by
  induction steps generalizing p with
  | nil => exact .pure rfl
  | cons step rest ih =>
    unfold drive
    cases p.begin? step with
    | error f => exact .pure rfl
    | ok p =>
      refine .bind_eq (.logAll _ _) fun _ => ?_
      refine .bind_eq (guard.run_alike alike _ (issue_alike config load alike step)) fun result => ?_
      cases result with
      | ok outcome => exact .bind_eq (.logAll _ _) fun _ => ih _
      | error e =>
        simp only
        split
        · exact .bind_eq (.log _ _) fun _ => ih _
        · exact .pure rfl

theorem tearDown_alike (steps : List Step) (r : Report) :
    Run.Alike within env env' Eq (tearDown config load steps r) (tearDown config load steps r) := by
  induction steps generalizing r with
  | nil => exact .pure rfl
  | cons step rest ih =>
    refine .bind_eq (Guard.start_alike _) fun guard => ?_
    refine .bind_eq (guard.run_alike alike _ (issue_alike config load alike step)) fun result => ?_
    cases result with
    | ok outcome => exact .bind_eq (.logAll _ _) fun _ => ih _
    | error e => exact .bind_eq (.log _ _) fun _ => .pure rfl

theorem cleanup_alike (r : Report) :
    Run.Alike within env env' Eq (cleanup config load r) (cleanup config load r) := by
  refine .bind_eq (Run.look_alike alike) fun fires => ?_
  cases fires with
  | true => exact .bind_eq (.log _ _) fun _ => .pure rfl
  | false => exact tearDown_alike config load alike cleanupSteps r

theorem exercise_alike :
    Run.Alike within env env' Eq (exercise config load) (exercise config load) := by
  refine .bind_eq (Guard.start_alike _) fun guard => ?_
  refine .bind_eq (drive_alike config load alike guard _ _) fun (r, f) => ?_
  simp only
  split
  · exact .pure rfl
  · exact .bind_eq (cleanup_alike config load alike r) fun _ => .pure rfl

end

theorem run_alike (config : Config) (alike : env.Alike within env') :
    Run.Alike within env env' Eq (run config) (run config) := by
  unfold run
  cases config.loadRequest with
  | error e => exact .pure rfl
  | ok load =>
    have connects : Run.Alike within env env' Eq connect connect := by
      refine .bind_eq (Run.look_alike alike) fun fires => ?_
      cases fires with
      | true => exact .pure rfl
      | false => exact Run.openClient_alike alike
    refine .bind_eq connects fun opened => ?_
    cases opened with
    | error e => exact .bind_eq (.log _ _) fun _ => .pure rfl
    | ok _ =>
      refine .bind_eq (.log _ _) fun _ => ?_
      refine .bind_eq (exercise_alike config load alike) fun (r, f) => ?_
      refine .bind_eq Run.closeClient_alike fun _ => ?_
      cases f <;> exact .bind_eq (.log _ _) fun _ => .pure rfl

end Tunnel
end

namespace Operation

theorem carryOut_lifecycle (config : Tunnel.Config) (cancelled : Bool) (env : Environment) (s : Session) :
    (lifecycle config cancelled).carryOut env s =
      (Tunnel.run config env { s with cancelled, looks := 0 }).bind fun (result, t) =>
        .ok (.ran result, t) := rfl

theorem carryOut_alike {within : Call → Prop} {env env' : Environment} (operation : Operation)
    (alike : env.Alike within env') :
    Run.Alike within env env' Eq operation.carryOut operation.carryOut := by
  cases operation with
  | add timeout id params =>
    exact .bind_eq (Sa.add_alike alike timeout id params) fun _ => .pure rfl
  | delete timeout id =>
    exact .bind_eq (Sa.delete_alike alike timeout id) fun _ => .pure rfl
  | query timeout =>
    exact .bind_eq (Tunnel.queryDaemon_alike alike timeout) fun _ => .pure rfl
  | lifecycle config cancelled =>
    refine .bind_eq (.token cancelled 0) fun _ => ?_
    exact .bind_eq (Tunnel.run_alike config alike) fun _ => .pure rfl

end Operation

/-- The behavior takes no time, and refuses with the code of a refusal. -/
def Behavior.Prompt : Behavior → Prop
  | .reject code _ => code ≠ .ok ∧ code ≠ .unavailable
  | .unavailable _ => True
  | .delay _ => False

/-- The longest message that a channel lets through. -/
def messageLimit : Nat := 4 * 1024 * 1024

/-- The procedure that is found at a path. -/
def Rpc.ofPath? (path : String) : Option Rpc := Rpc.all.find? (·.path == path)

namespace MemoryPlane
variable (plane : MemoryPlane)

/-- What a server answers in place of the plane: the bytes of its response, or a status. -/
def serverAnswer (rpc : Rpc) (request : rpc.Request) : ServerAnswer :=
  match plane.behavior rpc with
  | none | some (.delay _) => .response (encode (plane.response rpc request))
  | some (.reject code message) => .status ⟨code, message⟩
  | some (.unavailable message) => .status ⟨.unavailable, message⟩

/-- A server that answers as the plane does. All that it knows of a call is where it is for and the bytes
that come with it. -/
def mirror (network : Transport.Uri → Bool) : RemotePlane where
  network
  serve _ request :=
    match Rpc.ofPath? request.path with
    | none => .status ⟨.unimplemented, ""⟩
    | some rpc =>
      match (decode request.bytes : Except Wire.DecodeError rpc.Request) with
      | .error e => .status ⟨.internal, e.message⟩
      | .ok received => plane.serverAnswer rpc received

/-- The request and the response of a call are short enough for a channel. -/
def Within (call : Call) : Prop :=
  call.bytes.length ≤ messageLimit ∧
    (encode (plane.response call.rpc call.request)).length ≤ messageLimit

instance (call : Call) : Decidable (plane.Within call) := inferInstanceAs (Decidable (_ ∧ _))

end MemoryPlane

theorem Rpc.ofPath?_path (rpc : Rpc) : Rpc.ofPath? rpc.path = some rpc := by
  cases rpc <;> decide

/-- The messages of every procedure have schemas that a decoder can follow. -/
theorem Rpc.request_schema (rpc : Rpc) : (schema rpc.Request).wellFormed = true ∧
    (schema rpc.Request).depth ≤ Wire.depthLimit := by
  cases rpc <;> decide

theorem Rpc.response_schema (rpc : Rpc) : (schema rpc.Response).wellFormed = true ∧
    (schema rpc.Response).depth ≤ Wire.depthLimit := by
  cases rpc <;> decide

namespace MemoryPlane
variable {plane : MemoryPlane} {rpc : Rpc} {request : rpc.Request}

/-- The server reads the call that was made. -/
theorem mirror_serve (within : plane.Within ⟨rpc, request⟩) (network : Transport.Uri → Bool)
    (received : List ServerRequest) :
    (plane.mirror network).serve received (Call.wire ⟨rpc, request⟩) = plane.serverAnswer rpc request := by
  obtain ⟨well, shallow⟩ := rpc.request_schema
  have read := decode_encode well shallow request (Nat.lt_of_le_of_lt within.1 (by decide))
  simp only [mirror, Call.wire, Call.bytes, Rpc.ofPath?_path, read]

/-- A call makes of the answer of the server what the plane answers. -/
theorem serverAnswer_outcome (prompt : ∀ rpc b, plane.behavior rpc = some b → b.Prompt)
    (within : plane.Within ⟨rpc, request⟩) :
    (plane.serverAnswer rpc request).outcome rpc = (plane.answer rpc request).outcome := by
  cases behavior : plane.behavior rpc with
  | none =>
    obtain ⟨well, shallow⟩ := rpc.response_schema
    have read := decode_encode well shallow (plane.response rpc request)
      (Nat.lt_of_le_of_lt within.2 (by decide))
    simp only [serverAnswer, answer, behavior, ServerAnswer.outcome, read]
  | some b =>
    have prompt := prompt rpc b behavior
    cases b with
    | delay time => exact prompt.elim
    | reject code message =>
      obtain ⟨failed, available⟩ := prompt
      simp [serverAnswer, answer, behavior, ServerAnswer.outcome, failed, Error.ofStatus, available]
    | unavailable message =>
      simp [serverAnswer, answer, behavior, ServerAnswer.outcome, Error.ofStatus]

theorem answer_prompt (prompt : ∀ rpc b, plane.behavior rpc = some b → b.Prompt) (rpc : Rpc)
    (request : rpc.Request) : (plane.answer rpc request).delay = .zero := by
  cases behavior : plane.behavior rpc with
  | none => simp [answer, behavior]
  | some b =>
    have prompt := prompt rpc b behavior
    cases b with
    | delay time => exact prompt.elim
    | reject | unavailable => simp [answer, behavior]

end MemoryPlane

/-- What one session shows is what the other does, and the server has received what the plane has
recorded. -/
structure Mirrored (t t' : Session) : Prop where
  shown : t'.unlogged = t.unlogged
  received : t'.calls.map Call.wire =
    t.calls.map fun call => ⟨"/opi_api.security.v1.IPsec/" ++ call.rpc.name, encode call.request⟩
  empty : ∀ call ∈ t'.calls, call.rpc = .version ∨ call.rpc = .stats → call.wire.bytes = []

namespace MemoryPlane
variable (plane : MemoryPlane) (prober : Probe.Prober)

/-- Operations on the plane itself. -/
def here : Environment := { connector := plane.connector, prober }

/-- Operations over a channel to a server that answers as the plane does. -/
def there (network : Transport.Uri → Bool) (files : Files.Reader) (channel : Transport.Config) : Environment :=
  { connector := (plane.mirror network).connector files channel, prober }

end MemoryPlane

theorem Rpc.path_eq (rpc : Rpc) : rpc.path = "/opi_api.security.v1.IPsec/" ++ rpc.name := by
  have service : "/" ++ Rpc.service ++ "/" = "/opi_api.security.v1.IPsec/" := by decide
  rw [path, service]

theorem Call.bytes_empty {call : Call} (asks : call.rpc = .version ∨ call.rpc = .stats) :
    call.bytes = [] := by
  obtain ⟨rpc, request⟩ := call
  obtain rfl | rfl := asks <;> rfl

theorem Mirrored.of_shown {t t' : Session} (shown : t.unlogged = t'.unlogged) : Mirrored t t' where
  shown := shown.symm
  received := by
    rw [← t.calls_unlogged, shown, t'.calls_unlogged]
    exact List.map_congr_left fun call _ => by rw [Call.wire, call.rpc.path_eq]; rfl
  empty _ _ := Call.bytes_empty

section
variable {plane : MemoryPlane} {prober : Probe.Prober} {network : Transport.Uri → Bool}
variable {files : Files.Reader} {channel : Transport.Config}

/-- A channel makes no difference but the lines that it logs. -/
theorem MemoryPlane.there_alike (prompt : ∀ rpc b, plane.behavior rpc = some b → b.Prompt)
    (opens : (channel.connect files network).result = .ok ()) :
    (plane.here prober).Alike plane.Within (plane.there prober network files channel) where
  opening := opens.symm
  answers calls rpc request within := by
    refine ⟨plane.answer_prompt prompt rpc request, ?_⟩
    simp only [here, there, connector, RemotePlane.connector, mirror_serve within,
      serverAnswer_outcome prompt within]
  prober := rfl
  cancellation := rfl

end

/-- A plane in memory and a server that answers as it does bring every operation to the same result,
as long as the messages are short enough for the channel and no call takes time. -/
theorem planes_interchangeable (plane : MemoryPlane)
    (prompt : ∀ rpc b, plane.behavior rpc = some b → b.Prompt) (prober : Probe.Prober)
    (network : Transport.Uri → Bool) (files : Files.Reader) (channel : Transport.Config)
    (opens : (channel.connect files network).result = .ok ()) (operation : Operation) (s : Session) :
    (∀ outcome t, operation.carryOut (plane.here prober) s = .ok (outcome, t) →
      (∀ call ∈ t.calls, plane.Within call) →
        ∃ t', operation.carryOut (plane.there prober network files channel) s =
          .ok (outcome, t') ∧ Mirrored t t') ∧
    ∀ outcome t', operation.carryOut (plane.there prober network files channel) s =
        .ok (outcome, t') →
      (∀ call ∈ t'.calls, plane.Within call) →
        ∃ t, operation.carryOut (plane.here prober) s = .ok (outcome, t) ∧ Mirrored t t' := by
  have alike : (plane.here prober).Alike plane.Within
      (plane.there prober network files channel) :=
    MemoryPlane.there_alike prompt opens
  -- The environments are alike both ways, so the lemma about operations serves both directions.
  constructor
  · intro outcome t ended fits
    obtain ⟨_, t', ended', rfl, shown⟩ := (operation.carryOut_alike alike s s outcome t rfl ended).2 fits
    exact ⟨t', ended', .of_shown shown⟩
  · intro outcome t' ended fits
    obtain ⟨_, t, ended', rfl, shown⟩ :=
      (operation.carryOut_alike alike.symm s s outcome t' rfl ended).2 fits
    exact ⟨t, ended', .of_shown shown.symm⟩

/-- A plane that lists an association and refuses to rekey it. -/
def refusesRekeying : MemoryPlane :=
  (({} : MemoryPlane).listing [MemoryPlane.establishedIkeSa "opi-test" "opi-child"]).behave .rekey
    (.reject .notFound "no IKE SA")

theorem refusesRekeying_prompt :
    ∀ rpc b, refusesRekeying.behavior rpc = some b → b.Prompt := by
  intro rpc b behavior
  by_cases rekeys : rpc = .rekey
  · simp only [refusesRekeying, MemoryPlane.behave, rekeys, if_true, Option.some.injEq] at behavior
    subst behavior
    exact ⟨by decide, by decide⟩
  · simp [refusesRekeying, MemoryPlane.behave, MemoryPlane.listing, rekeys] at behavior

theorem planes_interchangeable_refused :
    ∃ t t' r, (Operation.lifecycle {} false).carryOut (refusesRekeying.here (Probe.canned 5)) { now := ⟨0⟩ } =
        .ok (.ran (.error ⟨⟨.rekey, .rejected "IPsecRekey" ⟨.notFound, "no IKE SA"⟩⟩, r⟩), t) ∧
      (Operation.lifecycle {} false).carryOut (refusesRekeying.there (Probe.canned 5) (fun _ => true)
          (fun _ => .error .notFound) {}) { now := ⟨0⟩ } =
        .ok (.ran (.error ⟨⟨.rekey, .rejected "IPsecRekey" ⟨.notFound, "no IKE SA"⟩⟩, r⟩), t') ∧
      Mirrored t t' ∧ t.calls.length = 10 := by
  have observed : Tunnel.shows {} (refusesRekeying.here (Probe.canned 5)) { now := ⟨0⟩ } (fun result t =>
      Tunnel.failureOf result = some ⟨.rekey, .rejected "IPsecRekey" ⟨.notFound, "no IKE SA"⟩⟩ &&
      (t.calls.length = 10 && t.calls.all (refusesRekeying.Within ·))) = true := by
    decide +kernel
  obtain ⟨result, t, ended, seen⟩ := Tunnel.run_of_shows observed
  simp only [Bool.and_eq_true, decide_eq_true_eq, List.all_eq_true] at seen
  obtain ⟨failed, ten, fits⟩ := seen
  cases result with
  | ok r => simp [Tunnel.failureOf] at failed
  | error a =>
    obtain ⟨f, r⟩ := a
    obtain rfl : f = _ := Option.some.inj failed
    have here : (Operation.lifecycle {} false).carryOut (refusesRekeying.here (Probe.canned 5))
        { now := ⟨0⟩ } =
          .ok (.ran (.error ⟨⟨.rekey, .rejected "IPsecRekey" ⟨.notFound, "no IKE SA"⟩⟩, r⟩), t) := by
      rw [Operation.carryOut_lifecycle, ended]
      rfl
    obtain ⟨t', there, mirrored⟩ := (planes_interchangeable refusesRekeying refusesRekeying_prompt
      (Probe.canned 5) (fun _ => true) (fun _ => .error .notFound) {} rfl (.lifecycle {} false)
      { now := ⟨0⟩ }).1 _ t here fits
    exact ⟨t, t', r, here, there, mirrored, ten⟩

end IPsecControl
