import IPsecControl.Control.MemoryPlane
import IPsecControl.Control.RemotePlane
import IPsecControl.Probe.Ping
import IPsecControl.Proofs.Control.Guards
import IPsecControl.Sa.Request
import IPsecControl.Tunnel.Config

/-! Where errors come from. Requests fail with configuration errors only, channels also with
transport errors, and neither an answer nor a probe fails with a configuration error. -/
namespace IPsecControl

/-- Every error of the result is of the kind. -/
def Fails {α : Type} (kind : Error → Prop) (result : Result α) : Prop :=
  ∀ e, result = .error e → kind e

namespace Fails
variable {α β : Type} {kind : Error → Prop} {x : Result α} {f : α → Result β} {e : Error}

theorem ok (a : α) : Fails kind (.ok a) := fun _ failed => by contradiction

theorem error (of : kind e) : Fails kind (.error e : Result α) := by
  rintro _ ⟨⟩
  exact of

theorem bind (first : Fails kind x) (next : ∀ a, Fails kind (f a)) : Fails kind (x.bind f) := by
  cases x with
  | error e => exact .error (first e rfl)
  | ok a => exact next a

theorem map (g : α → β) (fails : Fails kind x) : Fails kind (x.map g) := by
  cases x with
  | error e => exact .error (fails e rfl)
  | ok a => exact .ok _

theorem ite {p : Prop} [Decidable p] {y : Result α} (then_ : Fails kind x) (else_ : Fails kind y) :
    Fails kind (if p then x else y) := by
  split
  · exact then_
  · exact else_

theorem option_mapM (fails : ∀ a, Fails kind (f a)) (a? : Option α) : Fails kind (a?.mapM f) := by
  cases a? with
  | none => exact .ok _
  | some a => exact (fails a).map _

theorem list_mapM (fails : ∀ a, Fails kind (f a)) (as : List α) : Fails kind (as.mapM f) := by
  induction as with
  | nil => exact .ok _
  | cons a rest ih =>
    rw [List.mapM_cons]
    exact (fails a).bind fun b => ih.bind fun bs => .ok _

end Fails

/-- An error of the input or of the configuration. -/
def Error.OfConfig (e : Error) : Prop := e.isConfig = true

def Error.OfTransport (e : Error) : Prop := ∃ target text, e = .transport target text

/-- An error that neither input nor configuration can have. -/
def Error.Later (e : Error) : Prop := e.isConfig = false

theorem NameTable.lookup_fails {α : Type} (table : NameTable α) (name : String) :
    Fails Error.OfConfig (table.lookup name) := by
  unfold lookup
  split
  · exact .ok _
  · exact .error rfl

namespace Sa

theorem Identifier.validate_fails (id : Identifier) : Fails Error.OfConfig id.validate :=
  .ite (.error rfl) (.ite (.error rfl) (.ite (.error rfl) (.ok ())))

theorem Params.message_fails (p : Params) : Fails Error.OfConfig p.message := by
  refine (NameTable.lookup_fails _ _).bind fun mode => ?_
  refine (NameTable.lookup_fails _ _).bind fun cipher => ?_
  refine (NameTable.lookup_fails _ _).bind fun integrity => ?_
  exact .ite (.error rfl) (.ite (.error rfl) (.ok _))

theorem addRequest_fails (id : Identifier) (params : Params) :
    Fails Error.OfConfig (addRequest id params) :=
  id.validate_fails.bind fun _ => params.message_fails.bind fun _ => .ok _

theorem deleteRequest_fails (id : Identifier) : Fails Error.OfConfig (deleteRequest id) :=
  id.validate_fails.bind fun _ => .ok _

end Sa

namespace Tunnel
open Message

theorem codes_fails {α : Type} [Enumeration α] (table : NameTable α) (names : List String) :
    Fails Error.OfConfig (codes table names) :=
  (Fails.list_mapM table.lookup_fails names).map _

theorem Proposal.message_fails (p : Proposal) : Fails Error.OfConfig p.message :=
  (codes_fails _ _).bind fun _ => (codes_fails _ _).bind fun _ => (codes_fails _ _).bind fun _ => .ok _

theorem ChildDefinition.message_fails (c : ChildDefinition) : Fails Error.OfConfig c.message :=
  .ite (.error rfl) (c.proposal.message_fails.bind fun _ => .ok _)

theorem Definition.validate_fails (d : Definition) : Fails Error.OfConfig d.validate :=
  .ite (.error rfl) (.ite (.error rfl) (.ite (.error rfl) (.ok ())))

theorem Definition.message_fails (d : Definition) : Fails Error.OfConfig d.message := by
  refine d.validate_fails.bind fun _ => ?_
  refine (NameTable.lookup_fails _ _).bind fun _ => (NameTable.lookup_fails _ _).bind fun _ => ?_
  refine (Fails.list_mapM ChildDefinition.message_fails _).bind fun _ => ?_
  exact (Fails.option_mapM Proposal.message_fails _).bind fun _ => .ok _

theorem Config.loadRequest_fails (config : Config) : Fails Error.OfConfig config.loadRequest :=
  .ite (.error rfl) (config.definition.message_fails.bind fun _ => .ok _)

end Tunnel

namespace Transport

theorem readPart_fails (files : Files.Reader) (path : Files.Path) :
    Fails Error.OfConfig (readPart files path) := by
  unfold readPart
  split <;> first | exact .error rfl | exact .ok _

theorem TlsFiles.load_fails (files : Files.Reader) (t : TlsFiles) :
    Fails Error.OfConfig (t.load files) :=
  (readPart_fails _ _).bind fun _ => (readPart_fails _ _).bind fun _ =>
    (readPart_fails _ _).bind fun _ => .ok _

namespace Config
variable (c : Config) (files : Files.Reader)

/-- An endpoint is found to be bad before the channel is opened. -/
theorem resolve_fails : Fails Error.OfConfig (c.resolve files).result := by
  unfold resolve
  split
  · exact .error rfl
  · exact .ok _
  · split
    next failed => exact .error (TlsFiles.load_fails files _ _ failed)
    · exact .ite (.ok _) (.error rfl)

theorem connect_fails (network : Uri → Bool) :
    Fails (fun e => e.OfConfig ∨ e.OfTransport) (c.connect files network).result := by
  unfold connect
  simp only
  split
  next failed => exact .error (.inl (c.resolve_fails files _ failed))
  · split
    · exact .ok _
    · exact .error (.inr ⟨_, _, rfl⟩)

end Config
end Transport

theorem Error.ofStatus_later (operation : String) (status : Status) :
    (Error.ofStatus operation status).Later := by
  unfold ofStatus
  split <;> rfl

theorem ServerAnswer.outcome_fails (rpc : Rpc) (answer : ServerAnswer) :
    Fails Error.Later (answer.outcome rpc) := by
  cases answer with
  | response bytes =>
    simp only [outcome]
    split
    · exact .ok _
    · exact .error (Error.ofStatus_later _ _)
  | status s => exact .ite (.error (Error.ofStatus_later _ _)) (.error (Error.ofStatus_later _ _))

theorem MemoryPlane.answer_fails (plane : MemoryPlane) (rpc : Rpc) (request : rpc.Request) :
    Fails Error.Later (plane.answer rpc request).outcome := by
  unfold answer
  simp only
  split <;> first | exact .error rfl | exact .ok _

namespace Connector

/-- The connectors that there are: those of a plane in memory, and channels to a server, whatever
it answers and whenever. -/
inductive Provided : Connector → Prop where
  | memory (plane : MemoryPlane) : Provided plane.connector
  | refusing (plane : MemoryPlane) (message : String) : Provided (plane.refusing message)
  | channel {c : Connector} (config : Transport.Config) (files : Files.Reader)
      (network : Transport.Uri → Bool) (opening : c.opening = (config.connect files network).result)
      (answers : ∀ calls rpc request,
        ∃ answer : ServerAnswer, (c.answer calls rpc request).outcome = answer.outcome rpc) : Provided c

theorem provided_remote (plane : RemotePlane) (files : Files.Reader) (config : Transport.Config) :
    Provided (plane.connector files config) :=
  .channel config files plane.network rfl fun _ _ _ => ⟨_, rfl⟩

namespace Provided
variable {c : Connector}

theorem opening_fails (provided : c.Provided) :
    Fails (fun e => e.OfConfig ∨ e.OfTransport) c.opening := by
  cases provided with
  | memory => exact .ok _
  | refusing => exact .error (.inr ⟨_, _, rfl⟩)
  | channel config files network opening => exact opening ▸ config.connect_fails files network

theorem answer_fails (provided : c.Provided) (calls : List Call) (rpc : Rpc) (request : rpc.Request) :
    Fails Error.Later (c.answer calls rpc request).outcome := by
  cases provided with
  | memory plane | refusing plane => exact plane.answer_fails rpc request
  | channel _ _ _ _ answers =>
    obtain ⟨answer, outcome⟩ := answers calls rpc request
    exact outcome ▸ answer.outcome_fails rpc

end Provided
end Connector

namespace Probe

theorem count_fails (field : String) (value : List Char) : Fails Error.Later (count field value) := by
  unfold count
  cases Text.readBounded 10 (1 <<< 32 - 1) value with
  | error => exact .error rfl
  | ok n => exact .ok n

theorem fraction_fails (field : String) (value : List Char) :
    Fails Error.Later (fraction field value) := by
  unfold fraction
  split
  · exact .ok _
  · exact .error rfl

theorem RoundTripFields.read_fails (f : RoundTripFields) : Fails Error.Later f.read :=
  (fraction_fails _ _).bind fun _ => (fraction_fails _ _).bind fun _ =>
    (fraction_fails _ _).bind fun _ => (Fails.option_mapM (fraction_fails _) _).bind fun _ => .ok _

theorem Statistics.parse_fails (output : String) : Fails Error.Later (Statistics.parse output) := by
  unfold parse
  split
  · refine (count_fails _ _).bind fun _ => (count_fails _ _).bind fun _ => ?_
    refine (Fails.option_mapM (count_fails _) _).bind fun _ => (fraction_fails _ _).bind fun _ => ?_
    exact (Fails.option_mapM RoundTripFields.read_fails _).bind fun _ => .ok _
  · exact .error rfl

theorem pingOutcome_fails (command : String) (o : Shell.Output) :
    Fails Error.Later (pingOutcome command o) := by
  unfold pingOutcome
  split
  · exact .ok _
  next failed => exact .ite (.error (Statistics.parse_fails o.stdout _ failed)) (.error rfl)

theorem exec_fails (m : Shell.Machine) (command : String) : Fails Error.Later (m.exec command).outcome := by
  unfold Shell.Machine.exec
  simp only
  split
  · exact .error rfl
  · exact .ok _

theorem giveUp_fails (budget : Duration) (target : String) {reply : Reply Statistics}
    (fails : Fails Error.Later reply.outcome) :
    Fails Error.Later (giveUp budget target reply).outcome := by
  unfold giveUp
  split
  · exact fails
  · exact .error rfl

theorem verdict_fails (target : String) (s : Statistics) : Fails Error.Later (verdict target s) :=
  .ite (.ok s) (.error rfl)

/-- The probers that there are: the one whose statistics are fixed, and `ping` on a machine. -/
inductive Provided : Prober → Prop where
  | canned (most : Nat) : Provided (canned most)
  | ping (machine : Shell.Machine) (deadline : Duration) : Provided (ping machine deadline)

theorem Provided.reply_fails {prober : Prober} (provided : Provided prober) {target : String}
    {count : Nat} {reply : Reply Statistics} (replied : prober target count = .ok reply) :
    Fails Error.Later reply.outcome := by
  cases provided with
  | canned most =>
    cases replied
    exact .ok _
  | ping machine deadline =>
    -- The prober is opened as a function, so that no step decides whether the deadline overflows.
    generalize opened : Probe.ping machine deadline = prober at replied
    delta Probe.ping at opened
    subst opened
    generalize deadline.add? graceTime = budget? at replied
    cases budget? with
    | none => contradiction
    | some budget =>
      rw [← Except.ok.inj replied]
      exact giveUp_fails _ _ ((exec_fails machine _).bind (pingOutcome_fails _))

theorem verified_fails {target : String} {reply : Reply Statistics}
    (fails : Fails Error.Later reply.outcome) : Fails Error.Later (verified target reply).outcome :=
  fails.bind (verdict_fails target)

end Probe

/-- A call that is given up fails with an error of its guard. -/
theorem Guard.outcome_fails {α : Type} (g : Guard) (operation : String) {reply : Reply α}
    (fails : Fails Error.Later reply.outcome) (wake : Run.Wake) :
    Fails Error.Later (g.outcome operation reply wake) := by
  cases wake with
  | answered => exact fails
  | expired => exact .error rfl
  | cancelled => exact .error rfl

end IPsecControl
