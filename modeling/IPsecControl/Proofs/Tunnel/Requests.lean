import IPsecControl.Proofs.Control.Requests
import IPsecControl.Proofs.Error.Requirements
import IPsecControl.Proofs.Tunnel.Reports

/-! Requests of a run. Before anything else a run builds the connection that it is to load. Every
request that it makes after that is determined by its configuration and by that connection: neither an
answer nor the end of the run changes what is asked, only how much. -/
namespace IPsecControl
namespace Tunnel
open Message

theorem ChildDefinition.message_name {c : ChildDefinition} {child : Child}
    (built : c.message = .ok child) : child.name = c.name := by
  unfold ChildDefinition.message at built
  split at built
  · contradiction
  · obtain ⟨proposals, -, built⟩ := Result.ok_of_bind built
    cases built
    rfl

theorem children_names {cs : List ChildDefinition} {children : List Child}
    (built : cs.mapM ChildDefinition.message = .ok children) :
    children.map (·.name) = cs.map (·.name) := by
  induction cs generalizing children with
  | nil =>
    cases built
    rfl
  | cons c rest ih =>
    rw [List.mapM_cons] at built
    obtain ⟨child, first, built⟩ := Result.ok_of_bind built
    obtain ⟨others, later, built⟩ := Result.ok_of_bind built
    cases built
    rw [List.map_cons, List.map_cons, ih later, ChildDefinition.message_name first]

/-- A connection on the wire has the name of its definition, and its children have the names of the
definition's children. -/
theorem Definition.message_names {d : Definition} {connection : Connection}
    (built : d.message = .ok connection) :
    connection.name = d.name ∧ connection.children.map (·.name) = d.children.map (·.name) := by
  obtain ⟨-, -, built⟩ := Result.ok_of_bind built
  obtain ⟨localMethod, -, built⟩ := Result.ok_of_bind built
  obtain ⟨remoteMethod, -, built⟩ := Result.ok_of_bind built
  obtain ⟨children, named, built⟩ := Result.ok_of_bind built
  obtain ⟨proposals, -, built⟩ := Result.ok_of_bind built
  cases built
  exact ⟨rfl, children_names named⟩

/-- The connection of a valid configuration has the configured name and the configured child. -/
theorem Config.loadRequest_names {config : Config} {load : LoadConnRequest}
    (valid : config.loadRequest = .ok load) :
    ∃ connection, load = { connection := some connection } ∧
      config.definition.message = .ok connection ∧ connection.name = config.connection ∧
      config.child ∈ connection.children.map (·.name) := by
  unfold Config.loadRequest at valid
  split at valid
  · contradiction
  next present =>
    obtain ⟨connection, built, valid⟩ := Result.ok_of_bind valid
    cases valid
    obtain ⟨name, children⟩ := Definition.message_names built
    refine ⟨connection, rfl, built, name, ?_⟩
    rw [children]
    cases found : config.definition.child? config.child with
    | none => simp [found] at present
    | some c =>
      exact List.mem_map.mpr ⟨c, List.mem_of_find?_eq_some found, by simpa using List.find?_some found⟩

section
variable (config : Config) (connection : Connection)

/-- What a run asks with each procedure. Fields that are not given have their defaults. -/
def Config.request? : (rpc : Rpc) → Option rpc.Request
  | .addSa | .deleteSa => none
  | .version => some {}
  | .stats => some {}
  | .loadConn => some { connection := some connection }
  | .initiate => some { child := config.child, ike := connection.name }
  | .listSas => some { ike := connection.name }
  | .listConns => some { ike := connection.name }
  | .listCerts => some { type := config.certType }
  | .rekey => some { ike := connection.name }
  | .terminate => some { ike := connection.name }
  | .unloadConn => some { name := connection.name }

def loading : Event := .called ⟨.loadConn, { connection := some connection }⟩

/-- After the given requests a run may make the request, and only with this content. -/
def Config.Determines (made : List Event) : Event → Prop
  | .called call => config.request? connection call.rpc = some call.request ∧
      (call.rpc ∉ [.version, .stats, .loadConn] → loading connection ∈ made)
  | .probed target count => target = config.probeTarget ∧ count = 5
  | _ => False

/-- Each request is the one determined after those before it. -/
def Config.Asks (made : List Event) : Prop :=
  ∀ earlier e later, made = earlier ++ e :: later → config.Determines connection earlier e

end

section
variable {config : Config} {connection : Connection} {made : List Event} {step : Step}
variable {rest : List Step}

theorem Config.Asks.nil : config.Asks connection [] := by
  intro earlier e later split
  simp at split

theorem Config.Asks.snoc {e : Event} (asks : config.Asks connection made)
    (determined : config.Determines connection made e) : config.Asks connection (made ++ [e]) := by
  intro earlier e' later split
  rcases List.eq_nil_or_concat later with rfl | ⟨later, last, rfl⟩
  · obtain ⟨rfl, same⟩ := List.append_inj' split rfl
    cases same
    exact determined
  · rw [List.concat_eq_append, ← List.cons_append, ← List.append_assoc] at split
    obtain ⟨rfl, -⟩ := List.append_inj' split rfl
    exact asks earlier e' later rfl

/-- The request of a step is determined, once the connection is loaded or if the step comes before
that. -/
theorem Config.Asks.next (named : connection.name = config.connection)
    (asks : config.Asks connection made)
    (loaded : step.precedesNegotiation = false → loading connection ∈ made) :
    config.Asks connection (made ++ config.activity { connection := some connection } step) := by
  cases step
  case connect => simpa [Config.activity, Config.call?] using asks
  case probe => exact asks.snoc ⟨rfl, rfl⟩
  all_goals
    refine asks.snoc ⟨by simp [Config.request?, named], fun late => ?_⟩
    first | exact loaded rfl | simp at late

structure Config.Loaded (config : Config) (connection : Connection) (made : List Event) : Prop where
  asks : config.Asks connection made
  asked : loading connection ∈ made

/-- The requests made before the given steps: either the connection is loaded by then, or the steps
come to its loading and all before that precede a negotiation. -/
structure Config.Due (config : Config) (connection : Connection) (steps : List Step)
    (made : List Event) : Prop where
  asks : config.Asks connection made
  load : loading connection ∈ made ∨ ∃ early late, steps = early ++ .loadConn :: late ∧
    ∀ step ∈ early, step.precedesNegotiation = true

theorem Config.Loaded.next (loaded : config.Loaded connection made)
    (named : connection.name = config.connection) (step : Step) :
    config.Loaded connection
      (made ++ config.activity { connection := some connection } step) := by
  constructor
  · exact loaded.asks.next named fun _ => loaded.asked
  · exact List.mem_append_left _ loaded.asked

namespace Config.Due

/-- What may follow a negotiation finds the connection loaded. -/
theorem loaded (due : config.Due connection (step :: rest) made)
    (late : step.precedesNegotiation = false) : config.Loaded connection made := by
  refine ⟨due.asks, ?_⟩
  rcases due.load with asked | ⟨early, _, split, precede⟩
  · exact asked
  · cases early with
    | nil =>
      cases split
      contradiction
    | cons first early =>
      cases split
      rw [precede step List.mem_cons_self] at late
      contradiction

theorem done (due : config.Due connection [] made) : config.Loaded connection made := by
  refine ⟨due.asks, ?_⟩
  rcases due.load with asked | ⟨early, _, split, -⟩
  · exact asked
  · cases early <;> cases split

/-- Another step than the loading may be left out. -/
theorem skip (due : config.Due connection (step :: rest) made) (other : step ≠ .loadConn) :
    config.Due connection rest made := by
  refine ⟨due.asks, ?_⟩
  rcases due.load with asked | ⟨early, late, split, precede⟩
  · exact .inl asked
  · cases early with
    | nil =>
      cases split
      contradiction
    | cons first early =>
      cases split
      exact .inr ⟨early, late, rfl, fun step member => precede step (List.mem_cons_of_mem _ member)⟩

theorem next (due : config.Due connection (step :: rest) made)
    (named : connection.name = config.connection) :
    config.Due connection rest
      (made ++ config.activity { connection := some connection } step) := by
  have asks := due.asks.next named fun late => (due.loaded late).asked
  by_cases loads : step = .loadConn
  · subst loads
    exact ⟨asks, .inl (List.mem_append_right _ List.mem_cons_self)⟩
  · refine ⟨asks, (due.skip loads).load.imp_left ?_⟩
    exact List.mem_append_left _

end Config.Due
end

section
variable {env : Environment} {config : Config} {connection : Connection}

theorem issue_upholds {before after : List Event → Prop} (step : Step)
    (asks : ∀ made, before made →
      after (made ++ config.activity { connection := some connection } step))
    (holds : ∀ made, after made → config.Asks connection made) :
    Run.Upholds env (config.Asks connection) before
      (config.issue { connection := some connection } step) fun _ => after := by
  cases step
  case connect =>
    refine .pure fun made held => ?_
    simpa [Config.activity, Config.call?] using asks made held
  case probe =>
    exact (Run.Upholds.startProbe asks holds).bind fun reply => .pure fun _ => id
  all_goals exact .send asks

variable (named : connection.name = config.connection)
include named

/-- The connection is loaded by the end of the steps, unless they end before a negotiation. -/
theorem drive_upholds (guard : Guard) (steps : List Step) (p : Progress) :
    Run.Upholds env (config.Asks connection) (config.Due connection steps)
      (drive config { connection := some connection } guard steps p) fun (_, f) made =>
        config.Asks connection made ∧
          (f.any (·.step.precedesNegotiation) = false → config.Loaded connection made) := by
  induction steps generalizing p with
  | nil => exact .pure fun made due => ⟨due.asks, fun _ => due.done⟩
  | cons step rest ih =>
    unfold drive
    cases begun : p.begin? step with
    | error f =>
      obtain ⟨rfl, -⟩ := Progress.begin?_error begun
      exact .pure fun made due => ⟨due.asks, fun _ => due.loaded rfl⟩
    | ok p =>
      have issued : Run.Upholds env (config.Asks connection) (config.Due connection (step :: rest))
          (config.issue { connection := some connection } step) fun _ made =>
            config.Due connection rest made ∧
              (step.precedesNegotiation = false → config.Loaded connection made) := by
        apply issue_upholds step
        · intro made due
          exact ⟨due.next named, fun late => (due.loaded late).next named step⟩
        · intro made due
          exact due.1.asks
      refine (Run.Upholds.logAll _).bind fun _ => ?_
      refine (guard.run_upholds step.name issued).bind fun result => ?_
      cases result with
      | ok outcome =>
        refine (Run.Upholds.logAll _).bind fun _ => (ih _).mono ?_ fun _ _ => id
        rintro made (⟨due, -⟩ | ⟨-, e, failed⟩)
        · exact due
        · contradiction
      | error e =>
        simp only
        split
        next tolerated =>
          refine (Run.Upholds.log _).bind fun _ => (ih _).mono ?_ fun _ _ => id
          rintro made (⟨due, -⟩ | ⟨due, -⟩)
          · exact due
          · -- The run goes on without the call, which is never that of the loading.
            apply due.skip
            rintro rfl
            simp [Config.tolerates, Step.isAdvisory, Step.isListing] at tolerated
        · apply Run.Upholds.pure
          rintro made (⟨due, loaded⟩ | ⟨due, -⟩)
          · exact ⟨due.asks, fun late => loaded (by simpa using late)⟩
          · exact ⟨due.asks, fun late => due.loaded (by simpa using late)⟩

theorem tearDown_upholds (steps : List Step) (r : Report) :
    Run.Upholds env (config.Asks connection) (config.Loaded connection)
      (tearDown config { connection := some connection } steps r)
      fun _ => config.Asks connection := by
  induction steps generalizing r with
  | nil => exact .pure fun made loaded => loaded.asks
  | cons step rest ih =>
    have issued : Run.Upholds env (config.Asks connection) (config.Loaded connection)
        (config.issue { connection := some connection } step) fun _ => config.Loaded connection := by
      apply issue_upholds step
      · intro made loaded
        exact loaded.next named step
      · intro made loaded
        exact loaded.asks
    refine (Guard.start_upholds _ fun made loaded => loaded.asks).bind fun guard => ?_
    have ran := (guard.run_upholds step.name issued).mono (fun _ => id) fun result made held =>
      held.elim id And.left
    refine ran.bind fun result => ?_
    cases result with
    | ok outcome => exact (Run.Upholds.logAll _).bind fun _ => ih _
    | error e => exact (Run.Upholds.log _).bind fun _ => .pure fun made loaded => loaded.asks

theorem cleanup_upholds (r : Report) :
    Run.Upholds env (config.Asks connection) (config.Loaded connection)
      (cleanup config { connection := some connection } r) fun _ => config.Asks connection := by
  refine Run.Upholds.look.bind fun fires => ?_
  cases fires with
  | true => exact (Run.Upholds.log _).bind fun _ => .pure fun made loaded => loaded.asks
  | false => exact tearDown_upholds named cleanupSteps r

theorem exercise_upholds :
    Run.Upholds env (config.Asks connection) (fun made => made = [])
      (exercise config { connection := some connection }) fun _ => config.Asks connection := by
  have due : ∀ made, made = [] → config.Due connection sharedSteps made := by
    rintro made rfl
    exact ⟨.nil, .inr ⟨[.version, .stats], _, rfl, by decide⟩⟩
  refine (Guard.start_upholds _ fun made empty => (due made empty).asks).bind fun guard => ?_
  refine ((drive_upholds named guard _ _).mono due fun _ _ => id).bind fun (r, f) => ?_
  simp only
  split
  · exact .pure fun made held => held.1
  next late =>
    refine ((cleanup_upholds named r).mono ?_ fun _ _ => id).bind fun _ => .pure fun _ => id
    rintro made ⟨-, loaded⟩
    exact loaded (by simpa using late)

theorem run_upholds (valid : config.loadRequest = .ok { connection := some connection }) :
    Run.Upholds env (config.Asks connection) (fun made => made = []) (run config)
      fun _ => config.Asks connection := by
  have none : ∀ made, made = [] → config.Asks connection made := by
    rintro made rfl
    exact .nil
  have connects : Run.Upholds env (config.Asks connection) (fun made => made = []) connect
      fun _ made => made = [] := by
    refine Run.Upholds.look.bind fun fires => ?_
    cases fires with
    | true => exact .pure fun _ => id
    | false => exact .openClient
  unfold run
  simp only [valid]
  refine connects.bind fun opened => ?_
  cases opened with
  | error e => exact (Run.Upholds.log _).bind fun _ => .pure none
  | ok _ =>
    refine (Run.Upholds.log _).bind fun _ => ?_
    refine (exercise_upholds named).bind fun (r, f) => ?_
    refine Run.Upholds.closeClient.bind fun _ => ?_
    cases f <;> exact (Run.Upholds.log _).bind fun _ => .pure fun _ => id

end

/-- A run makes no request unless its configuration is valid. Then it has built a connection with the
configured name and child, and each request is the one that the configuration and this connection
determine: a call about the connection comes after the call that loads it. -/
theorem requests_determined (config : Config) (env : Environment) (s : Session) :
    ∃ made, ((run config).last env s).requests = s.requests ++ made ∧
      ((∃ e, config.loadRequest = .error e) ∧ made = [] ∨
        ∃ connection, config.definition.message = .ok connection ∧
          connection.name = config.connection ∧ config.child ∈ connection.children.map (·.name) ∧
          config.Asks connection made) := by
  cases valid : config.loadRequest with
  | error e =>
    refine ⟨[], ?_, .inl ⟨⟨e, rfl⟩, rfl⟩⟩
    rw [run, valid, List.append_nil]
    rfl
  | ok load =>
    obtain ⟨connection, rfl, built, named, child⟩ := Config.loadRequest_names valid
    obtain ⟨made, shown, asks⟩ := (run_upholds named valid).last s rfl fun _ _ => id
    exact ⟨made, shown, .inr ⟨connection, built, named, child, asks⟩⟩

end Tunnel
end IPsecControl
