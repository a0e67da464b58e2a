import IPsecControl.Proofs.Tunnel.History
import IPsecControl.Proofs.Tunnel.Totality

/-! The order of the calls of a run. A call is warranted by what happened before it in the
run: a negotiation by a connection that was loaded, a listing by a negotiation, rekeying by a
listing and a probe, and unloading by a termination. -/
namespace IPsecControl.Tunnel
open Message

section
variable (config : Config) (env : Environment) (calls : List Call)

/-- A call of the procedure is among the events, its answer was a success, and it arrived. The
calls made before the events are given. -/
def Answered (es : List Event) (rpc : Rpc) : Prop :=
  ∃ before request rest response,
    es = before ++ .called ⟨rpc, request⟩ :: .ended rpc.name none :: rest ∧
      (env.connector.answer (calls ++ callsIn before) rpc request).outcome = .ok response

/-- The probe is among the events, replies came back to it, and they did so in time. -/
def Replied (es : List Event) : Prop :=
  ∃ before rest reply statistics,
    es = before ++ .probed config.probeTarget Probe.verificationCount ::
      .ended Step.probe.name none :: rest ∧
      env.prober config.probeTarget Probe.verificationCount = .ok reply ∧
      reply.outcome = .ok statistics ∧ 0 < statistics.received

/-- What happened before a call of the procedure allows it. -/
def Warranted (before : List Event) : Rpc → Prop
  | .initiate => Answered env calls before .loadConn
  | .listSas | .listConns | .listCerts => Answered env calls before .initiate
  | .rekey => (∃ listing ∈ [Rpc.listSas, .listConns, .listCerts], Answered env calls before listing) ∧
      Replied config env before
  | .terminate => Rpc.initiate ∈ (callsIn before).map (·.rpc)
  | .unloadConn => Answered env calls before .terminate
  | _ => True

/-- Every call among the events is warranted by those before it. -/
def Orderly (es : List Event) : Prop :=
  ∀ before call after, es = before ++ .called call :: after →
    Warranted config env calls before call.rpc

end

section
variable {config : Config} {load : LoadConnRequest} {env : Environment} {guard : Guard}
variable {calls : List Call} {es : List Event}

theorem Answered.append {rpc : Rpc} (answered : Answered env calls es rpc) (fs : List Event) :
    Answered env calls (es ++ fs) rpc := by
  obtain ⟨before, request, rest, response, rfl, ok⟩ := answered
  exact ⟨before, request, rest ++ fs, response, by simp, ok⟩

theorem Replied.append (replied : Replied config env es) (fs : List Event) :
    Replied config env (es ++ fs) := by
  obtain ⟨before, rest, reply, statistics, rfl, replies⟩ := replied
  exact ⟨before, rest ++ fs, reply, statistics, by simp, replies⟩

theorem orderly_nil : Orderly config env calls [] := by
  intro before call after split
  simp at split

theorem Orderly.snoc (orderly : Orderly config env calls es) {e : Event}
    (warranted : ∀ call, e = .called call → Warranted config env calls es call.rpc) :
    Orderly config env calls (es ++ [e]) := by
  intro before call after split
  rcases List.eq_nil_or_concat after with rfl | ⟨earlier, last, rfl⟩
  · obtain ⟨rfl, same⟩ := List.append_inj' split rfl
    exact warranted call (List.singleton_inj.mp same)
  · rw [List.concat_eq_append, ← List.cons_append, ← List.append_assoc] at split
    obtain ⟨rfl, -⟩ := List.append_inj' split rfl
    exact orderly before call earlier rfl

/-- An attempt keeps the order when its own call is warranted. -/
theorem Orderly.attempt (orderly : Orderly config env calls es) {a : Attempt}
    (warranted : ∀ call, config.call? load a.step = some call →
      Warranted config env calls es call.rpc) :
    Orderly config env calls (es ++ a.events config load) := by
  have ends : ∀ {fs : List Event} (name : String), Orderly config env calls fs →
      Orderly config env calls (fs ++ [.ended name a.failure?]) :=
    fun _ ordered => ordered.snoc (by simp)
  rw [Attempt.events, ← List.append_assoc]
  cases called : config.call? load a.step with
  | some call =>
    rw [activity_of_call called]
    refine ends _ (orderly.snoc ?_)
    rintro _ ⟨⟩
    exact warranted call called
  | none =>
    cases step : a.step <;> simp only [step, Config.call?, reduceCtorEq] at called
    case connect => simpa [Config.activity, Config.call?] using ends _ orderly
    case probe =>
      refine ends _ (orderly.snoc ?_)
      simp

namespace Made
variable {s t : Session} {a : Attempt} {base : Session}

/-- An attempt that succeeded answers its call. -/
theorem answered (made : Made config load env s a t) (since : s.events = base.events ++ es)
    (succeeded : a.failure? = none) {call : Call} (called : config.call? load a.step = some call) :
    Answered env base.calls (es ++ a.events config load) call.rpc := by
  obtain ⟨outcome, ok⟩ := Attempt.failure?_eq_none.mp succeeded
  have arrived := (Attempt.result_ok_iff.mp ok).2
  obtain ⟨response, answer⟩ := (reply_of_call called made.replied).2.mp ⟨outcome, arrived⟩
  refine ⟨es, call.request, [], response, ?_, ?_⟩
  · rw [Attempt.events, activity_of_call called, succeeded, name_of_call called]
    rfl
  · rw [s.calls_eq, since, callsIn_append] at answer
    exact answer

theorem replied_of_probe (made : Made config load env s a t) (probe : a.step = .probe)
    (succeeded : a.failure? = none) : Replied config env (es ++ a.events config load) := by
  obtain ⟨step, guard, issued, reply, wake, ended⟩ := a
  dsimp only at probe
  subst probe
  obtain ⟨statistics, ok⟩ := Attempt.failure?_eq_none.mp succeeded
  have arrived := (Attempt.result_ok_iff.mp ok).2
  have answer := made.replied
  cases probed : env.prober config.probeTarget Probe.verificationCount with
  | error cause => simp [Config.reply, probed, Except.map] at answer
  | ok raw =>
    simp only [Config.reply, probed, Except.map, Except.ok.injEq] at answer
    subst answer
    obtain ⟨counted, positive⟩ := Probe.verified_ok arrived
    refine ⟨es, [], raw, statistics, ?_, probed, counted, positive⟩
    rw [Attempt.events, succeeded]
    rfl

end Made

variable (config env calls) in
/-- If the attempt succeeded, the events tell what it brought. -/
def Attempt.Told (es : List Event) (a : Attempt) : Prop :=
  a.failure? = none → (∀ rpc, a.step.rpc? = some rpc → Answered env calls es rpc) ∧
    (a.step = .probe → Replied config env es)

theorem Attempt.Told.append {a : Attempt} (told : a.Told config env calls es) (fs : List Event) :
    a.Told config env calls (es ++ fs) := by
  intro succeeded
  obtain ⟨answered, replied⟩ := told succeeded
  exact ⟨fun rpc calls => (answered rpc calls).append fs, fun probe => (replied probe).append fs⟩

theorem Made.told {s t base : Session} {a : Attempt} (made : Made config load env s a t)
    (since : s.events = base.events ++ es) :
    a.Told config env base.calls (es ++ a.events config load) := by
  intro succeeded
  refine ⟨fun rpc calls => ?_, fun probe => made.replied_of_probe probe succeeded⟩
  rw [← call?_rpc config load] at calls
  obtain ⟨call, called, rfl⟩ := Option.map_eq_some_iff.mp calls
  exact made.answered since succeeded called

theorem listing_rpc {step : Step} (lists : step.isListing = true) :
    ∃ rpc ∈ [Rpc.listSas, .listConns, .listCerts], step.rpc? = some rpc := by
  cases step <;> simp [Step.isListing, Step.rpc?] at lists ⊢

namespace Advances
variable {s base : Session} {x y : Stage} {as : List Attempt}

theorem told (advances : Advances config load env guard x as y)
    (since : x.session.events = base.events ++ es) :
    ∀ a ∈ as, a.Told config env base.calls (es ++ as.flatMap (·.events config load)) := by
  induction advances with
  | refl => simp
  | @next as a x y earlier last ih =>
    intro b member
    rw [List.flatMap_append, List.flatMap_singleton, ← List.append_assoc]
    rcases List.mem_append.mp member with before | latest
    · exact (ih b before).append _
    · cases List.mem_singleton.mp latest
      refine last.made.told ?_
      rw [earlier.events, since, List.append_assoc]

/-- A step that is neither advisory nor a listing succeeded if the run went on after it. -/
theorem succeeded (advances : Advances config load env guard x as y) {step : Step}
    (strict : step.isAdvisory = false) (acting : step.isListing = false)
    (member : step ∈ as.map (·.step)) : ∃ a ∈ as, a.step = step ∧ a.failure? = none := by
  obtain ⟨a, made, rfl⟩ := List.mem_map.mp member
  refine ⟨a, made, rfl, ?_⟩
  cases failed : a.failure? with
  | none => rfl
  | some e =>
    have tolerated := advances.kept a made e failed
    simp [Config.tolerates, strict, acting] at tolerated

/-- The call of the step that is next is warranted by what happened since the base. -/
theorem warranted (advances : Advances config load env guard (config.firstStage s) as x)
    (since : s.events = base.events ++ es) {step : Step} {rest : List Step}
    (next : x.rest = step :: rest) {call : Call} (called : config.call? load step = some call) :
    Warranted config env base.calls (es ++ as.flatMap (·.events config load)) call.rpc := by
  have told := advances.told since
  have split : as.map (·.step) ++ step :: rest = sharedSteps := next ▸ advances.steps
  have before := steps_before split
  have shared : step ∈ sharedSteps := by simp [← split]
  have answered : ∀ (earlier : Step) {rpc : Rpc}, earlier.isAdvisory = false →
      earlier.isListing = false → earlier ∈ sharedSteps.takeWhile (· ≠ step) →
      earlier.rpc? = some rpc →
      Answered env base.calls (es ++ as.flatMap (·.events config load)) rpc := by
    intro earlier rpc strict acting member calls
    obtain ⟨a, made, rfl, success⟩ := advances.succeeded strict acting (before ▸ member)
    exact (told a made success).1 rpc calls
  cases step <;> cases called
  case initiate => exact answered .loadConn rfl rfl (by decide) rfl
  case listSas | listConns | listCerts =>
    exact answered .initiate rfl rfl (by decide) rfl
  case rekey =>
    have probed : Step.probe ∈ as.map (·.step) := before ▸ (by decide)
    obtain ⟨listing, member, lists, success⟩ := advances.listed probed
    obtain ⟨probe, member', probes, success'⟩ := advances.succeeded rfl rfl probed
    obtain ⟨rpc, among, calls⟩ := listing_rpc lists
    exact ⟨⟨rpc, among, (told listing member success).1 rpc calls⟩,
      (told probe member' success').2 probes⟩
  case terminate | unloadConn => exact absurd shared (by decide)
  all_goals trivial

theorem orderly (advances : Advances config load env guard (config.firstStage s) as y)
    (since : s.events = base.events ++ es) (opening : Orderly config env base.calls es) :
    Orderly config env base.calls (es ++ as.flatMap (·.events config load)) := by
  induction advances with
  | refl => simpa using opening
  | next earlier last ih =>
    rw [List.flatMap_append, List.flatMap_singleton, ← List.append_assoc]
    exact ih.attempt fun call called => earlier.warranted since last.rest called

end Advances

theorem negotiates {step : Step} (late : step.precedesNegotiation = false) :
    .initiate ∈ sharedSteps.takeWhile (· ≠ step) ++ [step] := by
  cases step <;> revert late <;> decide

namespace Driven
variable {s t base : Session} {as : List Attempt} {r : Report} {f : Option Failure}

theorem orderly (driven : Driven config load env s as r f t) (since : s.events = base.events ++ es)
    (opening : Orderly config env base.calls es) :
    Orderly config env base.calls (es ++ as.flatMap (·.events config load)) := by
  obtain ⟨bs, last, x, rfl, advances, stops⟩ := driven
  have earlier := advances.orderly since opening
  rw [List.flatMap_append, ← List.append_assoc]
  cases stops with
  | finished | barred | forgone => simpa using earlier
  | failed =>
    simp only [Option.toList_some, List.flatMap_singleton]
    exact earlier.attempt fun call called => advances.warranted since rfl called

/-- A run that went on after its shared steps has negotiated, or it is cancelled. -/
theorem negotiated (driven : Driven config load env s as r f t)
    (late : f.any (·.step.precedesNegotiation) = false) :
    .initiate ∈ as.map (·.step) ∨ t.cancelled = true := by
  obtain ⟨bs, last, x, rfl, advances, stops⟩ := driven
  have steps : bs.map (·.step) ++ x.rest = sharedSteps := advances.steps
  rw [List.map_append]
  cases stops with
  | finished =>
    left
    rw [advances.whole rfl]
    decide
  | barred bar =>
    obtain ⟨rfl, -⟩ := Progress.begin?_error bar
    left
    rw [steps_before steps]
    decide
  | forgone _ fires => exact .inr fires
  | failed =>
    left
    rw [steps_before steps]
    exact negotiates late

end Driven

theorem TornDown.orderly {s t base : Session} {cs : List Attempt} {r r' : Report}
    {f : Option Failure} (torn : TornDown config load env cleanupSteps r s cs r' f t)
    (since : s.events = base.events ++ es) (earlier : Orderly config env base.calls es)
    (negotiated : .initiate ∈ (callsIn es).map (·.rpc)) :
    Orderly config env base.calls (es ++ cs.flatMap (·.events config load)) := by
  obtain ⟨-, rfl, -⟩ | ⟨a, u, terminates, -, made, ended⟩ := torn.first
  · simpa using earlier
  · have first : Orderly config env base.calls (es ++ a.events config load) := by
      refine earlier.attempt ?_
      rw [terminates]
      rintro _ ⟨⟩
      exact negotiated
    obtain ⟨outcome, bs, ok, rfl, later⟩ | ⟨e, -, rfl, -⟩ := ended
    · rw [List.flatMap_cons, ← List.append_assoc]
      have answered := (made.told since (Attempt.failure?_ok ok)).1 .terminate (by rw [terminates]; rfl)
      obtain ⟨-, rfl, -⟩ | ⟨b, v, unloads, -, -, ended⟩ := later.first
      · simpa using first
      · have second : Orderly config env base.calls
            (es ++ a.events config load ++ b.events config load) := by
          refine first.attempt ?_
          rw [unloads]
          rintro _ ⟨⟩
          exact answered
        obtain ⟨_, _, -, rfl, finished⟩ | ⟨_, -, rfl, -⟩ := ended
        · obtain ⟨rfl, -⟩ := finished.last
          simpa using second
        · simpa using second
    · simpa using first

/-- Everything that a run adds to a session keeps the order. -/
theorem Exercised.orderly {s t base : Session} {as cs : List Attempt} {r : Report}
    {f : Option Failure} (exercised : Exercised config load env s as cs r f t)
    (since : s.events = base.events ++ es) (opening : Orderly config env base.calls es) :
    Orderly config env base.calls (es ++ (as ++ cs).flatMap (·.events config load)) ∧
      (cs ≠ [] → .initiate ∈ as.map (·.step)) := by
  cases exercised with
  | abandoned driven =>
    rw [List.append_nil]
    exact ⟨driven.orderly since opening, fun cleans => absurd rfl cleans⟩
  | cleanedUp driven late cleaned =>
    have shared := driven.orderly since opening
    cases cleaned with
    | left =>
      rw [List.append_nil]
      exact ⟨shared, fun cleans => absurd rfl cleans⟩
    | tornDown quiet torn =>
      have initiated : .initiate ∈ as.map (·.step) := by
        rcases driven.negotiated late with initiated | cancelled
        · exact initiated
        · simp [Session.fires, cancelled] at quiet
      refine ⟨?_, fun _ => initiated⟩
      rw [List.flatMap_append, ← List.append_assoc]
      have negotiated :
          .initiate ∈ (callsIn (es ++ as.flatMap (·.events config load))).map (·.rpc) := by
        rw [callsIn_append, List.map_append, callsIn_attempts, rpcs_of_steps]
        exact List.mem_append_right _ (List.mem_filterMap.mpr ⟨_, initiated, rfl⟩)
      refine torn.orderly ?_ shared negotiated
      rw [← List.append_assoc, ← since]
      exact driven.events

/-- What a run adds to a session keeps the order, and its calls are those of its attempts. -/
theorem Ran.orderly {s t : Session} {as cs : List Attempt} {result : Except Aborted Report}
    (ran : Ran config env s as cs result t) :
    ∃ es, t.events = s.events ++ es ∧ Orderly config env s.calls es ∧
      (callsIn es).map (·.rpc) =
        (as.map (·.step)).filterMap (·.rpc?) ++ (cs.map (·.step)).filterMap (·.rpc?) ∧
      as.map (·.step) <+: sharedSteps ∧ cs.map (·.step) <+: cleanupSteps ∧
      (cs ≠ [] → .initiate ∈ as.map (·.step)) ∧
      (t.cancelled = false → (∃ report, result = .ok report) →
        as.map (·.step) = sharedSteps ∧ cs.map (·.step) = cleanupSteps) := by
  cases ran with
  | invalid | forgone | refused =>
    exact ⟨[], (List.append_nil _).symm, orderly_nil, rfl, List.nil_prefix, List.nil_prefix, by simp,
      by simp⟩
  | @exercised _ load _ _ _ f _ _ _ exercised =>
    have opening : Orderly config env s.calls [.opened] := orderly_nil.snoc (by simp)
    obtain ⟨orderly, negotiated⟩ := exercised.orderly (Session.record_events _ _) opening
    refine ⟨_, ?_, orderly.snoc (e := .closed) (by simp), ?_, exercised.steps.1,
      exercised.steps.2, negotiated, ?_⟩
    · simp [exercised.events]
    · have called := callsIn_attempts config load (as ++ cs)
      rw [List.map_append] at called
      rw [← List.filterMap_append, ← rpcs_of_steps config load, ← called, callsIn_append,
        callsIn_append]
      simp [callsIn]
    · rintro uncancelled ⟨report, succeeded⟩
      cases f with
      | none => exact exercised.whole rfl uncancelled
      | some f => simp [conclude] at succeeded

def sharedRpcs : List Rpc :=
  [.version, .stats, .loadConn, .initiate, .listSas, .listConns, .listCerts, .rekey]

/-- A cleanup calls nothing, terminates, or terminates and unloads. -/
theorem cleanup_calls {rpcs : List Rpc} (initial : rpcs <+: [.terminate, .unloadConn]) :
    rpcs ∈ [[], [.terminate], [.terminate, .unloadConn]] := by
  have short : rpcs.length ≤ 2 := initial.length_le
  rw [List.prefix_iff_eq_take.mp initial]
  obtain none | one | both : rpcs.length = 0 ∨ rpcs.length = 1 ∨ rpcs.length = 2 := by omega
  · simp [none]
  · simp [one]
  · simp [both]

/-- Every run calls its procedures in order: those of its shared steps, up to where it stopped,
and then, if it negotiated, those of the cleanup. Each call is warranted by what happened before
it in the run, and none is made twice. A run that succeeds and is not cancelled makes them all. -/
theorem calls_in_order (config : Config) (env : Environment) (s : Session)
    (fits : Fits config env s.now) :
    ∃ result t es progress cleanup, run config env s = .ok (result, t) ∧ t.acts = s.acts ++ es ∧
      t.calls = s.calls ++ callsIn es ∧ (callsIn es).map (·.rpc) = progress ++ cleanup ∧
      progress <+: sharedRpcs ∧ cleanup ∈ [[], [.terminate], [.terminate, .unloadConn]] ∧
      (cleanup ≠ [] → .initiate ∈ progress) ∧ Orderly config env s.calls es ∧
      (progress ++ cleanup).Nodup ∧ (t.cancelled = false → (∃ report, result = .ok report) →
        progress = sharedRpcs ∧ cleanup = [.terminate, .unloadConn]) := by
  obtain ⟨as, cs, result, t, ran, ended⟩ := run_of_fits fits
  obtain ⟨es, added, orderly, called, progress, cleanup, negotiated, whole⟩ := ran.orderly
  rw [Session.calls_unlogged] at orderly
  have shared : (as.map (·.step)).filterMap (·.rpc?) <+: sharedRpcs := progress.filterMap Step.rpc?
  have cleans : (cs.map (·.step)).filterMap (·.rpc?) <+: [.terminate, .unloadConn] :=
    cleanup.filterMap Step.rpc?
  refine ⟨result, t, es, _, _, ended, added, ?_, called, shared, ?_, ?_, orderly, ?_, ?_⟩
  · rw [← t.calls_unlogged, Session.calls_eq, added, callsIn_append]
    rw [← Session.calls_eq, s.calls_unlogged]
  · exact cleanup_calls cleans
  · intro some
    exact List.mem_filterMap.mpr ⟨.initiate, negotiated (by rintro rfl; exact some rfl), rfl⟩
  · have distinct : (sharedRpcs ++ [Rpc.terminate, .unloadConn]).Nodup := by decide
    exact distinct.sublist (shared.sublist.append cleans.sublist)
  · intro uncancelled succeeded
    obtain ⟨all, all'⟩ := whole uncancelled succeeded
    rw [all, all']
    exact ⟨rfl, rfl⟩

theorem calls_in_order_in_memory :
    Fits {} (inMemory {} 5) ⟨0⟩ ∧ ∃ result t,
      run {} (inMemory {} 5) { now := ⟨0⟩ } = .ok (result, t) ∧ (t.calls.map (·.rpc)).Nodup := by
  have fits : Fits {} (inMemory {} 5) ⟨0⟩ := inMemory_fits {} {} 5 (by decide)
  obtain ⟨result, t, es, progress, cleanup, ended, -, calls, called, -, -, -, -, distinct, -⟩ :=
    calls_in_order {} (inMemory {} 5) { now := ⟨0⟩ } fits
  refine ⟨fits, result, t, ended, ?_⟩
  rw [calls, Session.calls_eq, Session.events, List.map_nil]
  simpa [callsIn, ← called] using distinct

end
end IPsecControl.Tunnel
