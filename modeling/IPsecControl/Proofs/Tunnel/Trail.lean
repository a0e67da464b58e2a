import IPsecControl.Proofs.Control.Clients
import IPsecControl.Proofs.Tunnel.Cleanup

/-! Trails. The attempts of a run follow one another through its session, and all that the run
does with the client it opened lies on their trail: each attempt begins where the one before it
ended, under the guard that its step has. -/
namespace IPsecControl.Tunnel
open Message

/-- The step that an event issues. -/
def issuedBy : Event → Option Step
  | .called call => (sharedSteps ++ cleanupSteps).find? (·.rpc? = some call.rpc)
  | .probed .. => some .probe
  | _ => none

/-- The steps that were issued in a session, in order. -/
def issuedIn (s : Session) : List Step := s.events.filterMap issuedBy

section
variable (config : Config) (load : LoadConnRequest) (env : Environment)

/-- The attempts lead from one session to another. Between them the run may look at its token. -/
inductive Trail : Session → List Attempt → Session → Prop where
  | refl (s : Session) : Trail s [] s
  | looked {s t : Session} {as : List Attempt} (later : Trail (s.looked env.cancellation) as t) :
      Trail s as t
  | made {s t u : Session} {a : Attempt} {as : List Attempt}
      (first : Made config load env s a t) (later : Trail t as u) : Trail s (a :: as) u

/-- The guard of an attempt in a run that began at the given instant. The shared steps have one
deadline; a cleanup step has its own, counted from its call. -/
def Config.guardOf (start : Instant) (a : Attempt) : Guard :=
  if a.step ∈ cleanupSteps then ⟨a.issued.after config.cleanupTimeout, config.cleanupTimeout⟩
  else ⟨start.after config.timeout, config.timeout⟩

/-- A run that began in one session opened a client, made these attempts with it, closed it, and
ended in another session. -/
structure Played (s : Session) (as : List Attempt) (t : Session) : Prop where
  issued : issuedIn t = issuedIn s ++ as.map (·.step)
  guarded : ∀ a ∈ as, a.guard = config.guardOf s.now a
  trail : ∃ u, Trail config load env ((s.looked env.cancellation).record .opened) as u ∧
    t = u.record .closed

end

def failureOf : Except Aborted Report → Option Failure
  | .ok _ => none
  | .error a => some a.failure

@[simp] theorem failureOf_conclude (r : Report) (f : Option Failure) : failureOf (conclude r f) = f := by
  cases f <;> rfl

section
variable {config : Config} {load : LoadConnRequest} {env : Environment} {guard : Guard}
variable {s t u : Session} {a : Attempt} {as bs cs : List Attempt} {r r' : Report}
variable {f : Option Failure}

namespace Trail

theorem single (made : Made config load env s a t) : Trail config load env s [a] t :=
  .made made (.refl t)

theorem append (first : Trail config load env s as t) (later : Trail config load env t bs u) :
    Trail config load env s (as ++ bs) u := by
  induction first with
  | refl => exact later
  | looked _ ih => exact .looked (ih later)
  | made first _ ih => exact .made first (ih later)

theorem made_of_mem (trail : Trail config load env s as t) (member : a ∈ as) :
    ∃ u v, Made config load env u a v := by
  induction trail with
  | refl => contradiction
  | looked _ ih => exact ih member
  | made first _ ih =>
    rcases List.mem_cons.mp member with rfl | later
    · exact ⟨_, _, first⟩
    · exact ih later

end Trail

/-- What an attempt adds to a session is timed by its call and by its end. -/
theorem Made.timeline (made : Made config load env s a t) :
    t.timeline = s.timeline ++ ((config.activity load a.step).map (s.now, ·) ++
      [(t.now, .ended a.step.name a.failure?)]) := by
  rw [made.now, made.after, Session.recordAll_eq]
  simp only [Guard.settled, Session.waited, Session.looked, Session.record, List.append_assoc]
  rfl

/-- A trail that starts by the instant of the cancellation keeps to it. -/
theorem Trail.by_cancellation (trail : Trail config load env s as t) {c : Instant}
    (during : env.cancellation = .during c) (early : s.now ≤ c) :
    t.now ≤ c ∧ ∃ added, t.timeline = s.timeline ++ added ∧ ∀ entry ∈ added, entry.1 ≤ c := by
  induction trail with
  | refl => exact ⟨early, [], (List.append_nil _).symm, by simp⟩
  | looked _ ih => exact ih early
  | @made s t u a as first _ ih =>
    have ends := first.ends
    rw [during] at ends
    -- A wait that begins by then ends by then, so the next attempt begins by then too.
    have ended : t.now ≤ c := first.now ▸ Run.wakeAt_by ends early
    obtain ⟨late, added, timeline, timed⟩ := ih ended
    refine ⟨late, _, by rw [timeline, first.timeline, List.append_assoc], ?_⟩
    intro entry member
    simp only [List.mem_append, List.mem_map, List.mem_singleton] at member
    rcases member with (⟨e, -, rfl⟩ | rfl) | later
    · exact early
    · exact ended
    · exact timed entry later

theorem Advances.trail {x y : Stage} (advances : Advances config load env guard x as y) :
    Trail config load env x.session as y.session := by
  induction advances with
  | refl => exact .refl _
  | next _ last ih => exact ih.append (.single last.made)

theorem Advances.guarded {x y : Stage} (advances : Advances config load env guard x as y) :
    ∀ a ∈ as, a.guard = guard := by
  induction advances with
  | refl => simp
  | next _ last ih =>
    intro a member
    rcases List.mem_append.mp member with earlier | latest
    · exact ih a earlier
    · cases List.mem_singleton.mp latest
      exact last.guarded

theorem Stops.trail {x : Stage} {last : Option Attempt}
    (stops : Stops config load env guard x last r f t) :
    Trail config load env x.session last.toList t := by
  cases stops with
  | finished | barred => exact .refl _
  | forgone => exact .looked (.refl _)
  | failed _ _ made => exact .single made

theorem Driven.trail (driven : Driven config load env s as r f t) : Trail config load env s as t := by
  obtain ⟨bs, last, x, rfl, advances, stops⟩ := driven
  have earlier : Trail config load env s bs x.session := advances.trail
  exact earlier.append stops.trail

theorem Driven.guarded (driven : Driven config load env s as r f t) :
    ∀ a ∈ as, a.guard = config.sharedGuard s := by
  obtain ⟨bs, last, x, rfl, advances, stops⟩ := driven
  intro a member
  rcases List.mem_append.mp member with earlier | latest
  · exact advances.guarded a earlier
  · cases stops with
    | finished | barred | forgone => contradiction
    | failed guarded =>
      cases List.mem_singleton.mp latest
      exact guarded

theorem TornDown.trail {steps : List Step} (torn : TornDown config load env steps r s cs r' f t) :
    Trail config load env s cs t := by
  induction torn with
  | finished => exact .refl _
  | forgone => exact .looked (.refl _)
  | succeeded _ made _ _ ih => exact .made made ih
  | failed _ made => exact .single made

theorem TornDown.guarded {steps : List Step} (torn : TornDown config load env steps r s cs r' f t) :
    ∀ a ∈ cs, a.guard = ⟨a.issued.after config.cleanupTimeout, config.cleanupTimeout⟩ := by
  induction torn with
  | finished | forgone => simp
  | succeeded guarded made _ _ ih =>
    intro a member
    rcases List.mem_cons.mp member with rfl | later
    · rw [made.issued]
      exact guarded
    · exact ih a later
  | failed guarded made =>
    intro a member
    cases List.mem_singleton.mp member
    rw [made.issued]
    exact guarded

theorem CleanedUp.trail (cleaned : CleanedUp config load env r s cs r' f t) :
    Trail config load env s cs t := by
  cases cleaned with
  | left => exact .looked (.refl _)
  | tornDown _ torn => exact .looked torn.trail

theorem CleanedUp.guarded (cleaned : CleanedUp config load env r s cs r' f t) :
    ∀ a ∈ cs, a.guard = ⟨a.issued.after config.cleanupTimeout, config.cleanupTimeout⟩ := by
  cases cleaned with
  | left => simp
  | tornDown _ torn => exact torn.guarded

theorem shared_not_cleanup {step : Step} (shared : step ∈ sharedSteps) : step ∉ cleanupSteps := by
  cases step <;> revert shared <;> decide

namespace Exercised

theorem trail (exercised : Exercised config load env s as cs r f t) :
    Trail config load env s (as ++ cs) t := by
  cases exercised with
  | abandoned driven =>
    rw [List.append_nil]
    exact driven.trail
  | cleanedUp driven _ cleaned => exact driven.trail.append cleaned.trail

theorem shared (exercised : Exercised config load env s as cs r f t) (member : a ∈ as) :
    a.step ∈ sharedSteps :=
  exercised.steps.1.subset (List.mem_map_of_mem member)

theorem cleans (exercised : Exercised config load env s as cs r f t) (member : a ∈ cs) :
    a.step ∈ cleanupSteps :=
  exercised.steps.2.subset (List.mem_map_of_mem member)

theorem guarded (exercised : Exercised config load env s as cs r f t) :
    ∀ a ∈ as ++ cs, a.guard = config.guardOf s.now a := by
  intro a member
  rcases List.mem_append.mp member with shared | cleans
  · have step := shared_not_cleanup (exercised.shared shared)
    rw [Config.guardOf, if_neg step]
    cases exercised with
    | abandoned driven | cleanedUp driven => exact driven.guarded a shared
  · rw [Config.guardOf, if_pos (exercised.cleans cleans)]
    cases exercised with
    | abandoned => contradiction
    | cleanedUp _ _ cleaned => exact cleaned.guarded a cleans

theorem distinct (exercised : Exercised config load env s as cs r f t) :
    ((as ++ cs).map (·.step)).Nodup := by
  have distinct : (sharedSteps ++ cleanupSteps).Nodup := by decide
  rw [List.map_append]
  exact distinct.sublist (exercised.steps.1.sublist.append exercised.steps.2.sublist)

end Exercised

theorem issuedBy_activity {step : Step} (issues : step ≠ .connect) :
    (config.activity load step).filterMap issuedBy = [step] := by
  cases step <;> first | rfl | contradiction

theorem issuedBy_attempts (issue : ∀ a ∈ as, a.step ≠ .connect) :
    (as.flatMap (·.events config load)).filterMap issuedBy = as.map (·.step) := by
  induction as with
  | nil => rfl
  | cons a rest ih =>
    rw [List.flatMap_cons, List.filterMap_append, ih fun b later => issue b (List.mem_cons_of_mem _ later),
      Attempt.events, List.filterMap_append, issuedBy_activity (issue a List.mem_cons_self)]
    rfl

theorem Exercised.issued (exercised : Exercised config load env s as cs r f t) :
    issuedIn t = issuedIn s ++ (as ++ cs).map (·.step) := by
  have issue : ∀ a ∈ as ++ cs, a.step ≠ .connect := by
    intro a member connects
    rcases List.mem_append.mp member with shared | cleans
    · exact absurd (connects ▸ exercised.shared shared) (by decide)
    · exact absurd (connects ▸ exercised.cleans cleans) (by decide)
  rw [issuedIn, exercised.events, List.filterMap_append, issuedBy_attempts issue]
  rfl

/-- A valid run that is not cancelled at its start and may open a client exercises it. -/
theorem Ran.opened {result : Except Aborted Report} (ran : Ran config env s as cs result t)
    (valid : config.loadRequest = .ok load) (quiet : s.fires env.cancellation = false)
    (opens : env.connector.opening = .ok ()) :
    ∃ r f u, result = conclude r f ∧ t = u.record .closed ∧
      Exercised config load env ((s.looked env.cancellation).record .opened) as cs r f u := by
  cases ran with
  | invalid invalid => simp [valid] at invalid
  | forgone _ fires => simp [quiet] at fires
  | refused _ _ refused => simp [opens] at refused
  | exercised valid' _ _ exercised =>
    rw [valid] at valid'
    cases valid'
    exact ⟨_, _, _, rfl, rfl, exercised⟩

theorem issuedIn_unlogged (s : Session) : issuedIn s.unlogged = issuedIn s :=
  s.filterMap_acts issuedBy fun _ => rfl

theorem issuedIn_record (s : Session) (e : Event) :
    issuedIn (s.record e) = issuedIn s ++ (issuedBy e).toList := by
  rw [issuedIn, Session.record_events, List.filterMap_append, ← issuedIn]
  cases issues : issuedBy e <;> simp [issues]

theorem Exercised.played
    (exercised : Exercised config load env ((s.looked env.cancellation).record .opened) as cs r f t) :
    Played config load env s (as ++ cs) (t.record .closed) := by
  refine ⟨?_, exercised.guarded, t, exercised.trail, rfl⟩
  rw [issuedIn_record, exercised.issued, issuedIn_record]
  simp [issuedBy, issuedIn]

theorem Attempt.work (a : Attempt) : ∀ e ∈ a.events config load, e.isWork = true := by
  intro e member
  rcases List.mem_append.mp member with activity | ended
  · cases step : a.step <;>
      simp only [step, Config.activity, Config.call?, Option.toList, List.map_cons, List.map_nil,
        List.mem_singleton, List.not_mem_nil] at activity <;>
      rw [activity] <;> rfl
  · rw [List.mem_singleton.mp ended]
    rfl

/-- A run opens a client once its connection is valid and unless it is cancelled by then. -/
theorem Ran.used {result : Except Aborted Report}
    (ran : Ran config env s as cs result t) :
    Used ((∃ load, config.loadRequest = .ok load) ∧ s.fires env.cancellation = false ∧
        env.connector.opening = .ok ())
      (config.timeout.nanos + 2 * config.cleanupTimeout.nanos) s t := by
  cases ran with
  | invalid invalid => exact .unused (by simp [invalid]) rfl rfl
  | forgone _ fires => exact .unused (by simp [fires]) rfl rfl
  | refused _ _ refused => exact .unused (by simp [refused]) rfl rfl
  | @exercised _ load _ _ _ _ valid quiet opens exercised =>
    refine .used ⟨⟨load, valid⟩, quiet, opens⟩ ((as ++ cs).flatMap (·.events config load)) ?_
      (by simp [exercised.events]) ?_
    · intro e member
      obtain ⟨a, -, happened⟩ := List.mem_flatMap.mp member
      exact a.work e happened
    · have time := exercised.time
      simp only [Session.record, Session.looked] at time ⊢
      omega

end
end IPsecControl.Tunnel
