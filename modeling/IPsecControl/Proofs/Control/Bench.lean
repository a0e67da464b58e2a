import IPsecControl.Control.Recorder
import IPsecControl.Proofs.Sa.Exchange

/-! Benches, step by step. One lemma for each view of a bench says what a step does to it, and what a run
does follows by induction: the calls are those of the steps, a behavior is the last one set, and a ticket
is answered by the first look after its wait. -/
namespace IPsecControl
open Message

theorem Rpc.ofName?_eq_some_iff {operation : String} {rpc : Rpc} :
    Rpc.ofName? operation = some rpc ↔ operation = rpc.name := by
  constructor
  · intro found
    rw [Rpc.ofName?] at found
    have same := List.find?_some found
    exact (beq_iff_eq.mp same).symm
  · rintro rfl
    cases rpc <;> decide

theorem Rpc.eq_of_name {rpc rpc' : Rpc} (same : rpc.name = rpc'.name) : rpc = rpc' := by
  have named := Rpc.ofName?_eq_some_iff.mpr same
  rw [Rpc.ofName?_eq_some_iff.mpr rfl] at named
  exact Option.some.inj named

/-- How a call with a behavior ends, but for the response. -/
def Behavior.ending (rpc : Rpc) : Option Behavior → Result Unit
  | none | some (.delay _) => .ok ()
  | some (.reject code message) => .error (.rejected rpc.name ⟨code, message⟩)
  | some (.unavailable message) => .error (.transport rpc.name message)

namespace MemoryPlane
variable {plane plane' : MemoryPlane} {rpc : Rpc}

theorem answer_outcome (plane : MemoryPlane) (rpc : Rpc) (request : rpc.Request) :
    (plane.answer rpc request).outcome =
      (Behavior.ending rpc (plane.behavior rpc)).map fun _ => plane.response rpc request := by
  rw [answer]
  cases plane.behavior rpc with
  | none => rfl
  | some b => cases b <;> rfl

/-- A call that succeeds is answered with the response. -/
theorem answer_map_response (plane : MemoryPlane) (rpc : Rpc) (request : rpc.Request) :
    (plane.answer rpc request).outcome.map (fun _ => plane.response rpc request) =
      (plane.answer rpc request).outcome := by
  rw [answer_outcome]
  cases Behavior.ending rpc (plane.behavior rpc) <;> rfl

/-- Of all that can be set, only the associations that are listed show in a response. -/
theorem response_congr (listed : rpc = .listSas → plane.ikeSas = plane'.ikeSas) (request : rpc.Request) :
    plane.response rpc request = plane'.response rpc request := by
  cases rpc
  case listSas => simp only [response, listed]
  all_goals rfl

theorem answer_congr (behaves : plane.behavior rpc = plane'.behavior rpc)
    (listed : rpc = .listSas → plane.ikeSas = plane'.ikeSas) (request : rpc.Request) :
    plane.answer rpc request = plane'.answer rpc request := by
  simp only [answer, behaves, response_congr listed]

end MemoryPlane

namespace Recorder
variable (r : Recorder) (operation : String) (b : Behavior)

theorem behave_behavior (rpc : Rpc) : (r.behave operation b).plane.behavior rpc =
    if operation = rpc.name then some b else r.plane.behavior rpc := by
  unfold behave
  split
  next rpc' named =>
    rw [Rpc.ofName?_eq_some_iff] at named
    subst named
    by_cases same : rpc = rpc'
    · simp [MemoryPlane.behave, same]
    · have other : rpc'.name ≠ rpc.name := fun names => same (Rpc.eq_of_name names.symm)
      simp [MemoryPlane.behave, same, other]
  next none =>
    have other : operation ≠ rpc.name := fun names => by
      simp [Rpc.ofName?_eq_some_iff.mpr names] at none
    rw [if_neg other]

@[simp] theorem behave_ikeSas : (r.behave operation b).plane.ikeSas = r.plane.ikeSas := by
  unfold behave
  split <;> rfl

@[simp] theorem behave_calls : (r.behave operation b).calls = r.calls := by
  unfold behave
  split <;> rfl

end Recorder

namespace Bench

/-! ### Steps -/

namespace Step

/-- The call that a step makes on a client. -/
def callOn? (client : Client) : Step → Option Call
  | .call c made => if c = client then some made else none
  | _ => none

/-- The behavior that a step sets on a client for a procedure. -/
def behaviorOn? (client : Client) (rpc : Rpc) : Step → Option Behavior
  | .behave c operation b => if c = client ∧ operation = rpc.name then some b else none
  | _ => none

/-- The associations that a step sets on a client. -/
def ikeSasOn? (client : Client) : Step → Option (List ListIkeSa)
  | .list c ikeSas => if c = client then some ikeSas else none
  | _ => none

def isCall : Step → Bool
  | .call .. => true
  | _ => false

/-- The nanoseconds that pass in a step. -/
def nanos : Step → Nat
  | .elapse time => time.nanos
  | _ => 0

end Step

/-- What the last of the steps that set something has set. -/
def lastSet {α : Type} (sets : Step → Option α) (steps : List Step) : Option α :=
  (steps.filterMap sets).getLast?

def elapsed : List Step → Nat
  | [] => 0
  | s :: rest => s.nanos + elapsed rest

variable (b : Bench) (s : Step) (client : Client)

theorem run_cons (steps : List Step) : b.run (s :: steps) = (b.step s).run steps := rfl

theorem run_append (steps later : List Step) : b.run (steps ++ later) = (b.run steps).run later :=
  List.foldl_append

theorem step_calls :
    ((b.step s).recorder client).calls = (b.recorder client).calls ++ (s.callOn? client).toList := by
  cases s with
  | behave c | list c | call c =>
    by_cases same : client = c
    · subst same
      simp [step, update, Step.callOn?, Recorder.listing, Recorder.record]
    · simp [step, update, Step.callOn?, same, Ne.symm same]
  | poll | elapse => simp [step, Step.callOn?]

theorem step_behavior (rpc : Rpc) : ((b.step s).recorder client).plane.behavior rpc =
    (s.behaviorOn? client rpc).or ((b.recorder client).plane.behavior rpc) := by
  cases s with
  | behave c operation =>
    by_cases same : client = c
    · subst same
      simp only [step, update, if_true, Recorder.behave_behavior, Step.behaviorOn?, true_and]
      split <;> rfl
    · simp [step, update, Step.behaviorOn?, same, Ne.symm same]
  | list c | call c =>
    by_cases same : client = c
    · subst same
      simp [step, update, Step.behaviorOn?, Recorder.listing, Recorder.record, MemoryPlane.listing]
    · simp [step, update, Step.behaviorOn?, same]
  | poll | elapse => simp [step, Step.behaviorOn?]

theorem step_ikeSas : some ((b.step s).recorder client).plane.ikeSas =
    (s.ikeSasOn? client).or (some (b.recorder client).plane.ikeSas) := by
  cases s with
  | behave c | list c | call c =>
    by_cases same : client = c
    · subst same
      simp [step, update, Step.ikeSasOn?, Recorder.listing, Recorder.record, MemoryPlane.listing]
    · simp [step, update, Step.ikeSasOn?, same, Ne.symm same]
  | poll | elapse => simp [step, Step.ikeSasOn?]

theorem step_now : (b.step s).now.nanos = b.now.nanos + s.nanos := by
  cases s <;> rfl

theorem step_tickets_length :
    (b.step s).tickets.length = b.tickets.length + if s.isCall then 1 else 0 := by
  cases s <;> simp [step, update, Step.isCall]

/-! ### Runs -/

theorem run_calls (steps : List Step) : ((b.run steps).recorder client).calls =
    (b.recorder client).calls ++ steps.filterMap (·.callOn? client) := by
  induction steps generalizing b with
  | nil => simp [run]
  | cons s rest ih =>
    rw [run_cons, ih, step_calls, List.append_assoc, List.filterMap_cons]
    cases s.callOn? client <;> rfl

/-- What is kept until it is set anew is what was set last. -/
theorem run_lastSet {α : Type} (view : Bench → Option α) (sets : Step → Option α)
    (keeps : ∀ b s, view (b.step s) = (sets s).or (view b)) (steps : List Step) :
    view (b.run steps) = (lastSet sets steps).or (view b) := by
  induction steps generalizing b with
  | nil => simp [run, lastSet]
  | cons s rest ih =>
    rw [run_cons, ih, keeps, ← Option.or_assoc, lastSet, lastSet, List.filterMap_cons]
    cases sets s with
    | none => simp
    | some a =>
      simp only [Option.some_or, List.getLast?_cons]
      cases (rest.filterMap sets).getLast? <;> rfl

theorem run_tickets_length (steps : List Step) :
    (b.run steps).tickets.length = b.tickets.length + steps.countP Step.isCall := by
  induction steps generalizing b with
  | nil => rfl
  | cons s rest ih =>
    rw [run_cons, ih, step_tickets_length, List.countP_cons]
    omega

/-! ### Tickets -/

section
variable {k : Nat} {t : Ticket}

@[simp] theorem fetch_client (t : Ticket) : (b.fetch t).client = t.client := by
  unfold fetch
  split <;> rfl

@[simp] theorem fetch_call (t : Ticket) : (b.fetch t).call = t.call := by
  unfold fetch
  split <;> rfl

theorem fetch_answered (answered : t.outcome.isSome = true) : b.fetch t = t := by
  rw [fetch, if_neg]
  simp [Option.isSome_iff_ne_none.mp answered]

theorem fetch_early (early : ¬ t.due ≤ b.now) : b.fetch t = t := by
  rw [fetch, if_neg]
  exact fun ready => early ready.2

theorem step_poll (held : b.tickets[k]? = some t) :
    (b.step (.poll k)).tickets[k]? = some (b.fetch t) := by
  simp [step, held]

/-- A step leaves a ticket as it is, unless it fetches its answer. -/
theorem step_held (held : b.tickets[k]? = some t) (idle : s = .poll k → b.fetch t = t) :
    (b.step s).tickets[k]? = some t := by
  cases s with
  | behave | list | elapse => exact held
  | call =>
    have present := (List.getElem?_eq_some_iff.mp held).1
    simp only [step, update]
    rw [List.getElem?_append_left present, held]
  | poll n =>
    by_cases here : n = k
    · subst here
      rw [step_poll b held, idle rfl]
    · simp [step, held, here]

theorem run_answered (held : b.tickets[k]? = some t) (answered : t.outcome.isSome = true)
    (steps : List Step) : (b.run steps).tickets[k]? = some t := by
  induction steps generalizing b with
  | nil => exact held
  | cons s rest ih => exact ih _ (step_held b s held fun _ => fetch_answered b answered)

end

/-- The look for the answer to a ticket that comes behind the steps `middle` is the first after the wait. -/
def Fetches (k wait : Nat) (steps middle : List Step) : Prop :=
  ∃ later, steps = middle ++ .poll k :: later ∧ wait ≤ elapsed middle ∧
    ∀ before between, middle = before ++ .poll k :: between → elapsed before < wait

theorem fetches_nil {k wait : Nat} {steps : List Step} :
    Fetches k wait steps [] ↔ ∃ later, steps = .poll k :: later ∧ wait = 0 := by
  simp [Fetches, elapsed]

theorem fetches_cons {k wait : Nat} {s s' : Step} {steps middle : List Step} :
    Fetches k wait (s :: steps) (s' :: middle) ↔
      s' = s ∧ (s = .poll k → 0 < wait) ∧ Fetches k (wait - s.nanos) steps middle := by
  constructor
  · rintro ⟨later, same, past, first⟩
    rw [List.cons_append, List.cons.injEq] at same
    obtain ⟨rfl, rfl⟩ := same
    rw [elapsed] at past
    refine ⟨rfl, fun poll => first [] middle (by rw [poll]; rfl), later, rfl, by omega, ?_⟩
    rintro before between rfl
    have earlier := first (s :: before) between rfl
    rw [elapsed] at earlier
    omega
  · rintro ⟨rfl, unready, later, rfl, past, first⟩
    refine ⟨later, rfl, by rw [elapsed]; omega, ?_⟩
    intro before between same
    cases before with
    | nil =>
      rw [List.nil_append, List.cons.injEq] at same
      exact unready same.1
    | cons s before =>
      rw [List.cons_append, List.cons.injEq] at same
      obtain ⟨rfl, rfl⟩ := same
      have earlier := first before between rfl
      rw [elapsed]
      omega

/-- A ticket is answered by the first look for its answer after its wait, by what is set then, and until
then by none. -/
theorem run_waiting {k : Nat} {client : Client} {call : Call} {reply : Reply call.rpc.Response}
    {due : Instant} (held : b.tickets[k]? = some ⟨client, call, reply, due, none⟩) (steps : List Step) :
    ∃ outcome, (b.run steps).tickets[k]? = some ⟨client, call, reply, due, outcome⟩ ∧
      ∀ result, outcome = some result ↔ ∃ middle, Fetches k (due.nanos - b.now.nanos) steps middle ∧
        result = reply.outcome.map fun _ =>
          ((b.run middle).recorder client).plane.response call.rpc call.request := by
  -- Each step takes its time off the wait that is left, so the bench must be free in the induction.
  induction steps generalizing b with
  | nil =>
    refine ⟨none, held, fun result => ⟨nofun, ?_⟩⟩
    rintro ⟨middle, ⟨later, none, -⟩, -⟩
    simp at none
  | cons s rest ih =>
    by_cases here : s = .poll k ∧ due ≤ b.now
    · obtain ⟨rfl, past⟩ := here
      have ready : due.nanos - b.now.nanos = 0 := Nat.sub_eq_zero_of_le past
      have fetched := b.step_poll held
      rw [fetch, if_pos ⟨rfl, past⟩] at fetched
      refine ⟨_, run_answered _ fetched rfl rest, fun result => ?_⟩
      constructor
      · rintro ⟨⟩
        exact ⟨[], fetches_nil.mpr ⟨rest, rfl, ready⟩, rfl⟩
      · rintro ⟨middle, fetches, rfl⟩
        cases middle with
        | nil => rfl
        | cons s' middle => exact absurd ((fetches_cons.mp fetches).2.1 rfl) (by omega)
    · have waits := step_held b s held fun poll => fetch_early b fun past => here ⟨poll, past⟩
      obtain ⟨outcome, waits, answered⟩ := ih _ waits
      refine ⟨outcome, waits, fun result => (answered result).trans ?_⟩
      rw [step_now, Nat.sub_add_eq]
      constructor
      · rintro ⟨middle, fetches, rfl⟩
        refine ⟨s :: middle, fetches_cons.mpr ⟨rfl, fun poll => ?_, fetches⟩, rfl⟩
        exact Nat.sub_pos_of_lt (Nat.lt_of_not_le fun past => here ⟨poll, past⟩)
      · rintro ⟨middle, fetches, rfl⟩
        cases middle with
        | nil =>
          obtain ⟨later, same, past⟩ := fetches_nil.mp fetches
          rw [List.cons.injEq] at same
          exact absurd ⟨same.1, Nat.le_of_sub_eq_zero past⟩ here
        | cons s' middle =>
          obtain ⟨rfl, -, fetches⟩ := fetches_cons.mp fetches
          exact ⟨middle, fetches, rfl⟩

end Bench
end IPsecControl
