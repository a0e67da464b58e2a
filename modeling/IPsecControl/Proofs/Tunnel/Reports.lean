import IPsecControl.Proofs.Tunnel.Course

/-! What attempts leave in a report. A step that succeeds is completed and may warn; a failure
that is tolerated is a warning; nothing else of a report but its state and the values it
keeps depends on them. -/
namespace IPsecControl.Tunnel
open Message

namespace Report
variable (r : Report) (step : Step)

/-- The warnings that come with the success of a step. -/
def successWarnings (connection : String) : (step : Step) → step.Outcome → List Warning
  | .listSas, (response : ListSasResponse) =>
    if lists connection response then []
    else [⟨.listSas, "no IKE SA listed for '" ++ connection ++ "'"⟩]
  | _, _ => []

/-- Only the listing of associations can succeed with a warning. -/
theorem successWarnings_of_ne {connection : String} {step : Step} {outcome : step.Outcome}
    (other : step ≠ .listSas) : successWarnings connection step outcome = [] := by
  cases step <;> first | rfl | contradiction

section advance
variable (state? : Option State)

@[simp] theorem advance_connection : (r.advance state?).connection = r.connection := by
  cases state? <;> rfl

@[simp] theorem advance_completed : (r.advance state?).completed = r.completed := by
  cases state? <;> rfl

@[simp] theorem advance_warnings : (r.advance state?).warnings = r.warnings := by
  cases state? <;> rfl

@[simp] theorem advance_cleanupFailures : (r.advance state?).cleanupFailures = r.cleanupFailures := by
  cases state? <;> rfl

theorem advance_state : (r.advance state?).state = state?.getD r.state := by
  cases state? <;> rfl

end advance

theorem keep_listSas (response : ListSasResponse) : r.keep .listSas response =
    { r with
      ikeSas := response.ikesas
      warnings := r.warnings ++ successWarnings r.connection .listSas response } := by
  by_cases listed : lists r.connection response
  · simp [keep, successWarnings, if_pos listed]
  · simp [keep, successWarnings, if_neg listed, warn]

variable (outcome : step.Outcome)

/-- What a successful step brings changes a report only in the values it keeps and its warnings. -/
theorem keep_fields : (r.keep step outcome).connection = r.connection ∧
    (r.keep step outcome).state = r.state ∧ (r.keep step outcome).passed = r.passed ∧
    (r.keep step outcome).completed = r.completed ∧
    (r.keep step outcome).cleanupFailures = r.cleanupFailures ∧
    (r.keep step outcome).warnings = r.warnings ++ successWarnings r.connection step outcome := by
  cases step
  case listSas => simp [keep_listSas]
  all_goals simp [keep, successWarnings]

@[simp] theorem succeed_connection : (r.succeed step outcome).connection = r.connection := by
  simp [succeed, complete, keep_fields]

@[simp] theorem succeed_completed : (r.succeed step outcome).completed = r.completed ++ [step] := by
  simp [succeed, complete, keep_fields]

@[simp] theorem succeed_cleanupFailures :
    (r.succeed step outcome).cleanupFailures = r.cleanupFailures := by
  simp [succeed, complete, keep_fields]

@[simp] theorem succeed_warnings :
    (r.succeed step outcome).warnings = r.warnings ++ successWarnings r.connection step outcome := by
  simp [succeed, complete, keep_fields]

theorem succeed_state : (r.succeed step outcome).state = step.reached?.getD r.state := by
  simp [succeed, complete, keep_fields, advance_state]

end Report

namespace Attempt
variable (a : Attempt)

/-- The warnings of a run that goes on after the attempt. -/
def warnings (connection : String) : List Warning :=
  match a.result with
  | .ok outcome => Report.successWarnings connection a.step outcome
  | .error e => [⟨a.step, e.message⟩]

/-- The steps that the attempt completes. -/
def completes : List Step := if a.failure?.isNone then [a.step] else []

def failedListing? : Option Failure :=
  if a.step.isListing then a.failure?.map (⟨a.step, ·⟩) else none

end Attempt

namespace Progress
variable (p : Progress) (a : Attempt)

/-- The progress of a run that goes on after an attempt. -/
def after : Progress :=
  match a.result with
  | .ok outcome => p.succeed a.step outcome
  | .error e => p.tolerate ⟨a.step, e⟩

@[simp] theorem after_connection : (p.after a).report.connection = p.report.connection := by
  cases result : a.result <;> simp [after, result, succeed, tolerate, Report.warn]

@[simp] theorem after_completed : (p.after a).report.completed = p.report.completed ++ a.completes := by
  cases result : a.result <;>
    simp [after, Attempt.completes, Attempt.failure?, result, Guard.failure?, succeed, tolerate,
      Report.warn]

@[simp] theorem after_cleanupFailures :
    (p.after a).report.cleanupFailures = p.report.cleanupFailures := by
  cases result : a.result <;> simp [after, result, succeed, tolerate, Report.warn]

@[simp] theorem after_warnings :
    (p.after a).report.warnings = p.report.warnings ++ a.warnings p.report.connection := by
  cases result : a.result <;>
    simp [after, Attempt.warnings, result, succeed, tolerate, Report.warn, Failure.warning]

theorem after_failedListing : (p.after a).failedListing = p.failedListing.or a.failedListing? := by
  cases result : a.result with
  | ok outcome =>
    simp [after, Attempt.failedListing?, Attempt.failure?, result, Guard.failure?, succeed]
  | error e =>
    cases listing : a.step.isListing <;>
      simp [after, Attempt.failedListing?, Attempt.failure?, result, Guard.failure?, tolerate, listing]

variable {p} {q : Progress} {step : Step}

/-- A step that may begin only moves the state on. -/
theorem begin?_ok (begun : p.begin? step = .ok q) :
    q = { p with report := p.report.advance step.during? } := by
  unfold begin? at begun
  split at begun
  · contradiction
  · exact (Except.ok.inj begun).symm

/-- The probe is begun only if no listing failed, or one succeeded. -/
theorem begin?_probe (begun : p.begin? .probe = .ok q) :
    p.failedListing = none ∨ p.report.introspected = true := by
  cases failed : p.failedListing with
  | none => exact .inl rfl
  | some f =>
    cases introspected : p.report.introspected with
    | true => exact .inr rfl
    | false => simp [begin?, failed, introspected] at begun

theorem begin?_error {f : Failure} (barred : p.begin? step = .error f) :
    step = .probe ∧ p.failedListing = some f ∧ p.report.introspected = false := by
  unfold begin? at barred
  split at barred
  next failed introspected => exact ⟨rfl, Except.error.inj barred ▸ failed, introspected⟩
  next => contradiction

end Progress
end IPsecControl.Tunnel
