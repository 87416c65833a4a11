/-
The two state machines of a mission: its workflow, and the review of its quality.

Both are tables of transitions, each with the roles that may make it and whether it has to be
reasoned.  The table of the workflow is the map that every change of a mission's state is meant to
follow (`Edge`); the review has a table of its own and a gate of five conditions that a mission is
meant to pass before it is COMPLETED.
-/
import Asoju.FieldForce.Schema
import Asoju.Prisma

namespace Asoju.FieldForce

open Lib

/-! ## The workflow of a mission -/

inductive MissionAction
  | offer | assign | startTravel | checkIn | beginExecution | prepareSubmit | submit | enterQc
  | approve | reject | requestRework | resubmit | escalate | pause | cancel | fail | reassigned
  | other (text : String)
deriving DecidableEq, Repr

def MissionAction.text : MissionAction → String
  | offer => "OFFER"
  | assign => "ASSIGN"
  | startTravel => "START_TRAVEL"
  | checkIn => "CHECK_IN"
  | beginExecution => "BEGIN_EXECUTION"
  | prepareSubmit => "PREPARE_SUBMIT"
  | submit => "SUBMIT"
  | enterQc => "ENTER_QC"
  | approve => "APPROVE"
  | reject => "REJECT"
  | requestRework => "REQUEST_REWORK"
  | resubmit => "RESUBMIT"
  | escalate => "ESCALATE"
  | pause => "PAUSE"
  | cancel => "CANCEL"
  | fail => "FAIL"
  | reassigned => "REASSIGNED"
  | other text => text

def WorkflowState.text : WorkflowState → String
  | accepted => "ACCEPTED"
  | enRoute => "EN_ROUTE"
  | onSite => "ON_SITE"
  | executing => "EXECUTING"
  | submitting => "SUBMITTING"
  | submitted => "SUBMITTED"
  | qcReview => "QC_REVIEW"
  | completed => "COMPLETED"
  | escalated => "ESCALATED"
  | paused => "PAUSED"
  | reassigned => "REASSIGNED"
  | rework => "REWORK"
  | cancelled => "CANCELLED"
  | failed => "FAILED"

inductive ActorRole
  | agent | admin | system | operations
deriving DecidableEq, Repr

def ActorRole.text : ActorRole → String
  | agent => "AGENT"
  | admin => "ADMIN"
  | system => "SYSTEM"
  | operations => "OPERATIONS"

/-- A transition, with the roles that may make it. -/
structure TransitionDef where
  action : MissionAction
  src : WorkflowState
  dst : WorkflowState
  allowedRoles : List ActorRole
  requiresReason : Bool := false
deriving DecidableEq, Repr

def missionTransitions : List TransitionDef :=
  [ -- Primary happy path
    ⟨.offer, .accepted, .accepted, [.admin, .operations], false⟩,
    ⟨.assign, .accepted, .accepted, [.admin, .operations], false⟩,
    ⟨.startTravel, .accepted, .enRoute, [.agent], false⟩,
    ⟨.checkIn, .enRoute, .onSite, [.agent], false⟩,
    ⟨.beginExecution, .onSite, .executing, [.agent], false⟩,
    ⟨.prepareSubmit, .executing, .submitting, [.agent], false⟩,
    ⟨.submit, .submitting, .submitted, [.agent], false⟩,
    ⟨.enterQc, .submitted, .qcReview, [.system], false⟩,
    -- QC outcomes
    ⟨.approve, .qcReview, .completed, [.admin, .operations], false⟩,
    ⟨.reject, .qcReview, .failed, [.admin, .operations], true⟩,
    ⟨.requestRework, .qcReview, .rework, [.admin, .operations], true⟩,
    -- Rework resubmission
    ⟨.resubmit, .rework, .submitted, [.agent], false⟩,
    ⟨.enterQc, .submitted, .qcReview, [.system], false⟩,
    -- Exception / side states
    ⟨.escalate, .enRoute, .escalated, [.agent], true⟩,
    ⟨.escalate, .onSite, .escalated, [.agent], true⟩,
    ⟨.escalate, .executing, .escalated, [.agent], true⟩,
    ⟨.escalate, .submitting, .escalated, [.agent], true⟩,
    ⟨.pause, .enRoute, .paused, [.admin, .operations], true⟩,
    ⟨.pause, .onSite, .paused, [.admin, .operations], true⟩,
    ⟨.pause, .executing, .paused, [.admin, .operations], true⟩,
    ⟨.cancel, .accepted, .cancelled, [.admin, .operations], true⟩,
    ⟨.cancel, .enRoute, .cancelled, [.admin, .operations], true⟩,
    ⟨.cancel, .onSite, .cancelled, [.admin, .operations], true⟩,
    ⟨.cancel, .executing, .cancelled, [.admin, .operations], true⟩,
    ⟨.cancel, .submitting, .cancelled, [.admin, .operations], true⟩,
    ⟨.cancel, .submitted, .cancelled, [.admin, .operations], true⟩,
    ⟨.cancel, .rework, .cancelled, [.admin, .operations], true⟩,
    ⟨.fail, .escalated, .failed, [.admin, .operations], true⟩,
    ⟨.fail, .paused, .failed, [.admin, .operations], true⟩,
    -- Recovery from paused/escalated back to previous active state
    ⟨.startTravel, .paused, .enRoute, [.admin, .operations], false⟩,
    ⟨.checkIn, .paused, .onSite, [.admin, .operations], false⟩,
    ⟨.beginExecution, .paused, .executing, [.admin, .operations], false⟩,
    ⟨.startTravel, .escalated, .enRoute, [.admin, .operations], false⟩,
    ⟨.checkIn, .escalated, .onSite, [.admin, .operations], false⟩,
    ⟨.beginExecution, .escalated, .executing, [.admin, .operations], false⟩,
    ⟨.reassigned, .accepted, .reassigned, [.admin, .operations], true⟩,
    ⟨.reassigned, .enRoute, .reassigned, [.admin, .operations], true⟩]

def terminalStates : List WorkflowState := [.completed, .cancelled, .failed, .reassigned]

inductive MissionTransitionError
  | missionNotFound | missionStateConflict | invalidTransition | unauthorizedTransition
  | agentOwnershipRequired | missingReason | transitionError
deriving DecidableEq, Repr

def MissionTransitionError.text : MissionTransitionError → String
  | missionNotFound => "MISSION_NOT_FOUND"
  | missionStateConflict => "MISSION_STATE_CONFLICT"
  | invalidTransition => "INVALID_TRANSITION"
  | unauthorizedTransition => "UNAUTHORIZED_TRANSITION"
  | agentOwnershipRequired => "AGENT_OWNERSHIP_REQUIRED"
  | missingReason => "MISSING_REASON"
  | transitionError => "TRANSITION_ERROR"

/-- Why a transition is refused. -/
structure Refusal (ε : Type) where
  error : ε
  message : String
deriving DecidableEq, Repr

def getValidActions (currentState : WorkflowState) : List MissionAction :=
  if currentState ∈ terminalStates then []
  else (missionTransitions.filter fun t => t.src = currentState).map TransitionDef.action

/-- The state that an action leads to, if the actor may take it. -/
def validateTransition (currentState : WorkflowState) (action : MissionAction)
    (actorRole : ActorRole) (reason : Option String) :
    Except (Refusal MissionTransitionError) WorkflowState :=
  let state := currentState.text
  let name := action.text
  let role := actorRole.text
  if currentState ∈ terminalStates then
    .error ⟨.invalidTransition, s!"Cannot transition from terminal state: {state}"⟩
  else
    match missionTransitions.find? fun t => t.src = currentState ∧ t.action = action with
    | none =>
        let actions := ", ".intercalate ((getValidActions currentState).map MissionAction.text)
        .error ⟨.invalidTransition,
          s!"Action '{name}' is not valid from state '{state}'. Valid actions: {actions}"⟩
    | some transition =>
        if actorRole ∉ transition.allowedRoles then
          let roles := ", ".intercalate (transition.allowedRoles.map ActorRole.text)
          .error ⟨.unauthorizedTransition,
            s!"Role '{role}' is not authorized to perform action '{name}'. Allowed roles: {roles}"⟩
        else if transition.requiresReason ∧ isBlank reason then
          .error ⟨.missingReason,
            s!"Action '{name}' requires a reason. Please provide a reason for this transition."⟩
        else
          .ok transition.dst

/-- The map of the workflow: an action leads from one state to the other. -/
def Edge (s t : WorkflowState) : Prop := ∃ x ∈ missionTransitions, x.src = s ∧ x.dst = t

instance (s t : WorkflowState) : Decidable (Edge s t) :=
  inferInstanceAs (Decidable (∃ x ∈ missionTransitions, _))

/-- The map has no way out of a terminal state. -/
lemma Edge.not_terminal {s t : WorkflowState} (h : Edge s t) : s ∉ terminalStates := by
  have htable : ∀ x ∈ missionTransitions, x.src ∉ terminalStates := by decide
  obtain ⟨x, hx, rfl, -⟩ := h
  exact htable x hx

/-- What a transition that is valid comes from. -/
lemma validateTransition_eq_ok {s t : WorkflowState} {action : MissionAction} {role : ActorRole}
    {reason : Option String} (h : validateTransition s action role reason = .ok t) :
    ∃ x ∈ missionTransitions, x.action = action ∧ x.src = s ∧ x.dst = t ∧
      role ∈ x.allowedRoles := by
  simp only [validateTransition] at h
  split at h
  · cases h
  · cases hfind : missionTransitions.find? fun t => t.src = s ∧ t.action = action with
    | none =>
      simp only [hfind] at h
      cases h
    | some x =>
      have hx := List.find?_some hfind
      simp only [decide_eq_true_eq] at hx
      simp only [hfind] at h
      split_ifs at h with hrole hreason
      exact ⟨x, List.mem_of_find?_eq_some hfind, hx.2, hx.1, Except.ok.inj h, hrole⟩

lemma edge_of_validateTransition {s t : WorkflowState} {action : MissionAction} {role : ActorRole}
    {reason : Option String} (h : validateTransition s action role reason = .ok t) : Edge s t := by
  obtain ⟨x, hx, -, hsrc, hdst, -⟩ := validateTransition_eq_ok h
  exact ⟨x, hx, hsrc, hdst⟩

/-! ## The review of a mission -/

inductive QcAction
  | startReview | approve | reject | requestRework | resubmit
  | other (text : String)
deriving DecidableEq, Repr

def QcAction.text : QcAction → String
  | startReview => "START_REVIEW"
  | approve => "APPROVE"
  | reject => "REJECT"
  | requestRework => "REQUEST_REWORK"
  | resubmit => "RESUBMIT"
  | other text => text

def QcState.text : QcState → String
  | pending => "PENDING"
  | inReview => "IN_REVIEW"
  | approved => "APPROVED"
  | rejected => "REJECTED"

inductive QcActorRole
  | agent | admin | operations
deriving DecidableEq, Repr

def QcActorRole.text : QcActorRole → String
  | agent => "AGENT"
  | admin => "ADMIN"
  | operations => "OPERATIONS"

structure QcTransitionDef where
  action : QcAction
  src : QcState
  dst : QcState
  allowedRoles : List QcActorRole
  requiresReason : Bool := false
deriving DecidableEq, Repr

def qcTransitions : List QcTransitionDef :=
  [⟨.startReview, .pending, .inReview, [.admin, .operations], false⟩,
    ⟨.approve, .inReview, .approved, [.admin, .operations], false⟩,
    ⟨.reject, .inReview, .rejected, [.admin, .operations], true⟩,
    ⟨.requestRework, .inReview, .rejected, [.admin, .operations], true⟩,
    ⟨.resubmit, .rejected, .pending, [.agent], false⟩]

inductive QcTransitionError
  | invalidQcTransition | unauthorizedQcTransition | missingReviewReason
deriving DecidableEq, Repr

def QcTransitionError.text : QcTransitionError → String
  | invalidQcTransition => "INVALID_QC_TRANSITION"
  | unauthorizedQcTransition => "UNAUTHORIZED_QC_TRANSITION"
  | missingReviewReason => "MISSING_REVIEW_REASON"

def validateQcTransition (currentState : QcState) (action : QcAction) (actorRole : QcActorRole)
    (reason : Option String) : Except (Refusal QcTransitionError) QcState :=
  let state := currentState.text
  let name := action.text
  let role := actorRole.text
  match qcTransitions.find? fun t => t.src = currentState ∧ t.action = action with
  | none =>
      .error ⟨.invalidQcTransition, s!"QC action '{name}' is not valid from state '{state}'."⟩
  | some transition =>
      if actorRole ∉ transition.allowedRoles then
        .error ⟨.unauthorizedQcTransition,
          s!"Role '{role}' is not authorized to perform QC action '{name}'."⟩
      else if transition.requiresReason ∧ isBlank reason then
        .error ⟨.missingReviewReason,
          s!"QC action '{name}' requires a reason. Please provide details."⟩
      else
        .ok transition.dst

/-- The labels of the gates that have failed. -/
def CompletionGate.failedGates (gate : CompletionGate) : List String :=
  ([(gate.qcApproved, "QC Approved"), (gate.evidenceValid, "Evidence Valid"),
    (gate.gpsCheckinValid, "GPS Check-in Valid"),
    (gate.requiredFieldsComplete, "Required Fields Complete"),
    (gate.financialReady, "Financial Ready")].filter fun g => !g.1).map Prod.snd

/-- Whether the gate passes. -/
def evaluateCompletionGate (gate : CompletionGate) : Bool := gate.failedGates.length = 0

/-- The gate passes when each of its conditions does. -/
lemma evaluateCompletionGate_iff (gate : CompletionGate) : evaluateCompletionGate gate = true ↔
    gate.qcApproved ∧ gate.evidenceValid ∧ gate.gpsCheckinValid ∧ gate.requiredFieldsComplete ∧
      gate.financialReady := by
  obtain ⟨qc, evidence, gps, fields, financial⟩ := gate
  cases qc <;> cases evidence <;> cases gps <;> cases fields <;> cases financial <;> decide

/-- What a review action that is valid comes from. -/
lemma validateQcTransition_eq_ok {s t : QcState} {action : QcAction} {role : QcActorRole}
    {reason : Option String} (h : validateQcTransition s action role reason = .ok t) :
    ∃ x ∈ qcTransitions, x.action = action ∧ x.src = s ∧ x.dst = t ∧ role ∈ x.allowedRoles := by
  simp only [validateQcTransition] at h
  cases hfind : qcTransitions.find? fun t => t.src = s ∧ t.action = action with
  | none =>
    simp only [hfind] at h
    cases h
  | some x =>
    have hx := List.find?_some hfind
    simp only [decide_eq_true_eq] at hx
    simp only [hfind] at h
    split_ifs at h with hrole hreason
    exact ⟨x, List.mem_of_find?_eq_some hfind, hx.2, hx.1, Except.ok.inj h, hrole⟩

end Asoju.FieldForce
