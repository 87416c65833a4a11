/-
Quality control: how an administrator reviews a mission (`POST /api/admin/cases/[id]/qc`).

The route moves the current review of the mission along the machine of reviews, and writes the state
of the mission directly beside it: whatever state the mission is in, an approval makes it COMPLETED,
a rejection FAILED, and a request for rework REWORK.  An approval evaluates the completion gate; it
posts and pays the earnings if the gate passes, and completes the mission also if it does not.  The
report to the customer is left out: it comes last, and its failure is ignored.
-/
import Asoju.FieldForce.Missions

namespace Asoju.FieldForce

open Lib

namespace QualityControl

structure RejectionReason where
  id : String
  label : String
deriving DecidableEq, Repr

def rejectionReasons : List RejectionReason :=
  [⟨"missing_evidence", "Missing Evidence"⟩,
    ⟨"insufficient_evidence", "Insufficient Evidence"⟩,
    ⟨"gps_anomaly", "GPS Check-in Anomaly"⟩,
    ⟨"incorrect_data", "Incorrect Data Fields"⟩,
    ⟨"incomplete_checklist", "Incomplete Checklist"⟩,
    ⟨"photo_quality", "Poor Photo Quality"⟩,
    ⟨"wrong_location", "Wrong Location"⟩,
    ⟨"safety_concern", "Safety Concern"⟩]

/-- A command of an administrator.  Each role that the route lets in acts as OPERATIONS. -/
structure Command where
  adminId : Id
  caseId : Id
  action : Option QcAction
  reason : Option String := none
  reworkInstructions : Option String := none
  rejectionReasonId : Option String := none
  now : Time := 0
deriving DecidableEq, Repr

/-- The label of the reason for a rejection, or its id. -/
def rejectionReasonLabel (rejectionReasonId : String) : String :=
  match rejectionReasons.find? fun r => r.id = rejectionReasonId with
  | some r => r.label
  | none => rejectionReasonId

/-- What a command writes into the review. -/
def reviewed (c : Command) (action : QcAction) (newState : QcState) (r : QcReview) : QcReview :=
  { r with
    state := newState
    reviewerId := some c.adminId
    rejectionReason :=
      ((nonEmpty c.rejectionReasonId).map rejectionReasonLabel).or (nonEmpty c.reason)
    reworkInstructions := nonEmpty c.reworkInstructions
    startedAt := if action = .startReview then some c.now else r.startedAt
    completedAt :=
      if action = .approve ∨ action = .reject ∨ action = .requestRework then some c.now
      else r.completedAt }

/-- The gate of a mission, from its row, its evidence and its checks on site. -/
def gateOf (mission : Mission) (evidenceCount : ℕ) (passedGpsCheck : Bool) : CompletionGate where
  qcApproved := true
  evidenceValid := evidenceCount > 0
  gpsCheckinValid := passedGpsCheck
  requiredFieldsComplete :=
    mission.checklistTotal > 0 ∧ mission.checklistProgress ≥ mission.checklistTotal
  financialReady := true

/-- The mission and the case are completed. -/
def complete (caseId missionId : Id) (now : Time) : Svc Unit := do
  Client.update Db.missions .recordNotFound missionId fun m =>
    { m with workflowState := .completed, completedAt := some now }
  Client.update Db.cases .recordNotFound caseId fun c =>
    { c with
      status := .completed
      qcStatus := some .approved
      missionState := some .completed
      completedAt := some now }

/-- The wallet gets the earnings; it is created if there is none. -/
def addEarnings (missionId : Id) (mission : Mission) : Svc Unit := do
  match ← Client.findFirst Db.walletAccounts (isWalletOf mission.agentId) with
  | some (walletAccountId, _) =>
      Client.update Db.walletAccounts .recordNotFound walletAccountId fun w =>
        { w with
          totalEarnings := w.totalEarnings + mission.netPayout
          availableBalance := w.availableBalance + mission.netPayout }
      record Db.walletEntries
        { agentId := mission.agentId
          walletAccountId
          type := .missionEarning
          amount := mission.netPayout
          referenceId := some missionId }
  | none =>
      let _ ← Client.createUnique Db.walletAccounts (isWalletOf mission.agentId) .uniqueConstraint
        { agentId := mission.agentId
          totalEarnings := mission.netPayout
          availableBalance := mission.netPayout }

/-- The earnings are posted and released, and the wallet follows the first of the two postings. -/
def payEarnings (missionId : Id) (mission : Mission) : Svc Unit := do
  seedChartOfAccounts
  let earningsResult ← postEarnings missionId mission.agentId mission.payoutAmount mission.asojuFee
    mission.netPayout
  let _ ← postQcEarningsRelease missionId mission.agentId mission.netPayout
  (if earningsResult.success then addEarnings missionId mission else pure ())
  Client.update Db.agents .recordNotFound mission.agentId fun a =>
    { a with
      totalMissionsCompleted := a.totalMissionsCompleted + 1
      totalEarnings := a.totalEarnings + mission.netPayout
      currentBalance := a.currentBalance + mission.netPayout }

/-- The number of items of evidence for a mission. -/
def evidenceCount (missionId : Id) (d : Db) : ℕ :=
  d.evidenceItem.values.countP fun e => e.missionId = missionId

/-- Whether a check on site has passed. -/
def passedGpsCheck (missionId : Id) (d : Db) : Bool :=
  d.gpsCheck.values.any fun g => g.missionId = missionId ∧ g.result = .pass

/-- An approval completes the mission, and pays if the gate passes. -/
def approve (caseId missionId : Id) (mission : Mission) (reviewId : Id) (now : Time) :
    Svc (Option WorkflowState) := do
  let evidenceCount ← Client.query .evidenceItem (evidenceCount missionId)
  let passedGpsCheck ← Client.query .gpsCheck (passedGpsCheck missionId)
  let gate := gateOf mission evidenceCount passedGpsCheck
  Client.update Db.qcReviews .recordNotFound reviewId fun r => { r with gateResults := some gate }
  complete caseId missionId now
  if evaluateCompletionGate gate then do
    payEarnings missionId mission
    return some .completed
  else
    return none

/-- The mission takes the outcome of the review. -/
def conclude (caseId missionId : Id) (state : WorkflowState) (f : Case → Case) :
    Svc (Option WorkflowState) := do
  Client.update Db.missions .recordNotFound missionId fun m => { m with workflowState := state }
  Client.update Db.cases .recordNotFound caseId f
  return some state

/-- What the action asks for beside the review.  The answer names the new state of the mission,
unless a gate has failed. -/
def follow (action : QcAction) (caseId missionId : Id) (mission : Mission) (reviewId : Id)
    (now : Time) : Svc (Option WorkflowState) :=
  match action with
  | .approve => approve caseId missionId mission reviewId now
  | .requestRework => conclude caseId missionId .rework fun c =>
      { c with qcStatus := some .rejected, missionState := some .rework }
  | .reject => conclude caseId missionId .failed fun c =>
      { c with status := .failed, qcStatus := some .rejected, missionState := some .failed }
  | _ => return none

/-- The current review of the mission; if there is none, a first one is created. -/
def openReview (missionId : Id) : Svc (Id × QcReview) := do
  match ← findLastReview missionId with
  | some current => return current
  | none =>
      let lastReview ← findLastReview missionId
      let cycleNumber := nextCycle lastReview
      let current : QcReview := { missionId, cycleNumber, state := .pending }
      let reviewId ← Client.create Db.qcReviews current
      return (reviewId, current)

/-- The body of an answer. -/
structure Reviewed where
  review : QcReview
  missionNewState : Option WorkflowState
deriving DecidableEq, Repr

/-- The action on the current review. -/
def act (c : Command) (action : QcAction) (missionId : Id) (mission : Mission) (reviewId : Id)
    (current : QcReview) : Svc (Reply Reviewed) :=
  match validateQcTransition current.state action .operations c.reason with
  | .error refusal =>
      return .refused (if refusal.error = .unauthorizedQcTransition then 403 else 422)
        refusal.error.text refusal.message
  | .ok newState => do
      Client.update Db.qcReviews .recordNotFound reviewId (reviewed c action newState)
      let missionNewState ← follow action c.caseId missionId mission reviewId c.now
      record Db.adminAuditEvents ⟨"QC_" ++ action.text, some reviewId⟩
      return .ok ⟨reviewed c action newState current, missionNewState⟩

/-- The mission of the case, if both are there. -/
def missionOf (caseId : Id) (d : Db) : Option (Id × Mission) :=
  (d.serviceCase.get? caseId).bind fun _ => Db.missions.find (isMissionOf caseId) d

def process (c : Command) : Svc (Reply Reviewed) :=
  match c.action with
  | none => return .error 400 "action is required"
  | some action => do
      match ← Client.query .serviceCase (missionOf c.caseId) with
      | none => return .error 404 "Case or mission not found"
      | some (missionId, mission) => do
          let (reviewId, current) ← openReview missionId
          act c action missionId mission reviewId current

def POST (c : Command) : Svc (Reply Reviewed) :=
  tryCatch (process c) fun _ => pure (.error 500 "Failed to process QC action")

end QualityControl

end Asoju.FieldForce
