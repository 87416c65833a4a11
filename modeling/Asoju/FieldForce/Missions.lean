/-
Missions in the field: how an agent accepts, carries out and submits one.

An agent accepts a gig (`POST /api/gigs/accept`), checks in on site (`POST /api/missions/checkin`),
uploads evidence (`POST /api/missions/evidence`) and moves the mission along its workflow
(`POST /api/missions/transition`, or `PUT /api/missions` for a submission and an escalation); the
checklist is ticked off on the way (`PATCH /api/missions`).
The acceptance is one transaction; the other routes read the mission and write it in later steps, by
a conditional update or by a plain one.  The routes are modelled from the authentication of the agent
on.  An update by the unique column `caseId` of a mission that has been read is one by the mission's
key.
-/
import Asoju.FieldForce.Payouts
import Asoju.FieldForce.StateMachines
import Mathlib.Data.List.MinMax

namespace Asoju.FieldForce

open Lib

def isMissionOf (caseId : Id) (m : Mission) : Bool := m.caseId = caseId

/-- An answer with a code and a message: both, in one text. -/
def Reply.refused {β : Type} (status : ℕ) (code message : String) : Reply β :=
  .error status s!"{code}: {message}"

/-! ## The acceptance of a gig -/

namespace Gigs

def isGigOf (caseId : Id) (g : CachedGig) : Bool := g.caseId = caseId

/-- The mission that comes of a gig. -/
def newMission (agentId : Id) (gig : CachedGig) (now : Time) : Mission where
  caseId := gig.caseId
  agentId
  payoutAmount := gig.estimatedPayout
  asojuFee := roundTenth gig.estimatedPayout
  netPayout := gig.estimatedPayout - roundTenth gig.estimatedPayout
  workflowState := .enRoute
  scopeSnapshot := gig.caseScope
  checklistTotal := gig.caseScope.length
  acceptedAt := some now

/-- Add a pending earning to the wallet of an agent, which is created if there is none. -/
def addPending (agentId : Id) (netPayout : ℤ) : Svc Id := do
  match ← Client.findFirst Db.walletAccounts (isWalletOf agentId) with
  | some (walletAccountId, _) =>
      Client.update Db.walletAccounts .recordNotFound walletAccountId fun w =>
        { w with
          pendingBalance := w.pendingBalance + netPayout
          totalEarnings := w.totalEarnings + netPayout }
      return walletAccountId
  | none =>
      Client.createUnique Db.walletAccounts (isWalletOf agentId) .uniqueConstraint
        { agentId, pendingBalance := netPayout, totalEarnings := netPayout }

/-- The mission, its assignment, and what it earns. -/
def createMission (agentId : Id) (gig : CachedGig) (now : Time) : Svc (Id × Mission) := do
  let mission := newMission agentId gig now
  let missionId ← Client.createUnique Db.missions (isMissionOf gig.caseId) .uniqueConstraint mission
  record Db.missionAssignments { missionId, agentId, acceptedAt := some now }
  let walletAccountId ← addPending agentId mission.netPayout
  record Db.walletEntries
    { agentId
      walletAccountId
      type := .missionEarning
      amount := mission.netPayout
      referenceId := some missionId }
  record Db.auditEvents ⟨"MISSION_ACCEPTED", some missionId⟩
  return (missionId, mission)

/-- The body of the transaction. -/
def accept (agentId caseId : Id) (now : Time) : Svc (Id × Mission) := do
  match ← Client.findFirst Db.cachedGigs (isGigOf caseId) with
  | none => throw (.thrown "GIG_UNAVAILABLE")
  | some (gigId, gig) =>
      if gig.status ≠ .available then throw (.thrown "GIG_UNAVAILABLE")
      else do
        Client.update Db.cachedGigs .recordNotFound gigId fun g =>
          { g with
            status := .claimed
            claimedBy := some agentId
            claimedAt := some now
            agentId := some agentId }
        match ← Client.findUnique Db.agents agentId with
        | none => throw (.thrown "AGENT_NOT_FOUND")
        | some _ => createMission agentId gig now

/-- The answer to a failure of the transaction. -/
def failure : Failure → Reply (Id × Mission)
  | .thrown "GIG_UNAVAILABLE" => .error 409 "Gig is no longer available"
  | .thrown "AGENT_NOT_FOUND" => .error 404 "Agent not found"
  | _ => .error 500 "Failed to accept gig"

def POST (agentId : Id) (caseId : Option Id) (now : Time) : Svc (Reply (Id × Mission)) :=
  match caseId with
  | none => return .error 400 "caseId required"
  | some caseId =>
      tryCatch
        (do
          let mission ← Client.transaction (accept agentId caseId now)
          return .created mission)
        fun e => pure (failure e)

end Gigs

/-! ## The moves of an agent -/

/-- The mission is that of the case, and in the state. -/
def isMissionIn (caseId : Id) (state : WorkflowState) (m : Mission) : Bool :=
  m.caseId = caseId ∧ m.workflowState = state

/-- The last review of a mission: the one with the highest number. -/
def lastReview (missionId : Id) (reviews : Table QcReview) : Option (Id × QcReview) :=
  (reviews.rows.filter fun p => p.2.missionId = missionId).argmax fun p => p.2.cycleNumber

def findLastReview (missionId : Id) : Svc (Option (Id × QcReview)) :=
  Client.query .qcReview fun d : Db => lastReview missionId d.qcReview

/-- The number of the next review. -/
def nextCycle (lastReview : Option (Id × QcReview)) : ℕ :=
  (lastReview.map fun p => p.2.cycleNumber).getD 0 + 1

/-- The item of the queue has the idempotency key. -/
def hasQueueKey (key : String) (item : OfflineQueueItem) : Bool := item.idempotencyKey = key

namespace Transitions

structure TransitionRequest where
  caseId : Option Id
  action : Option MissionAction
  reason : Option String := none
  idempotencyKey : Option String := none
  now : Time := 0
deriving DecidableEq, Repr

/-- The body of an answer. -/
structure Transitioned where
  message : String
  mission : Option Mission := none
  previousState : Option WorkflowState := none
  currentState : Option WorkflowState := none
  idempotent : Bool := false
deriving DecidableEq, Repr

/-- Whether the operation has been synced already; if it has not, it is being synced from now on. -/
def beginSync (agentId caseId : Id) : Option String → Svc Bool
  | some idempotencyKey => do
      let existing ← Client.findFirst Db.offlineQueueItems (hasQueueKey idempotencyKey)
      if (existing.map fun p => p.2.status) = some .synced then
        return true
      else do
        Client.upsert Db.offlineQueueItems (hasQueueKey idempotencyKey)
          { agentId, missionId := some caseId, idempotencyKey, status := .syncing }
          fun item => { item with status := .syncing }
        return false
  | none => return false

def endSync : Option String → Svc Unit
  | some idempotencyKey =>
      Client.updateUnique Db.offlineQueueItems (hasQueueKey idempotencyKey) .recordNotFound
        fun item => { item with status := .synced }
  | none => return ()

/-- What the conditional update writes: the new state, and what goes with the action. -/
def advance (action : MissionAction) (newState : WorkflowState) (reason : Option String)
    (mission : Mission) (now : Time) (m : Mission) : Mission :=
  let m := { m with workflowState := newState }
  match action with
  | .escalate =>
      { m with escalated := true, escalationReason := nonEmpty reason, escalatedAt := some now }
  | .submit => { m with submittedAt := some now }
  | .startTravel => { m with acceptedAt := mission.acceptedAt.or (some now) }
  | _ => m

/-- The text of a transition that is valid. -/
def validMessage (action : MissionAction) (src dst : WorkflowState) : String :=
  let name := action.text
  let previous := src.text
  let state := dst.text
  s!"Transition '{name}' from '{previous}' to '{state}' is valid."

/-- A submitted mission enters its review at once, by a plain update. -/
def enterQc (caseId missionId : Id) (previousState : WorkflowState) : Svc (Reply Transitioned) := do
  Client.update Db.missions .recordNotFound missionId fun m => { m with workflowState := .qcReview }
  let lastQcReview ← findLastReview missionId
  let cycleNumber := nextCycle lastQcReview
  record Db.qcReviews { missionId, cycleNumber, state := .pending }
  Client.update Db.missions .recordNotFound missionId fun m =>
    { m with qcReviewCount := cycleNumber }
  record Db.auditEvents ⟨"MISSION_ENTER_QC", some missionId⟩
  let finalMission ← Client.findFirst Db.missions (isMissionOf caseId)
  return .ok {
    message := s!"Mission transitioned to QC_REVIEW (cycle #{cycleNumber})"
    mission := finalMission.map Prod.snd
    previousState := some previousState
    currentState := some .qcReview }

/-- The conditional update, and what follows from it. -/
def move (caseId missionId : Id) (mission : Mission) (action : MissionAction)
    (newState : WorkflowState) (r : TransitionRequest) : Svc (Reply Transitioned) := do
  let count ← Client.updateMany Db.missions (isMissionIn caseId mission.workflowState)
    (advance action newState r.reason mission r.now)
  if count = 0 then
    return .refused 409 MissionTransitionError.missionStateConflict.text
      "Mission state was modified concurrently. Please refresh and try again."
  else do
    let updatedMission ← Client.findFirst Db.missions (isMissionOf caseId)
    record Db.auditEvents ⟨"MISSION_" ++ action.text, some missionId⟩
    if newState = .submitted then
      enterQc caseId missionId mission.workflowState
    else do
      endSync (nonEmpty r.idempotencyKey)
      return .ok {
        message := validMessage action mission.workflowState newState
        mission := updatedMission.map Prod.snd
        previousState := some mission.workflowState
        currentState := some newState }

/-- The mission is read, and the move is checked against what has been read. -/
def transition (agentId caseId : Id) (action : MissionAction) (r : TransitionRequest) :
    Svc (Reply Transitioned) := do
  match ← Client.findFirst Db.missions (isMissionOf caseId) with
  | none => return .refused 404 MissionTransitionError.missionNotFound.text "Mission not found"
  | some (missionId, mission) =>
      let state := mission.workflowState.text
      if mission.agentId ≠ agentId then
        return .refused 403 MissionTransitionError.agentOwnershipRequired.text
          "Agent does not own this mission"
      else if mission.workflowState ∈ terminalStates then
        return .refused 422 MissionTransitionError.invalidTransition.text
          s!"Mission is in terminal state: {state}"
      else
        match validateTransition mission.workflowState action .agent r.reason with
        | .error refusal =>
            return .refused (if refusal.error = .unauthorizedTransition then 403 else 422)
              refusal.error.text refusal.message
        | .ok newState => move caseId missionId mission action newState r

def process (agentId : Id) (r : TransitionRequest) : Svc (Reply Transitioned) :=
  match r.caseId, r.action with
  | some caseId, some action => do
      let alreadySynced ← beginSync agentId caseId (nonEmpty r.idempotencyKey)
      if alreadySynced then
        return .ok { message := "Already synced", idempotent := true }
      else
        transition agentId caseId action r
  | _, _ => return .error 400 "caseId and action are required"

def POST (agentId : Id) (r : TransitionRequest) : Svc (Reply Transitioned) :=
  tryCatch (process agentId r) fun _ => pure (.error 500 "Failed to process mission transition")

end Transitions

/-! ## Escalation and submission beside the transitions -/

namespace AgentActions

/-- A command to `PUT /api/missions`; the action is "escalate", "submit" or any other text. -/
structure Command where
  caseId : Option Id
  action : String
  reason : Option String := none
  escalationType : Option String := none
  severity : Option String := none
  now : Time := 0
deriving DecidableEq, Repr

/-- The body of an answer. -/
structure Answered where
  mission : Option Mission
  qcCycleNumber : Option ℕ := none
deriving DecidableEq, Repr

/-- What `updated!.id` throws when there is no row. -/
def notRead : Failure := .thrown "Cannot read properties of null (reading 'id')"

def escalated (c : Command) (reason : String) (newState : WorkflowState) (m : Mission) : Mission :=
  { m with
    escalated := true
    escalationReason := some reason
    escalationType := some ((nonEmpty c.escalationType).getD "OPERATIONAL")
    escalationSeverity := some ((nonEmpty c.severity).getD "MEDIUM")
    workflowState := newState
    escalatedAt := some c.now }

def submitted (now : Time) (newState : WorkflowState) (m : Mission) : Mission :=
  { m with workflowState := newState, submittedAt := some now }

/-- The answer to a move that the map refuses. -/
def refusal (refused : Refusal MissionTransitionError) : Reply Answered :=
  .refused (if refused.error = .unauthorizedTransition then 403 else 422) refused.error.text
    refused.message

/-- The conditional update, and what follows from it if it has found the mission. -/
def move (caseId : Id) (mission : Mission) (f : Mission → Mission)
    (follow : Id × Mission → Svc (Reply Answered)) : Svc (Reply Answered) := do
  let count ← Client.updateMany Db.missions (isMissionIn caseId mission.workflowState) f
  if count = 0 then
    return .refused 409 MissionTransitionError.missionStateConflict.text
      "Concurrent modification detected"
  else do
    match ← Client.findFirst Db.missions (isMissionOf caseId) with
    | some updated => follow updated
    | none => throw notRead

def escalate (caseId : Id) (mission : Mission) (reason : String) (c : Command) :
    Svc (Reply Answered) :=
  match validateTransition mission.workflowState .escalate .agent (some reason) with
  | .error refused => return refusal refused
  | .ok newState =>
      move caseId mission (escalated c reason newState) fun (missionId, updated) => do
        record Db.auditEvents ⟨"MISSION_ESCALATED", some missionId⟩
        return .ok { mission := some updated }

/-- A submitted mission enters its review at once, by a plain update. -/
def enterQc (caseId missionId : Id) : Svc (Reply Answered) := do
  Client.update Db.missions .recordNotFound missionId fun m => { m with workflowState := .qcReview }
  let lastQcReview ← findLastReview missionId
  let cycleNumber := nextCycle lastQcReview
  record Db.qcReviews { missionId, cycleNumber, state := .pending }
  Client.update Db.missions .recordNotFound missionId fun m =>
    { m with qcReviewCount := cycleNumber }
  let finalMission ← Client.findFirst Db.missions (isMissionOf caseId)
  record Db.auditEvents ⟨"MISSION_SUBMITTED", some missionId⟩
  record Db.auditEvents ⟨"MISSION_ENTER_QC", some missionId⟩
  return .ok { mission := finalMission.map Prod.snd, qcCycleNumber := some cycleNumber }

def submit (caseId : Id) (mission : Mission) (c : Command) : Svc (Reply Answered) :=
  match validateTransition mission.workflowState .submit .agent none with
  | .error refused => return refusal refused
  | .ok newState =>
      move caseId mission (submitted c.now newState) fun (missionId, updated) =>
        if newState = .submitted then
          enterQc caseId missionId
        else do
          record Db.auditEvents ⟨"MISSION_SUBMITTED", some missionId⟩
          return .ok { mission := some updated }

/-- What a command asks for. -/
inductive Asked
  | escalate (reason : String)
  | submit
  | nothing
deriving DecidableEq, Repr

/-- An escalation without a reason is no action of this route. -/
def Command.asks (c : Command) : Asked :=
  match c.action, nonEmpty c.reason with
  | "escalate", some reason => .escalate reason
  | "submit", _ => .submit
  | _, _ => .nothing

def act (caseId : Id) (mission : Mission) (c : Command) : Svc (Reply Answered) :=
  match c.asks with
  | .escalate reason => escalate caseId mission reason c
  | .submit => submit caseId mission c
  | .nothing => return .error 400 "Invalid action"

def process (agentId : Id) (c : Command) : Svc (Reply Answered) :=
  match c.caseId with
  | none => throw (.thrown "Argument `where` needs at least one of `id` or `caseId` arguments.")
  | some caseId => do
      match ← Client.findFirst Db.missions (isMissionOf caseId) with
      | none => return .error 404 MissionTransitionError.missionNotFound.text
      | some (_, mission) =>
          if mission.agentId ≠ agentId then
            return .error 403 MissionTransitionError.agentOwnershipRequired.text
          else
            act caseId mission c

def PUT (agentId : Id) (c : Command) : Svc (Reply Answered) :=
  tryCatch (process agentId c) fun _ => pure (.error 500 "Failed to update mission")

end AgentActions

/-! ## The checklist -/

namespace Checklist

/-- An update of an item of the checklist. -/
structure Update where
  caseId : Option Id
  checklistId : Option String := none
  completed : Bool := false
  value : Option String := none
  photoUrl : Option String := none
  idempotencyKey : Option String := none
deriving DecidableEq, Repr

/-- The body of an answer. -/
inductive Updated
  | alreadySynced
  | mission (m : Mission)
deriving DecidableEq, Repr

def activeStates : List WorkflowState :=
  [.onSite, .executing, .submitting, .rework, .paused, .escalated]

/-- The item as the update has it. -/
def tick (r : Update) (item : ChecklistItem) : ChecklistItem :=
  { item with
    completed := r.completed
    value := (nonEmpty r.value).or item.value
    photoUrl := (nonEmpty r.photoUrl).or item.photoUrl }

/-- The first item with the id is ticked. -/
def tickFirst (r : Update) (checklistId : String) : List ChecklistItem → List ChecklistItem
  | [] => []
  | item :: items =>
      if item.id = checklistId then tick r item :: items
      else item :: tickFirst r checklistId items

/-- The checklist after the update. -/
def ticked (r : Update) (checklist : List ChecklistItem) : List ChecklistItem :=
  match nonEmpty r.checklistId with
  | some checklistId => tickFirst r checklistId checklist
  | none => checklist

/-- The mission with a new checklist, by what has been read: its state stays. -/
def progress (r : Update) (mission m : Mission) : Mission :=
  let checklist := ticked r mission.scopeSnapshot
  { m with
    scopeSnapshot := checklist
    checklistProgress := checklist.countP ChecklistItem.completed
    checklistTotal := checklist.length }

/-- What follows when the update has not been synced already. -/
def update (agentId caseId : Id) (r : Update) : Svc (Reply Updated) := do
  match ← Client.findFirst Db.missions (isMissionOf caseId) with
  | none => return .error 404 "Mission not found"
  | some (missionId, mission) =>
      let state := mission.workflowState.text
      if mission.agentId ≠ agentId then
        return .error 403 "Unauthorized"
      else if mission.workflowState ∉ activeStates then
        return .refused 422 "INVALID_STATE_FOR_CHECKLIST"
          s!"Cannot update checklist in state: {state}"
      else do
        Client.update Db.missions .recordNotFound missionId (progress r mission)
        record Db.auditEvents ⟨"CHECKLIST_UPDATED", some missionId⟩
        Transitions.endSync (nonEmpty r.idempotencyKey)
        return .ok (.mission (progress r mission mission))

def process (agentId : Id) (r : Update) : Svc (Reply Updated) :=
  match r.caseId with
  | none => return .error 400 "caseId required"
  | some caseId => do
      let alreadySynced ← Transitions.beginSync agentId caseId (nonEmpty r.idempotencyKey)
      if alreadySynced then
        return .ok .alreadySynced
      else
        update agentId caseId r

def PATCH (agentId : Id) (r : Update) : Svc (Reply Updated) :=
  tryCatch (process agentId r) fun _ => pure (.error 500 "Failed to update mission")

end Checklist

/-! ## Check-in -/

namespace CheckIn

inductive GpsRejectionReason
  | invalidCoordinates | accuracyTooLow | locationStale | outsideGeofence | missingTimestamp
deriving DecidableEq, Repr

def GpsRejectionReason.text : GpsRejectionReason → String
  | invalidCoordinates => "INVALID_COORDINATES"
  | accuracyTooLow => "ACCURACY_TOO_LOW"
  | locationStale => "LOCATION_STALE"
  | outsideGeofence => "OUTSIDE_GEOFENCE"
  | missingTimestamp => "MISSING_TIMESTAMP"

def GpsRejectionReason.status : GpsRejectionReason → ℕ
  | invalidCoordinates => 400
  | accuracyTooLow => 422
  | locationStale => 422
  | outsideGeofence => 403
  | missingTimestamp => 400

/-- A location, as the validation against the geofence has found it: why it is rejected, if it
is. -/
structure CheckInRequest where
  caseId : Option Id
  rejection : Option GpsRejectionReason := none
deriving DecidableEq, Repr

/-- The states in which a check-in is looked at. -/
def checkInStates : List WorkflowState := [.enRoute, .paused, .escalated]

/-- The move on site, once the location is valid. -/
def arrive (agentId caseId missionId : Id) (mission : Mission) :
    Svc (Reply (Option Mission)) :=
  match validateTransition mission.workflowState .checkIn .agent none with
  | .error refusal =>
      return .refused (if refusal.error = .unauthorizedTransition then 403 else 422)
        refusal.error.text refusal.message
  | .ok newState => do
      let count ← Client.updateMany Db.missions (isMissionIn caseId mission.workflowState)
        fun m => { m with workflowState := newState }
      if count = 0 then
        return .refused 409 MissionTransitionError.missionStateConflict.text
          "Mission state was modified concurrently. Please refresh and try again."
      else do
        let updatedMission ← Client.findFirst Db.missions (isMissionOf caseId)
        let idempotencyKey := s!"checkin-{caseId}"
        Client.upsert Db.offlineQueueItems (hasQueueKey idempotencyKey)
          { agentId, missionId := some caseId, idempotencyKey, status := .synced }
          fun item => { item with status := .synced }
        record Db.auditEvents ⟨"GPS_CHECKIN_PASSED", some missionId⟩
        return .ok (updatedMission.map Prod.snd)

/-- The check of the location is recorded whatever it comes to. -/
def check (agentId caseId missionId : Id) (mission : Mission)
    (rejection : Option GpsRejectionReason) : Svc (Reply (Option Mission)) := do
  record Db.gpsChecks
    { missionId, agentId, result := if rejection.isNone then .pass else .fail }
  match rejection with
  | some reason => do
      record Db.auditEvents ⟨"GPS_CHECKIN_FAILED", some missionId⟩
      return .error reason.status ("GPS_" ++ reason.text)
  | none => arrive agentId caseId missionId mission

def process (agentId : Id) (r : CheckInRequest) : Svc (Reply (Option Mission)) :=
  match r.caseId with
  | none => return .error 400 "caseId, lat, lng are required"
  | some caseId => do
      match ← Client.findFirst Db.missions (isMissionOf caseId) with
      | none => return .error 404 "Mission not found"
      | some (missionId, mission) =>
          let state := mission.workflowState.text
          if mission.agentId ≠ agentId then
            return .error 403 MissionTransitionError.agentOwnershipRequired.text
          else if mission.workflowState ∉ checkInStates then
            return .refused 422 MissionTransitionError.invalidTransition.text
              s!"GPS check-in requires EN_ROUTE state. Current state: {state}"
          else
            check agentId caseId missionId mission r.rejection

def POST (agentId : Id) (r : CheckInRequest) : Svc (Reply (Option Mission)) :=
  tryCatch (process agentId r) fun _ => pure (.error 500 "Failed to process GPS check-in")

end CheckIn

/-! ## Evidence -/

namespace Evidence

structure File where
  type : String
  size : ℕ
deriving DecidableEq, Repr

def allowedMimeTypes : List String :=
  ["image/jpeg", "image/png", "image/webp", "image/heic", "image/heif", "video/mp4",
    "video/quicktime", "video/webm", "application/pdf"]

/-- The category of a type, and its maximal size. -/
def categoryOf (mimeType : String) : String × ℕ :=
  if mimeType.startsWith "image/" then ("image", 20 * 1024 * 1024)
  else if mimeType.startsWith "video/" then ("video", 200 * 1024 * 1024)
  else ("document", 10 * 1024 * 1024)

/-- What is wrong with a file, if anything is. -/
def validateMedia (file : File) : Option String :=
  let mimeType := file.type
  let size := file.size
  let category := (categoryOf mimeType).1
  let maxSize := (categoryOf mimeType).2
  if mimeType ∉ allowedMimeTypes then some s!"Unsupported media type: {mimeType}"
  else if size > maxSize then
    some s!"File too large for {category}: {size} bytes (max: {maxSize})"
  else none

/-- An upload.  `bolaCheck` is what the check of the ownership comes to: the route returns it
unless it is none.  The check is asynchronous and the route does not wait for it, so that in fact it
always is something, and no upload gets any further. -/
structure Upload where
  caseId : Option Id
  file : Option File
  idempotencyKey : Option String := none
  bolaCheck : Option (Reply Id) := some (.error 500 "Internal Server Error")

def hasEvidenceKey (key : String) (e : EvidenceItem) : Bool := e.idempotencyKey = some key

/-- The intake of a file: the item that is known under the key, or a new one. -/
def intakeEvidence (missionId agentId : Id) (idempotencyKey : Option String) : Svc Id := do
  let existing ← Client.query .evidenceItem fun d : Db =>
    (nonEmpty idempotencyKey).bind fun key => Db.evidenceItems.find (hasEvidenceKey key) d
  match existing with
  | some (evidenceId, _) => return evidenceId
  | none => Client.transaction (Client.create Db.evidenceItems { missionId, agentId, idempotencyKey })

/-- Evidence for all that is on the checklist completes the execution. -/
def completes (mission : Mission) : Bool :=
  mission.checklistProgress ≥ mission.checklistTotal ∧ mission.checklistTotal > 0 ∧
    mission.workflowState = .executing

/-- What the plain update writes, by what has been read. -/
def count (mission m : Mission) : Mission :=
  { m with
    evidenceCount := mission.evidenceCount + 1
    workflowState := if completes mission then .submitting else m.workflowState }

/-- What follows when the ownership is not in the way. -/
def store (agentId missionId : Id) (mission : Mission) (file : File)
    (idempotencyKey : Option String) : Svc (Reply Id) :=
  match validateMedia file with
  | some error => return .error 400 error
  | none => do
      let evidenceId ← intakeEvidence missionId agentId idempotencyKey
      Client.update Db.missions .recordNotFound missionId (count mission)
      record Db.auditEvents ⟨"EVIDENCE_UPLOADED", some evidenceId⟩
      return .ok evidenceId

def process (agentId : Id) (r : Upload) : Svc (Reply Id) :=
  match r.caseId, r.file with
  | some caseId, some file => do
      match ← Client.findFirst Db.missions (isMissionOf caseId) with
      | none => return .error 404 "Mission not found"
      | some (missionId, mission) =>
          match r.bolaCheck with
          | some refusal => return refusal
          | none => store agentId missionId mission file r.idempotencyKey
  | _, _ => return .error 400 "caseId and file are required"

def POST (agentId : Id) (r : Upload) : Svc (Reply Id) :=
  tryCatch (process agentId r) fun _ => pure (.error 500 "Failed to upload evidence")

end Evidence

end Asoju.FieldForce
