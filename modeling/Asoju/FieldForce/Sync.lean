/-
The queue of the operations that an agent makes offline (`POST /api/sync`).

A mutation of the batch is entered into the queue under its idempotency key, checked for a conflict
with the server, and marked as synced; one that has been synced already is left alone.  The
operation itself is dispatched by a stub, which always succeeds.
-/
import Asoju.FieldForce.Missions

namespace Asoju.FieldForce

open Lib

namespace Sync

inductive ConflictPolicy
  | appendOnly | serverWins | clientWins | manualReview
deriving DecidableEq, Repr

def resourceConflictPolicies : List (String × ConflictPolicy) :=
  [("Evidence", .appendOnly), ("GpsCheck", .appendOnly), ("ChecklistEvent", .appendOnly),
    ("Mission", .serverWins), ("WalletAccount", .serverWins), ("WalletEntry", .serverWins),
    ("Payout", .serverWins), ("JournalEntry", .serverWins), ("Expense", .appendOnly)]

def getConflictPolicy (resourceType : String) : ConflictPolicy :=
  (resourceConflictPolicies.lookup resourceType).getD .serverWins

/-- A mutation of the batch; of its payload, the state that the client expects. -/
structure SyncEnvelope where
  operationType : String
  resourceType : Option String := none
  resourceId : Option Id := none
  workflowState : Option String := none
  idempotencyKey : String
  missionId : Option Id := none
deriving DecidableEq, Repr

structure SyncResult where
  success : Bool := false
  status : SyncQueueStatus := .synced
  error : Option Failure := none
deriving DecidableEq, Repr

/-- Whether the mission is no longer in the state that the client expects. -/
def detectConflict (envelope : SyncEnvelope) (resourceType : String) (resourceId : Id) :
    Svc Bool := do
  if resourceType = "Mission" ∧ envelope.operationType = "MISSION_TRANSITION" then do
    let mission ← Client.findUnique Db.missions resourceId
    return match mission, nonEmpty envelope.workflowState with
      | some m, some clientExpectedState => m.workflowState.text ≠ clientExpectedState
      | _, _ => false
  else return false

def markQueueItemSynced (idempotencyKey : String) : Svc Unit := do
  let _ ← Client.updateMany Db.offlineQueueItems (hasQueueKey idempotencyKey) fun item =>
    { item with status := .synced }

def markQueueItemFailed (idempotencyKey : String) : Svc Unit := do
  match ← Client.findFirst Db.offlineQueueItems (hasQueueKey idempotencyKey) with
  | none => return ()
  | some (_, item) =>
      let newRetryCount := item.retryCount + 1
      Client.updateUnique Db.offlineQueueItems (hasQueueKey idempotencyKey) .recordNotFound
        fun item =>
          { item with
            status := if newRetryCount ≥ item.maxRetries then .failed else .queued
            retryCount := newRetryCount }

/-- The operation is dispatched, and marked as synced. -/
def finish (envelope : SyncEnvelope) : Svc SyncResult := do
  markQueueItemSynced envelope.idempotencyKey
  return { success := true }

def markQueueItemUploading (idempotencyKey : String) (known : Bool) : Svc Unit :=
  if known then
    Client.updateUnique Db.offlineQueueItems (hasQueueKey idempotencyKey) .recordNotFound
      fun item => { item with status := .uploading }
  else return ()

/-- What follows when the operation has not been synced already. -/
def upload (envelope : SyncEnvelope) (known : Bool) : Svc SyncResult := do
  markQueueItemUploading envelope.idempotencyKey known
  match nonEmpty envelope.resourceType, envelope.resourceId with
  | some resourceType, some resourceId => do
      let hasConflict ← detectConflict envelope resourceType resourceId
      match hasConflict, getConflictPolicy resourceType with
      -- The state of the server stands, and the operation is not applied.
      | true, .serverWins => return { success := true }
      | true, .manualReview => return { status := .conflict }
      | _, _ => finish envelope
  | _, _ => finish envelope

def process (envelope : SyncEnvelope) : Svc SyncResult := do
  let existing ← Client.findFirst Db.offlineQueueItems (hasQueueKey envelope.idempotencyKey)
  if (existing.map fun p => p.2.status) = some .synced then
    return { success := true }
  else
    upload envelope existing.isSome

def processSyncMutation (envelope : SyncEnvelope) : Svc SyncResult :=
  tryCatch (process envelope) fun e => do
    markQueueItemFailed envelope.idempotencyKey
    return { status := .failed, error := some e }

/-- The result of a mutation of the batch. -/
structure Entry where
  idempotencyKey : String
  status : SyncQueueStatus
  success : Option Bool := none
  error : Option Failure := none
  alreadyProcessed : Bool := false
deriving DecidableEq, Repr

/-- The item of the queue is created if there is none. -/
def createQueueItem (agentId : Id) (mutation : SyncEnvelope) (known : Bool) : Svc Unit :=
  if known then return ()
  else do
    let _ ← Client.createUnique Db.offlineQueueItems (hasQueueKey mutation.idempotencyKey)
      .uniqueConstraint
      { agentId, missionId := mutation.missionId, idempotencyKey := mutation.idempotencyKey }

def enqueue (agentId : Id) (mutation : SyncEnvelope) : Svc Entry := do
  let idempotencyKey := mutation.idempotencyKey
  let existing ← Client.findFirst Db.offlineQueueItems (hasQueueKey idempotencyKey)
  if (existing.map fun p => p.2.status) = some .synced then
    return { idempotencyKey, status := .synced, alreadyProcessed := true }
  else do
    createQueueItem agentId mutation existing.isSome
    let result ← processSyncMutation mutation
    return {
      idempotencyKey
      status := result.status
      success := some result.success
      error := result.error }

def enqueueAll (agentId : Id) : List SyncEnvelope → Svc (List Entry)
  | [] => return []
  | mutation :: mutations => do
      let result ← enqueue agentId mutation
      let results ← enqueueAll agentId mutations
      return result :: results

/-- The body of an answer. -/
structure Synced where
  synced : ℕ
  failed : ℕ
  conflicts : ℕ
  results : List Entry
deriving DecidableEq, Repr

def hasStatus (status : SyncQueueStatus) (entry : Entry) : Bool := entry.status = status

def syncAll (agentId : Id) (mutations : List SyncEnvelope) : Svc (Reply Synced) := do
  if mutations = [] then
    return .error 400 "mutations array is required"
  else if mutations.length > 50 then
    return .error 400 "Maximum 50 mutations per sync batch"
  else do
    let results ← enqueueAll agentId mutations
    return .ok {
      synced := results.countP (hasStatus .synced)
      failed := results.countP (hasStatus .failed)
      conflicts := results.countP (hasStatus .conflict)
      results }

def POST (agentId : Id) (mutations : List SyncEnvelope) : Svc (Reply Synced) :=
  tryCatch (syncAll agentId mutations) fun _ => pure (.error 500 "Sync failed")

end Sync

end Asoju.FieldForce
