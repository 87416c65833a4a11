/-
The outbox of FieldForce: events are published with the mutation that they tell of, claimed by a
worker and delivered.

A message is PENDING when it is published, PROCESSING once a worker has claimed it, and DELIVERED or
FAILED after its delivery; one that has failed too often is a DEAD_LETTER, which an administrator
may replay.  A claim is a conditional update.  A worker delivers whatever is PROCESSING, and writes the
result of a delivery by a plain update.  The deliveries themselves are kept as rows of the world
outside: one is created when the function that delivers is called, and finished when it answers.
-/
import Asoju.FieldForce.Schema
import Asoju.Lib.Sorting

namespace Asoju.FieldForce

open Lib

namespace Outbox

inductive EventType
  | missionCreated | missionAssigned | missionTransitioned | missionCompleted | missionFailed
  | missionEscalated | caseCreated | caseStatusChanged | payoutRequested | payoutProcessing
  | payoutSuccess | payoutFailed | payoutReversed | journalPosted | journalReversed
  | financeException | qcStarted | qcApproved | qcRejected | qcReworkRequested
  | customerPaymentReceived | customerCaseUpdated | integrationSync
deriving DecidableEq, Repr

def EventType.text : EventType → String
  | missionCreated => "MISSION_CREATED"
  | missionAssigned => "MISSION_ASSIGNED"
  | missionTransitioned => "MISSION_TRANSITIONED"
  | missionCompleted => "MISSION_COMPLETED"
  | missionFailed => "MISSION_FAILED"
  | missionEscalated => "MISSION_ESCALATED"
  | caseCreated => "CASE_CREATED"
  | caseStatusChanged => "CASE_STATUS_CHANGED"
  | payoutRequested => "PAYOUT_REQUESTED"
  | payoutProcessing => "PAYOUT_PROCESSING"
  | payoutSuccess => "PAYOUT_SUCCESS"
  | payoutFailed => "PAYOUT_FAILED"
  | payoutReversed => "PAYOUT_REVERSED"
  | journalPosted => "JOURNAL_POSTED"
  | journalReversed => "JOURNAL_REVERSED"
  | financeException => "FINANCE_EXCEPTION"
  | qcStarted => "QC_STARTED"
  | qcApproved => "QC_APPROVED"
  | qcRejected => "QC_REJECTED"
  | qcReworkRequested => "QC_REWORK_REQUESTED"
  | customerPaymentReceived => "CUSTOMER_PAYMENT_RECEIVED"
  | customerCaseUpdated => "CUSTOMER_CASE_UPDATED"
  | integrationSync => "INTEGRATION_SYNC"

inductive OutboxStatus
  | pending | processing | delivered | failed | deadLetter
deriving DecidableEq, Repr

structure OutboxMessage where
  aggregateType : String
  aggregateId : String
  eventType : EventType
  eventVersion : String := "1"
  payload : String
  source : String := "FIELDFORCE"
  status : OutboxStatus := .pending
  attempts : ℕ := 0
  maxAttempts : ℕ := 5
  nextRetryAt : Option Time := none
  /-- The error whose message is kept. -/
  lastError : Option Failure := none
  lastAttemptAt : Option Time := none
  targetUrl : Option String := none
  targetType : String := "WEBHOOK"
  /-- Unique. -/
  idempotencyKey : String
  correlationId : Option String := none
  claimedAt : Option Time := none
  deliveredAt : Option Time := none
  deadLetteredAt : Option Time := none
  createdAt : Time
deriving DecidableEq, Repr

/-- A delivery of a message, in the world outside. -/
structure Delivery where
  messageId : Id
  finished : Bool := false
deriving DecidableEq, Repr

structure Store where
  outboxMessage : Table OutboxMessage := .empty
  delivery : Table Delivery := .empty

inductive Model
  | outboxMessage | delivery
deriving DecidableEq, Repr

def outboxMessages : TableOf Store Model OutboxMessage :=
  ⟨.outboxMessage, Store.outboxMessage, fun t s => { s with outboxMessage := t }, fun _ _ => rfl⟩

def deliveries : TableOf Store Model Delivery :=
  ⟨.delivery, Store.delivery, fun t s => { s with delivery := t }, fun _ _ => rfl⟩

/-- A program over the outbox. -/
abbrev Work (α : Type) := Prog Store (Access Model) Failure α

/-! ## Publication -/

structure PublishEventInput where
  aggregateType : String
  aggregateId : String
  eventType : EventType
  eventVersion : Option String := none
  payload : String
  source : Option String := none
  targetUrl : Option String := none
  targetType : Option String := none
  correlationId : Option String := none
deriving DecidableEq, Repr

def eventKey (input : PublishEventInput) (now : Time) : String :=
  let event := input.eventType.text
  let aggregateType := input.aggregateType
  let aggregateId := input.aggregateId
  s!"evt_{event}_{aggregateType}_{aggregateId}_{now}"

def hasEventKey (key : String) (m : OutboxMessage) : Bool := m.idempotencyKey = key

/-- The message that is published. -/
def newMessage (input : PublishEventInput) (now : Time) : OutboxMessage where
  aggregateType := input.aggregateType
  aggregateId := input.aggregateId
  eventType := input.eventType
  eventVersion := input.eventVersion.getD "1"
  payload := input.payload
  source := input.source.getD "FIELDFORCE"
  targetUrl := input.targetUrl
  targetType := input.targetType.getD "INTERNAL"
  idempotencyKey := eventKey input now
  correlationId := input.correlationId
  status := .pending
  maxAttempts := 5
  createdAt := now

def publishEvent (input : PublishEventInput) (now : Time) : Work Id :=
  Client.createUnique outboxMessages (hasEventKey (eventKey input now)) .uniqueConstraint
    (newMessage input now)

/-! ## Claims -/

/-- The status is one from which a message is claimed. -/
def isOpen (m : OutboxMessage) : Bool := m.status ∈ [OutboxStatus.pending, .failed]

/-- The condition under which a message is selected for a claim.  A comparison with a column that is
null does not hold. -/
def isReady (now : Time) (m : OutboxMessage) : Bool :=
  isOpen m && m.nextRetryAt.any fun nextRetryAt => nextRetryAt ≤ now

/-- The messages that are ready, the oldest first. -/
def ready (now : Time) (limit : ℕ) (s : Store) : List (Id × OutboxMessage) :=
  (sortAsc (fun p => p.2.createdAt)
    (s.outboxMessage.rows.filter fun p => isReady now p.2)).take limit

structure ClaimResult where
  claimed : ℕ
  errors : List Failure
deriving DecidableEq, Repr

/-- Claim each of the messages that is still open. -/
def claimAll (now : Time) : List (Id × OutboxMessage) → ℕ → Work ℕ
  | [], claimedCount => return claimedCount
  | (messageId, _) :: messages, claimedCount => do
      let count ← Client.updateIf outboxMessages messageId isOpen fun m =>
        { m with status := .processing, claimedAt := some now, attempts := m.attempts + 1 }
      claimAll now messages (claimedCount + if count > 0 then 1 else 0)

def claimPendingMessages (limit : ℕ) (now : Time) : Work ClaimResult :=
  tryCatch
    (do
      let messages ← Client.query .outboxMessage (ready now limit)
      let claimed ← claimAll now messages 0
      return ⟨claimed, []⟩)
    fun e => pure ⟨0, [e]⟩

/-! ## Deliveries -/

/-- What the function that delivers comes to. -/
inductive Outcome
  | answered (success : Bool) (error : Option Failure)
  | thrown (e : Failure)
deriving DecidableEq, Repr

/-- A run of a worker over what has been claimed: what the delivery of each message comes to, and
the time at which its result is written. -/
structure Batch where
  outcome : Id → Outcome
  now : Id → Time

/-- The delivery is over. -/
def finish (d : Delivery) : Delivery := { d with finished := true }

/-- The function that delivers is called, and answers. -/
def deliver (messageId : Id) (outcome : Outcome) : Work (Bool × Option Failure) := do
  let deliveryId ← Client.create deliveries { messageId }
  let _ ← Client.updateIf deliveries deliveryId (fun _ => true) finish
  match outcome with
  | .answered success error => return (success, error)
  | .thrown e => throw e

/-- The delay after an attempt that has failed, in milliseconds: `2000 * 2 ^ (attempt - 1)`, and
five minutes at most. -/
def backoff (currentAttempt : ℕ) : Time := min (2000 * 2 ^ currentAttempt / 2) (5 * 60 * 1000)

/-- The message after an attempt that has failed.  Without an error, the last one stays. -/
def markFailed (currentAttempt maxAttempts : ℕ) (error : Option Failure) (now : Time)
    (m : OutboxMessage) : OutboxMessage :=
  if currentAttempt ≥ maxAttempts then
    { m with
      status := .deadLetter
      deadLetteredAt := some now
      lastError := error.or m.lastError
      lastAttemptAt := some now }
  else
    { m with
      status := .failed
      nextRetryAt := some (now + backoff currentAttempt)
      lastError := error.or m.lastError
      lastAttemptAt := some now }

/-- The message after its delivery. -/
def markDelivered (now : Time) (m : OutboxMessage) : OutboxMessage :=
  { m with status := .delivered, deliveredAt := some now, lastAttemptAt := some now }

def markMessageFailed (messageId : Id) (currentAttempt maxAttempts : ℕ) (error : Option Failure)
    (now : Time) : Work Unit :=
  Client.update outboxMessages .recordNotFound messageId
    (markFailed currentAttempt maxAttempts error now)

/-- One message is delivered, and the result is written. -/
def deliverOne (b : Batch) (messageId : Id) (msg : OutboxMessage) : Work Bool :=
  tryCatch
    (do
      let (success, error) ← deliver messageId (b.outcome messageId)
      if success then do
        Client.update outboxMessages .recordNotFound messageId (markDelivered (b.now messageId))
        return true
      else do
        markMessageFailed messageId msg.attempts msg.maxAttempts error (b.now messageId)
        return false)
    fun e => do
      markMessageFailed messageId msg.attempts msg.maxAttempts (some e) (b.now messageId)
      return false

structure DeliveryResult where
  delivered : ℕ := 0
  failed : ℕ := 0
  deadLettered : ℕ := 0
deriving DecidableEq, Repr

def deliverAll (b : Batch) : List (Id × OutboxMessage) → DeliveryResult → Work DeliveryResult
  | [], result => return result
  | (messageId, msg) :: messages, result => do
      let delivered ← deliverOne b messageId msg
      deliverAll b messages
        (if delivered then { result with delivered := result.delivered + 1 }
        else { result with failed := result.failed + 1 })

/-- What is PROCESSING, the oldest first. -/
def claimed (s : Store) : List (Id × OutboxMessage) :=
  (sortAsc (fun p => p.2.createdAt)
    (s.outboxMessage.rows.filter fun p => p.2.status = .processing)).take 50

lemma claimed_nodup (s : Store) : ((claimed s).map Prod.fst).Nodup := by
  have hrows : (s.outboxMessage.rows.map Prod.fst).Nodup := s.outboxMessage.nodup
  have hsorted : ((sortAsc (fun p : Id × OutboxMessage => p.2.createdAt)
      (s.outboxMessage.rows.filter fun p => p.2.status = .processing)).map Prod.fst).Nodup := by
    refine ((List.perm_insertionSort _ _).map Prod.fst).nodup_iff.mpr ?_
    exact hrows.sublist (List.filter_sublist.map Prod.fst)
  exact hsorted.sublist ((List.take_sublist 50 _).map Prod.fst)

/-- The messages that are selected for delivery are there, and PROCESSING. -/
lemma get?_of_mem_claimed {s : Store} {p : Id × OutboxMessage} (h : p ∈ claimed s) :
    s.outboxMessage.get? p.1 = some p.2 ∧ p.2.status = .processing := by
  have hmem := mem_sortAsc _ |>.mp (List.mem_of_mem_take h)
  rw [List.mem_filter] at hmem
  exact ⟨(Table.mem_rows_iff _).mp hmem.1, of_decide_eq_true hmem.2⟩

def processClaimedMessages (b : Batch) : Work DeliveryResult := do
  let messages ← Client.query .outboxMessage claimed
  deliverAll b messages {}

/-! ## Replays -/

structure ReplayResult where
  success : Bool
  error : Option String := none
deriving DecidableEq, Repr

/-- The message that is replayed, by what has been read. -/
def replayed (message : OutboxMessage) (newMaxAttempts : Option ℕ) (now : Time)
    (m : OutboxMessage) : OutboxMessage :=
  { m with
    status := .pending
    attempts := 0
    maxAttempts := newMaxAttempts.getD message.maxAttempts
    nextRetryAt := some now
    deadLetteredAt := none
    lastError := none }

def replayDeadLetter (messageId : Id) (newMaxAttempts : Option ℕ) (now : Time) :
    Work ReplayResult := do
  match ← Client.findUnique outboxMessages messageId with
  | none => return ⟨false, some "Message not found"⟩
  | some message =>
      if message.status ≠ .deadLetter then
        return ⟨false, some "Message is not in DEAD_LETTER status"⟩
      else do
        Client.update outboxMessages .recordNotFound messageId
          (replayed message newMaxAttempts now)
        return ⟨true, none⟩

end Outbox

end Asoju.FieldForce
