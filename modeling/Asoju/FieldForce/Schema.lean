/-
The database of FieldForce: the tables and columns that the modelled routes read and write.

FieldForce is the application of the agents in the field.  Its money amounts are whole naira.  The
times of a call are arguments of the call.  A column that names a case or another row holds the key
of that row; a line of the journal names its account by the account's code, which is unique and
never changes.
-/
import Asoju.Lib.Client
import Mathlib.Algebra.Order.Ring.Int

namespace Asoju.FieldForce

open Lib

abbrev Id := ℕ

/-- Milliseconds. -/
abbrev Time := ℤ

/-! ## Enumerations -/

inductive WorkflowState
  | accepted | enRoute | onSite | executing | submitting | submitted | qcReview | completed
  | escalated | paused | reassigned | rework | cancelled | failed
deriving DecidableEq, Repr

inductive QcState
  | pending | inReview | approved | rejected
deriving DecidableEq, Repr

inductive GpsCheckResult
  | pass | fail | exception
deriving DecidableEq, Repr

inductive PayoutStatus
  | requested | processing | success | failed | reversed
deriving DecidableEq, Repr

inductive SyncQueueStatus
  | queued | syncing | uploading | synced | failed | conflict
deriving DecidableEq, Repr

inductive GigStatus
  | available | claimed | expired
deriving DecidableEq, Repr

inductive CaseStatus
  | opened | quoted | paymentPending | accepted | inProgress | underReview | completed | cancelled
  | failed
deriving DecidableEq, Repr

inductive QuoteStatus
  | pending | accepted | rejected | expired
deriving DecidableEq, Repr

/-- The codes of the chart of accounts. -/
inductive AccountCode
  | agentPendingEarnings | agentAvailableBalance | asojuFeesRevenue | payoutEscrow | payoutPayable
  | customerPayments | customerPayable | adjustment
deriving DecidableEq, Repr

inductive Direction
  | debit | credit
deriving DecidableEq, Repr

inductive EntryStatus
  | posted | reversed
deriving DecidableEq, Repr

inductive WalletEntryType
  | missionEarning | payout
deriving DecidableEq, Repr

/-! ## Rows -/

structure Agent where
  totalMissionsCompleted : ℤ := 0
  totalEarnings : ℤ := 0
  currentBalance : ℤ := 0
deriving DecidableEq, Repr

structure Case where
  customerId : Id := 0
  priority : String := "NORMAL"
  status : CaseStatus := .opened
  quoteAmount : ℤ := 0
  agentPayout : ℤ := 0
  asojuFee : ℤ := 0
  paymentStatus : String := "PENDING"
  paymentMethod : Option String := none
  slaCompletedAt : Option Time := none
  qcStatus : Option QcState := none
  missionState : Option WorkflowState := none
  completedAt : Option Time := none
  cancelledAt : Option Time := none
  cancelReason : Option String := none
deriving DecidableEq, Repr

structure Quote where
  caseId : Id
  amount : ℤ
  status : QuoteStatus := .pending
  expiresAt : Option Time := none
  acceptedAt : Option Time := none
deriving DecidableEq, Repr

/-- An item of the checklist in the scope of a case. -/
structure ChecklistItem where
  id : String
  completed : Bool := false
  value : Option String := none
  photoUrl : Option String := none
deriving DecidableEq, Repr

structure Mission where
  /-- Unique. -/
  caseId : Id
  agentId : Id
  payoutAmount : ℤ
  asojuFee : ℤ := 0
  netPayout : ℤ
  workflowState : WorkflowState := .accepted
  /-- The checklist in the snapshot of the scope; a snapshot without one has none. -/
  scopeSnapshot : List ChecklistItem := []
  checklistProgress : ℤ := 0
  checklistTotal : ℤ := 0
  evidenceCount : ℤ := 0
  qcReviewCount : ℕ := 0
  escalated : Bool := false
  escalationReason : Option String := none
  escalationType : Option String := none
  escalationSeverity : Option String := none
  escalatedAt : Option Time := none
  acceptedAt : Option Time := none
  submittedAt : Option Time := none
  completedAt : Option Time := none
deriving DecidableEq, Repr

structure MissionAssignment where
  missionId : Id
  agentId : Id
  acceptedAt : Option Time := none
deriving DecidableEq, Repr

structure GpsCheck where
  missionId : Id
  agentId : Id
  result : GpsCheckResult
deriving DecidableEq, Repr

structure EvidenceItem where
  missionId : Id
  agentId : Id
  idempotencyKey : Option String := none
deriving DecidableEq, Repr

/-- All gates must pass before a mission can be marked COMPLETED. -/
structure CompletionGate where
  qcApproved : Bool
  evidenceValid : Bool
  gpsCheckinValid : Bool
  requiredFieldsComplete : Bool
  financialReady : Bool
deriving DecidableEq, Repr

structure QcReview where
  missionId : Id
  cycleNumber : ℕ := 1
  state : QcState := .pending
  reviewerId : Option Id := none
  rejectionReason : Option String := none
  reworkInstructions : Option String := none
  gateResults : Option CompletionGate := none
  startedAt : Option Time := none
  completedAt : Option Time := none
deriving DecidableEq, Repr

structure WalletAccount where
  /-- Unique. -/
  agentId : Id
  pendingBalance : ℤ := 0
  availableBalance : ℤ := 0
  totalEarnings : ℤ := 0
  totalPaid : ℤ := 0
deriving DecidableEq, Repr

structure WalletEntry where
  agentId : Id
  walletAccountId : Id
  type : WalletEntryType
  amount : ℤ
  referenceId : Option Id := none
deriving DecidableEq, Repr

structure Payout where
  agentId : Id
  amount : ℤ
  asojuFee : ℤ := 0
  netAmount : ℤ
  status : PayoutStatus := .requested
  providerReference : Option String := none
  /-- Unique. -/
  idempotencyKey : Option String := none
  journalEntryId : Option Id := none
  paystackReference : Option String := none
  failureReason : Option String := none
  failureCode : Option String := none
  webhookReceivedAt : Option Time := none
  paidAt : Option Time := none
  failedAt : Option Time := none
  reversedAt : Option Time := none
deriving DecidableEq, Repr

structure OfflineQueueItem where
  agentId : Id
  missionId : Option Id := none
  /-- Unique. -/
  idempotencyKey : String
  status : SyncQueueStatus := .queued
  retryCount : ℕ := 0
  maxRetries : ℕ := 5
deriving DecidableEq, Repr

structure CachedGig where
  /-- Unique. -/
  caseId : Id
  agentId : Option Id := none
  estimatedPayout : ℤ
  /-- The checklist in the scope of the case. -/
  caseScope : List ChecklistItem := []
  status : GigStatus := .available
  claimedBy : Option Id := none
  claimedAt : Option Time := none
deriving DecidableEq, Repr

structure LedgerAccount where
  /-- Unique. -/
  code : AccountCode
deriving DecidableEq, Repr

/-- The idempotency key of a posting: a prefix, and the key of a mission or a payout. -/
inductive PostingKey
  /-- `EARNINGS_<missionId>` -/
  | earnings (missionId : Id)
  /-- `QC_RELEASE_<missionId>` -/
  | qcRelease (missionId : Id)
  /-- `PAYOUT_REQ_<payoutId>` -/
  | payoutRequest (payoutId : Id)
  /-- `PAYOUT_SUCCESS_<payoutId>` -/
  | payoutSuccess (payoutId : Id)
  /-- `PAYOUT_REVERSAL_<payoutId>` -/
  | payoutReversal (payoutId : Id)
deriving DecidableEq, Repr

structure JournalLine where
  account : AccountCode
  direction : Direction
  amount : ℤ
deriving DecidableEq, Repr

/-- What a posting is about: its `entityType` and its `entityId`. -/
inductive PostingEntity
  | mission (id : Id)
  | payout (id : Id)
deriving DecidableEq, Repr

structure JournalEntry where
  /-- Unique. -/
  idempotencyKey : PostingKey
  entity : PostingEntity
  agentId : Option Id := none
  status : EntryStatus := .posted
  lines : List JournalLine
deriving DecidableEq, Repr

inductive FinanceExceptionType
  | duplicateWebhook | amountMismatch | unbalancedEntry | payoutFailure | reconciliationRequired
deriving DecidableEq, Repr

structure FinanceException where
  type : FinanceExceptionType
deriving DecidableEq, Repr

structure AuditEvent where
  action : String
  entityId : Option Id := none
deriving DecidableEq, Repr

structure ExternalMissionMapping where
  /-- Unique together with `externalId`. -/
  clientId : String
  externalId : String
  missionId : Id
deriving DecidableEq, Repr

/-! ## The database -/

structure Db where
  agent : Table Agent := .empty
  serviceCase : Table Case := .empty
  quote : Table Quote := .empty
  mission : Table Mission := .empty
  missionAssignment : Table MissionAssignment := .empty
  gpsCheck : Table GpsCheck := .empty
  evidenceItem : Table EvidenceItem := .empty
  qcReview : Table QcReview := .empty
  walletAccount : Table WalletAccount := .empty
  walletEntry : Table WalletEntry := .empty
  payout : Table Payout := .empty
  offlineQueue : Table OfflineQueueItem := .empty
  cachedGig : Table CachedGig := .empty
  ledgerAccount : Table LedgerAccount := .empty
  journalEntry : Table JournalEntry := .empty
  financeException : Table FinanceException := .empty
  auditEvent : Table AuditEvent := .empty
  adminAuditEvent : Table AuditEvent := .empty
  externalMissionMapping : Table ExternalMissionMapping := .empty

/-- The models of the schema. -/
inductive Model
  | agent | serviceCase | quote | mission | missionAssignment | gpsCheck | evidenceItem | qcReview
  | walletAccount | walletEntry | payout | offlineQueue | cachedGig | ledgerAccount | journalEntry
  | financeException | auditEvent | adminAuditEvent | externalMissionMapping
deriving DecidableEq, Repr

namespace Db

abbrev Of (β : Type) := TableOf Db Model β

def agents : Of Agent := ⟨.agent, agent, fun t d => { d with agent := t }, fun _ _ => rfl⟩

def cases : Of Case :=
  ⟨.serviceCase, serviceCase, fun t d => { d with serviceCase := t }, fun _ _ => rfl⟩

def quotes : Of Quote := ⟨.quote, quote, fun t d => { d with quote := t }, fun _ _ => rfl⟩

def missions : Of Mission :=
  ⟨.mission, mission, fun t d => { d with mission := t }, fun _ _ => rfl⟩

def missionAssignments : Of MissionAssignment :=
  ⟨.missionAssignment, missionAssignment, fun t d => { d with missionAssignment := t },
    fun _ _ => rfl⟩

def gpsChecks : Of GpsCheck :=
  ⟨.gpsCheck, gpsCheck, fun t d => { d with gpsCheck := t }, fun _ _ => rfl⟩

def evidenceItems : Of EvidenceItem :=
  ⟨.evidenceItem, evidenceItem, fun t d => { d with evidenceItem := t }, fun _ _ => rfl⟩

def qcReviews : Of QcReview :=
  ⟨.qcReview, qcReview, fun t d => { d with qcReview := t }, fun _ _ => rfl⟩

def walletAccounts : Of WalletAccount :=
  ⟨.walletAccount, walletAccount, fun t d => { d with walletAccount := t }, fun _ _ => rfl⟩

def walletEntries : Of WalletEntry :=
  ⟨.walletEntry, walletEntry, fun t d => { d with walletEntry := t }, fun _ _ => rfl⟩

def payouts : Of Payout := ⟨.payout, payout, fun t d => { d with payout := t }, fun _ _ => rfl⟩

def offlineQueueItems : Of OfflineQueueItem :=
  ⟨.offlineQueue, offlineQueue, fun t d => { d with offlineQueue := t }, fun _ _ => rfl⟩

def cachedGigs : Of CachedGig :=
  ⟨.cachedGig, cachedGig, fun t d => { d with cachedGig := t }, fun _ _ => rfl⟩

def ledgerAccounts : Of LedgerAccount :=
  ⟨.ledgerAccount, ledgerAccount, fun t d => { d with ledgerAccount := t }, fun _ _ => rfl⟩

def journalEntries : Of JournalEntry :=
  ⟨.journalEntry, journalEntry, fun t d => { d with journalEntry := t }, fun _ _ => rfl⟩

def financeExceptions : Of FinanceException :=
  ⟨.financeException, financeException, fun t d => { d with financeException := t },
    fun _ _ => rfl⟩

def auditEvents : Of AuditEvent :=
  ⟨.auditEvent, auditEvent, fun t d => { d with auditEvent := t }, fun _ _ => rfl⟩

def adminAuditEvents : Of AuditEvent :=
  ⟨.adminAuditEvent, adminAuditEvent, fun t d => { d with adminAuditEvent := t }, fun _ _ => rfl⟩

def externalMissionMappings : Of ExternalMissionMapping :=
  ⟨.externalMissionMapping, externalMissionMapping,
    fun t d => { d with externalMissionMapping := t }, fun _ _ => rfl⟩

end Db

/-! ## Programs -/

/-- What a call of the client throws. -/
inductive Failure
  /-- A value of a unique column is taken. -/
  | uniqueConstraint
  /-- A row that has to be there is missing. -/
  | recordNotFound
  /-- An error with a message. -/
  | thrown (message : String)
deriving DecidableEq, Repr

/-- A program over the database. -/
abbrev Svc (α : Type) := Prog Db (Access Model) Failure α

/-- Create a row whose key nobody needs. -/
def record {β : Type} (r : Db.Of β) (b : β) : Svc Unit := do
  let _ ← Client.create r b

@[simp] lemma run_record {β : Type} (r : Db.Of β) (b : β) (d : Db) :
    (record r b).run d = (.ok (), r.insert b d) := rfl

/-- The answer to a request: its status, and its body or its `error`. -/
structure Reply (β : Type) where
  status : ℕ
  body : Except String β
deriving Repr

namespace Reply

variable {β : Type}

def ok (body : β) : Reply β := ⟨200, .ok body⟩

def created (body : β) : Reply β := ⟨201, .ok body⟩

def error (status : ℕ) (message : String) : Reply β := ⟨status, .error message⟩

/-- The status is that of a success. -/
def Success (r : Reply β) : Prop := r.body.isOk = true

instance (r : Reply β) : Decidable r.Success := inferInstanceAs (Decidable (_ = _))

end Reply

end Asoju.FieldForce
