/-
The tables the services work on.

One structure for each model of the Prisma schema, with the columns that the modelled
services read or write and nothing else.  Money columns are `DECIMAL(12, 2)` and rates
`DECIMAL(12, 4)`, so they are `Decimal 2` and `Decimal 4`; the bound on their number of
digits is not part of the model.  A key is the position of its row in the order of
creation, and a time is a number of milliseconds.
-/
import Asoju.Lib.Table
import Asoju.Lib.Decimal

namespace Asoju

open Lib

/-- A primary key. -/
abbrev Id := ℕ

/-- A point in time, in milliseconds. -/
abbrev Time := ℤ

/-- A column of type `DECIMAL(12, 2)`. -/
abbrev Money := Decimal 2

/-- A column of type `DECIMAL(12, 4)`. -/
abbrev Rate := Decimal 4

/-- The number written to a money column. -/
abbrev money (q : ℚ) : Money := Decimal.store 2 q

/-! ## Enumerations -/

inductive Role
  | customer | beneficiary | fieldAgent | provider | relationshipManager | caseManager
  | qualityControl | finance | complianceRisk | admin | superAdmin | partner
deriving DecidableEq, Repr

inductive ServiceType
  | propertyInspection | constructionSupervision | assetInspection | familySupport
  | procurement | businessVerification | investmentSupport | agricultureSupport
  | bereavementSupport | arrivalSupport | legalDocumentServices | healthcareCoordination
deriving DecidableEq, Repr

/-- The service type as the enumeration of the schema spells it. -/
def ServiceType.name : ServiceType → String
  | .propertyInspection => "PROPERTY_INSPECTION"
  | .constructionSupervision => "CONSTRUCTION_SUPERVISION"
  | .assetInspection => "ASSET_INSPECTION"
  | .familySupport => "FAMILY_SUPPORT"
  | .procurement => "PROCUREMENT"
  | .businessVerification => "BUSINESS_VERIFICATION"
  | .investmentSupport => "INVESTMENT_SUPPORT"
  | .agricultureSupport => "AGRICULTURE_SUPPORT"
  | .bereavementSupport => "BEREAVEMENT_SUPPORT"
  | .arrivalSupport => "ARRIVAL_SUPPORT"
  | .legalDocumentServices => "LEGAL_DOCUMENT_SERVICES"
  | .healthcareCoordination => "HEALTHCARE_COORDINATION"

inductive CaseTier
  | essential | concierge
deriving DecidableEq, Repr

inductive CasePriority
  | standard | priority | urgent
deriving DecidableEq, Repr

inductive MilestoneGroup
  | foundation | dpc | superstructure | roofing | finishing
deriving DecidableEq, Repr

inductive PricingZone
  | lagos | southWest | other
deriving DecidableEq, Repr

def PricingZone.name : PricingZone → String
  | .lagos => "LAGOS"
  | .southWest => "SOUTH_WEST"
  | .other => "OTHER"

inductive MultiplierType
  | urgency
deriving DecidableEq, Repr

inductive CaseStatus
  | draft | submitted | underReview | quoted | awaitingPayment | scheduled | assigned
  | inProgress | evidenceSubmitted | qualityControl | customerReview | additionalWork
  | approved | completed | closed | onHold | disputed
deriving DecidableEq, Repr

/-- The status as the enumeration of the schema spells it. -/
def CaseStatus.name : CaseStatus → String
  | .draft => "DRAFT"
  | .submitted => "SUBMITTED"
  | .underReview => "UNDER_REVIEW"
  | .quoted => "QUOTED"
  | .awaitingPayment => "AWAITING_PAYMENT"
  | .scheduled => "SCHEDULED"
  | .assigned => "ASSIGNED"
  | .inProgress => "IN_PROGRESS"
  | .evidenceSubmitted => "EVIDENCE_SUBMITTED"
  | .qualityControl => "QUALITY_CONTROL"
  | .customerReview => "CUSTOMER_REVIEW"
  | .additionalWork => "ADDITIONAL_WORK"
  | .approved => "APPROVED"
  | .completed => "COMPLETED"
  | .closed => "CLOSED"
  | .onHold => "ON_HOLD"
  | .disputed => "DISPUTED"

inductive PaymentStatus
  | pending | processing | paid | failed | expired | refunded | partiallyRefunded
  | reconciliationRequired
deriving DecidableEq, Repr

def PaymentStatus.name : PaymentStatus → String
  | .pending => "PENDING"
  | .processing => "PROCESSING"
  | .paid => "PAID"
  | .failed => "FAILED"
  | .expired => "EXPIRED"
  | .refunded => "REFUNDED"
  | .partiallyRefunded => "PARTIALLY_REFUNDED"
  | .reconciliationRequired => "RECONCILIATION_REQUIRED"

inductive ReconciliationStatus
  | matched | rejected
deriving DecidableEq, Repr

inductive RefundRequestStatus
  | pending | approved | rejected
deriving DecidableEq, Repr

def RefundRequestStatus.name : RefundRequestStatus → String
  | .pending => "PENDING"
  | .approved => "APPROVED"
  | .rejected => "REJECTED"

inductive QuoteLineCategory
  | asojuServiceFee | externalCost | thirdPartyProfessional | taxStatutory
deriving DecidableEq, Repr

inductive SubscriptionStatus
  | pending | active | paused | cancelled | expired
deriving DecidableEq, Repr

inductive MembershipPlan
  | essential | priority | premium
deriving DecidableEq, Repr

def MembershipPlan.name : MembershipPlan → String
  | .essential => "ESSENTIAL"
  | .priority => "PRIORITY"
  | .premium => "PREMIUM"

inductive ScTransactionType
  | grant | debit | reversal | adjustment | expiry
deriving DecidableEq, Repr

inductive ApprovalAction
  | approved | requestClarification | requestAdditionalWork | escalate
deriving DecidableEq, Repr

inductive DisputeStatus
  | open | resolved
deriving DecidableEq, Repr

inductive AssignmentRole
  | fieldAgent | provider
deriving DecidableEq, Repr

def AssignmentRole.name : AssignmentRole → String
  | .fieldAgent => "FIELD_AGENT"
  | .provider => "PROVIDER"

inductive AssignmentStatus
  | offered | accepted | declined | inProgress | completed | revoked
deriving DecidableEq, Repr

/-- The status in lower case, as the messages of the assignment service print it. -/
def AssignmentStatus.lowerName : AssignmentStatus → String
  | .offered => "offered"
  | .accepted => "accepted"
  | .declined => "declined"
  | .inProgress => "in_progress"
  | .completed => "completed"
  | .revoked => "revoked"

inductive ProviderStatus
  | pending | underReview | verified | active | restricted | suspended | removed
deriving DecidableEq, Repr

inductive AgentTier
  | bronze | silver | gold
deriving DecidableEq, Repr

inductive QcOutcome
  | approved | passWithLimitation | rework | revisitRequired | escalate | incident
deriving DecidableEq, Repr

def QcOutcome.name : QcOutcome → String
  | .approved => "APPROVED"
  | .passWithLimitation => "PASS_WITH_LIMITATION"
  | .rework => "REWORK"
  | .revisitRequired => "REVISIT_REQUIRED"
  | .escalate => "ESCALATE"
  | .incident => "INCIDENT"

def QcOutcome.lowerName : QcOutcome → String
  | .approved => "approved"
  | .passWithLimitation => "pass_with_limitation"
  | .rework => "rework"
  | .revisitRequired => "revisit_required"
  | .escalate => "escalate"
  | .incident => "incident"

inductive VaultCategory
  | titleDeed | cacCert | powerOfAttorney | identity | other
deriving DecidableEq, Repr

inductive CollaboratorRole
  | relationshipManager | caseManager | qualityControl | finance | complianceRisk
deriving DecidableEq, Repr

inductive AutomationRuleKind
  | requiredFields | blockedKeywords
deriving DecidableEq, Repr

inductive AutomationDecisionOutcome
  | auto | customerInput | escalate | unsupported | blocked
deriving DecidableEq, Repr

inductive EscalationReasonCategory
  | missingInformation | pricingUnavailable | nonStandardScope | providerAvailability
  | policyRisk | technicalFailure | manual | automationUnavailable
deriving DecidableEq, Repr

inductive EscalationStatus
  | required | reviewing | resolved | cancelled
deriving DecidableEq, Repr

/-- The status in lower case, as the messages of the escalation service print it. -/
def EscalationStatus.lowerName : EscalationStatus → String
  | .required => "required"
  | .reviewing => "reviewing"
  | .resolved => "resolved"
  | .cancelled => "cancelled"

inductive IdempotencyOperation
  | serviceRequestCreate | paymentInitiate | fieldLocationReport
deriving DecidableEq, Repr

inductive IdempotencyRecordStatus
  | processing | succeeded | failed
deriving DecidableEq, Repr

inductive WalletEntryType
  | earning | payoutDebit
deriving DecidableEq, Repr

inductive LedgerAccountType
  | asset | liability | expense | revenue | equity
deriving DecidableEq, Repr

inductive JournalLineDirection
  | debit | credit
deriving DecidableEq, Repr

/-- The code of an account in the chart of accounts. -/
inductive AccountCode
  | agentCompensationExpense | agentPayoutPayable | operatingCash
deriving DecidableEq, Repr

/-- The idempotency key of a posting.  The source builds it as a string, from the kind of what
is posted and its key; both can be read back from it. -/
inductive JournalKey
  | earning (walletEntryId : Id)
  | payout (payoutId : Id)
deriving DecidableEq, Repr

def JournalKey.text : JournalKey → String
  | .earning walletEntryId => s!"EARNING_{walletEntryId}"
  | .payout payoutId => s!"PAYOUT_{payoutId}"

inductive PartnerStatus
  | active | inactive
deriving DecidableEq, Repr

inductive IncidentSeverity
  | low | medium | high | critical
deriving DecidableEq, Repr

inductive SosAlertType
  | general | medical | security | safety | lost
deriving DecidableEq, Repr

inductive SosSeverity
  | low | medium | high | critical
deriving DecidableEq, Repr

def SosSeverity.name : SosSeverity → String
  | .low => "LOW"
  | .medium => "MEDIUM"
  | .high => "HIGH"
  | .critical => "CRITICAL"

instance nonceNeZero : NeZero (2 ^ 32 : ℕ) := ⟨by decide⟩

/-- A provider reference.  The source builds it as a string, from a prefix for the kind of
payment, the key of what is paid and eight random hexadecimal digits; the three parts can
be read back from it. -/
inductive Reference
  | caseInvoice (invoiceId : Id) (nonce : Fin (2 ^ 32))
  | subscriptionInvoice (subscriptionId : Id) (nonce : Fin (2 ^ 32))
deriving DecidableEq, Repr

/-- Eight hexadecimal digits. -/
def hexDigits (nonce : Fin (2 ^ 32)) : String :=
  let digits := Nat.toDigits 16 nonce.val
  String.ofList (List.replicate (8 - digits.length) '0' ++ digits)

def Reference.text : Reference → String
  | .caseInvoice invoiceId nonce => s!"caseinv_{invoiceId}_{hexDigits nonce}"
  | .subscriptionInvoice subscriptionId nonce =>
      s!"subinv_{subscriptionId}_{hexDigits nonce}"

inductive DocumentVisibility
  | all | staffOnly | assignee
deriving DecidableEq, Repr

/-- What a customer is quoted in. -/
inductive BillingCurrency
  | usd | gbp | eur
deriving DecidableEq, Repr

/-! ## Rows -/

structure User where
  email : Option String
  passwordHash : Option String := none
  role : Role
  mfaEnabled : Bool := false
  mfaSecret : Option String := none
  isActive : Bool := true
  /-- Unique. -/
  phone : Option String := none
  countryOfResidence : Option String := none
  preferredChannel : Option String := none
  billingCurrency : Option BillingCurrency := none
deriving DecidableEq, Repr

/-- A refresh token, of which only the hash is kept. -/
structure RefreshToken where
  userId : Id
  tokenHash : String
  expiresAt : Time
  revokedAt : Option Time := none
deriving DecidableEq, Repr

structure PasswordResetToken where
  userId : Id
  tokenHash : String
  expiresAt : Time
  usedAt : Option Time := none
deriving DecidableEq, Repr

structure Customer where
  userId : Id
  fullName : String := ""
  /-- Unique. -/
  referralCode : String := ""
  referredByCustomerId : Option Id := none
  referredByPartnerId : Option Id := none
deriving DecidableEq, Repr

/-- An organisation that refers customers. -/
structure Partner where
  code : String
  status : PartnerStatus := .active
deriving DecidableEq, Repr

structure Beneficiary where
  customerId : Id
  userId : Option Id
  phone : Option String := none
deriving DecidableEq, Repr

/-- An invite to the portal, of which only the hash of its token is kept. -/
structure BeneficiaryInvite where
  beneficiaryId : Id
  /-- Unique. -/
  tokenHash : String
  expiresAt : Time
  usedAt : Option Time := none
deriving DecidableEq, Repr

/-- A turn of a conversation. -/
structure ConversationTurn where
  role : String
  content : String
deriving DecidableEq, Repr

/-- The conversation with a number on WhatsApp. -/
structure WhatsAppThread where
  /-- Unique. -/
  phone : String
  /-- Unique. -/
  userId : Id
  history : List ConversationTurn := []
deriving DecidableEq, Repr

structure Agent where
  userId : Id
  isActive : Bool
  performanceScore : Option ℚ := none
  tier : AgentTier := .bronze
  /-- The share of the QC reviews that were passed. -/
  qcPassRate : Option ℚ := none
deriving DecidableEq, Repr

structure Property where
  customerId : Id
deriving DecidableEq, Repr

structure Asset where
  customerId : Id
deriving DecidableEq, Repr

/-- A document in the customer's vault that staff may have verified. -/
structure VerifiedAsset where
  customerId : Id
  type : VaultCategory
  verified : Bool := false
deriving DecidableEq, Repr

structure Provider where
  userId : Id
  status : ProviderStatus
  performanceScore : Option ℚ := none
deriving DecidableEq, Repr

/-- A staff member's right to act on one case. -/
structure CaseCollaborator where
  caseId : Id
  userId : Id
  role : CollaboratorRole
deriving DecidableEq, Repr

structure ServiceRequest where
  customerId : Id
  serviceType : Option ServiceType := none
  rawDescription : String
  location : Option String := none
  channel : String
  objective : Option String := none
  subject : Option String := none
  timing : Option String := none
  /-- The case the request has become. -/
  convertedCaseId : Option Id := none
deriving DecidableEq, Repr

structure AutomationRule where
  id : Id
  kind : AutomationRuleKind
  /-- The names under `fields`, or under `keywords`, in the configuration. -/
  config : List String
  sortOrder : ℤ := 0
deriving DecidableEq, Repr

/-- Whether a service type is open to automation, and the rules for it. -/
structure AutomationCapability where
  serviceType : ServiceType
  enabled : Bool := false
  rules : List AutomationRule := []
deriving DecidableEq, Repr

structure RuleResult where
  ruleId : Id
  kind : AutomationRuleKind
  passed : Bool
  detail : Option String
deriving DecidableEq, Repr

structure AutomationDecision where
  serviceRequestId : Id
  outcome : AutomationDecisionOutcome
  reason : String
  ruleResults : List RuleResult
  capabilityEnabled : Bool
  escalationId : Option Id
  decidedAt : Time
deriving DecidableEq, Repr

structure Escalation where
  caseId : Option Id := none
  serviceRequestId : Option Id := none
  reasonCategory : EscalationReasonCategory
  internalReason : Option String := none
  customerMessage : String
  status : EscalationStatus := .required
  assignedToId : Option Id := none
  /-- When the escalation was resolved or cancelled. -/
  resolvedAt : Option Time := none
  resolutionNotes : Option String := none
deriving DecidableEq, Repr

structure ServiceCase where
  customerId : Id
  serviceType : ServiceType
  description : String
  location : String
  /-- Missing while the case has the random number it is created with. -/
  caseNumber : Option String := none
  priority : CasePriority := .standard
  beneficiaryId : Option Id := none
  propertyId : Option Id := none
  assetId : Option Id := none
  tier : CaseTier := .essential
  status : CaseStatus := .draft
  paymentStatus : PaymentStatus := .pending
  /-- Where a case on hold resumes to. -/
  heldFromStatus : Option CaseStatus := none
  riskLevel : ℕ := 1
  /-- The schedule that has spawned the case, if one has. -/
  spawnedFromScheduleId : Option Id := none
  createdAt : Time := 0
deriving DecidableEq, Repr

/-- Cases that come up again and again, set up from a completed case. -/
structure RecurringSchedule where
  /-- Unique. -/
  originCaseId : Id
  customerId : Id
  serviceType : ServiceType
  description : String
  location : String
  beneficiaryId : Option Id := none
  propertyId : Option Id := none
  assetId : Option Id := none
  cadenceDays : ℕ
  nextRunAt : Time
  active : Bool := true
  /-- When the schedule was paused; missing while it is active. -/
  pausedAt : Option Time := none
deriving DecidableEq, Repr

structure CaseStatusHistory where
  caseId : Id
  fromStatus : Option CaseStatus
  toStatus : CaseStatus
  changedById : Option Id
  reason : Option String
  createdAt : Time
deriving DecidableEq, Repr

structure CaseTask where
  caseId : Id
  label : String
  milestoneGroup : Option MilestoneGroup := none
  isRequired : Bool := true
  isComplete : Bool := false
  completedAt : Option Time := none
  sortOrder : ℤ := 0
deriving DecidableEq, Repr

structure CaseRiskFlag where
  caseId : Id
  label : String
  detail : Option String
  /-- Missing for a flag that no person has raised. -/
  raisedById : Option Id := none
  resolvedAt : Option Time := none
deriving DecidableEq, Repr

/-- What the risk of a case is computed from. -/
structure RiskFactors where
  openRiskFlags : ℕ
  incidentPointsThisCase : ℕ
  priorIncidentsOtherCases : ℕ
  lowPerformingAssignee : Bool
  urgentPriority : Bool
  reworkCycles : ℕ
  highValue : Bool
deriving DecidableEq, Repr

structure RiskAssessment where
  caseId : Id
  score : ℕ
  level : ℕ
  factors : RiskFactors
  assessedAt : Time
deriving DecidableEq, Repr

structure Incident where
  caseId : Id
  severity : IncidentSeverity
  summary : String
  detail : Option String
deriving DecidableEq, Repr

structure Approval where
  caseId : Id
  byUserId : Id
  action : ApprovalAction
  note : Option String
  createdAt : Time
deriving DecidableEq, Repr

structure Dispute where
  caseId : Id
  customerId : Id
  disputedTaskIds : List Id
  reasons : List String
  notes : Option String
  status : DisputeStatus := .open
  resolvedAt : Option Time := none
  resolvedById : Option Id := none
deriving DecidableEq, Repr

structure Assignment where
  caseId : Id
  role : AssignmentRole
  agentId : Option Id
  providerId : Option Id
  scheduledFor : Option Time
  status : AssignmentStatus := .offered
  acceptedAt : Option Time := none
deriving DecidableEq, Repr

structure Evidence where
  caseId : Id
deriving DecidableEq, Repr

/-- An emergency that an agent has reported from the field. -/
structure SosAlert where
  agentId : Id
  caseId : Option Id
  assignmentId : Option Id
  alertType : SosAlertType
  severity : SosSeverity
  message : Option String
  latitude : ℚ
  longitude : ℚ
  accuracy : Option ℚ
  address : Option String
  /-- The alert has put its case on hold. -/
  caseHeld : Bool := false
deriving DecidableEq, Repr

structure QcReview where
  caseId : Id
  outcome : QcOutcome
  reviewedById : Id
deriving DecidableEq, Repr

/-- The customer's opinion of a case; the case is unique. -/
structure Rating where
  caseId : Id
  byUserId : Id
  stars : ℤ
  comment : Option String := none
deriving DecidableEq, Repr

structure Report where
  caseId : Id
  summary : String
  qcOutcome : Option QcOutcome
  limitation : Option String
  qcReviewedById : Option Id
  createdAt : Time
deriving DecidableEq, Repr

structure CaseScope where
  caseId : Id
  version : ℕ
  zone : PricingZone
  objective : String
  tasks : List String
  deliverables : List String := []
  exclusions : List String := []
  evidenceRequirements : List String := []
  createdById : Id
  confirmedById : Option Id := none
  confirmedAt : Option Time := none
deriving DecidableEq, Repr

/-- A set of prices; one at a time is active. -/
structure PriceBook where
  currency : String := "USD"
  active : Bool := false
deriving DecidableEq, Repr

/-- The base fee, in dollars, for a service in a zone. -/
structure PriceRule where
  priceBookId : Id
  serviceType : ServiceType
  zone : PricingZone
  value : Money
  label : String
  priority : ℤ := 0
  active : Bool := true
deriving DecidableEq, Repr

/-- A factor for cases of a priority. -/
structure MultiplierRule where
  priceBookId : Id
  type : MultiplierType
  casePriority : Option CasePriority := none
  multiplier : Money
  active : Bool := true
deriving DecidableEq, Repr

/-- A file of a case, apart from its evidence. -/
structure Document where
  caseId : Id
  label : String
  storageKey : String
  uploadedById : Option Id
  createdAt : Time
  visibility : DocumentVisibility := .all
  restrictedToAssignmentId : Option Id := none
deriving DecidableEq, Repr

structure QuoteLine where
  category : QuoteLineCategory
  label : String
  amount : Money
deriving DecidableEq, Repr

structure Quote where
  caseId : Id
  amount : Money
  currency : String := "NGN"
  lines : List QuoteLine := []
  expiresAt : Option Time := none
  acceptedAt : Option Time := none
  createdAt : Time
  priceBookId : Option Id := none
  subscriptionId : Option Id := none
  baseAmount : Option Money := none
  nonServiceFeeAmount : Option Money := none
  discountPercent : Option Money := none
  discountAmount : Option Money := none
  scAppliedNgn : Option Money := none
  scopeId : Option Id := none
  lockedFxRate : Option Rate := none
  sourceCurrency : Option String := none
  fxLockExpiry : Option Time := none
deriving DecidableEq, Repr

structure Invoice where
  caseId : Id
  quoteId : Option Id
  amount : Money
  currency : String := "NGN"
deriving DecidableEq, Repr

structure Payment where
  invoiceId : Id
  amount : Money
  currency : String := "NGN"
  provider : String := "paystack"
  providerReference : Reference
  /-- When the provider, or Finance, last confirmed the payment. -/
  providerWebhookVerifiedAt : Option Time := none
  status : PaymentStatus := .pending
  createdAt : Time
deriving DecidableEq, Repr

structure Refund where
  paymentId : Id
  amount : Money
  reason : Option String
  actorId : Option Id
deriving DecidableEq, Repr

structure RefundRequest where
  paymentId : Id
  amount : Money
  reason : String
  status : RefundRequestStatus := .pending
  requestedById : Id
  decidedById : Option Id := none
  decidedAt : Option Time := none
  decisionNote : Option String := none
deriving DecidableEq, Repr

structure Reconciliation where
  paymentId : Id
  status : ReconciliationStatus
  notes : String
  reconciledBy : Option Id
deriving DecidableEq, Repr

structure Subscription where
  customerId : Id
  tier : CaseTier := .concierge
  plan : MembershipPlan := .priority
  status : SubscriptionStatus := .active
  startedAt : Time
  renewsAt : Option Time := none
  cancelledAt : Option Time := none
  priceUsd : Money := ⟨9900⟩
  fxRate : Rate
  amount : Money := ⟨15840000⟩
  currency : String := "NGN"
deriving DecidableEq, Repr

structure SubscriptionInvoice where
  subscriptionId : Id
  periodStart : Time
  periodEnd : Time
  amount : Money
  currency : String := "NGN"
  status : PaymentStatus := .pending
  paystackReference : Reference
  paidAt : Option Time := none
  createdAt : Time
deriving DecidableEq, Repr

structure ScLedgerEntry where
  subscriptionId : Id
  type : ScTransactionType
  amountUsd : Money
  caseId : Option Id := none
  quoteId : Option Id := none
  fxRateApplied : Option Rate := none
  amountNgn : Option Money := none
deriving DecidableEq, Repr

structure MembershipPlanConfig where
  plan : MembershipPlan
  priceUsd : Money
  scGrantUsd : Money
  discountPercent : Money
  eligibleRequestsPerMonth : ℕ
deriving DecidableEq, Repr

/-- What an agent has earned, has been paid, and has left. -/
structure WalletAccount where
  agentId : Id
  availableBalance : Money := ⟨0⟩
  totalEarnings : Money := ⟨0⟩
  totalPaid : Money := ⟨0⟩
deriving DecidableEq, Repr

structure WalletEntry where
  agentId : Id
  walletAccountId : Id
  type : WalletEntryType
  amount : Money
  caseId : Option Id := none
  payoutId : Option Id := none
  description : Option String := none
  actorId : Option Id := none
deriving DecidableEq, Repr

structure Payout where
  recipientType : AssignmentRole
  agentId : Option Id := none
  amount : Money
  status : PaymentStatus := .pending
  note : Option String := none
deriving DecidableEq, Repr

structure LedgerAccount where
  code : AccountCode
  name : String
  type : LedgerAccountType
  description : Option String := none
deriving DecidableEq, Repr

structure JournalLine where
  accountId : Id
  direction : JournalLineDirection
  amount : Money
  description : Option String := none
deriving DecidableEq, Repr

/-- A posting with its lines, which are created together with it and never change. -/
structure JournalEntry where
  idempotencyKey : JournalKey
  entityType : String
  entityId : Option Id := none
  agentId : Option Id := none
  description : Option String := none
  lines : List JournalLine
deriving DecidableEq, Repr

/-- An operation that was asked for under a key of the client's. -/
structure IdempotencyRecord where
  operation : IdempotencyOperation
  idempotencyKey : String
  actorId : Id
  resultReference : Option Id := none
  status : IdempotencyRecordStatus := .processing
deriving DecidableEq, Repr

/-! ## The database -/

/-- The database, with a clock.  Every write moves the clock on, so that the timestamps
order the rows as they were written. -/
structure Db where
  clock : Time := 0
  user : Table User := .empty
  refreshToken : Table RefreshToken := .empty
  passwordResetToken : Table PasswordResetToken := .empty
  customer : Table Customer := .empty
  partner : Table Partner := .empty
  beneficiary : Table Beneficiary := .empty
  beneficiaryInvite : Table BeneficiaryInvite := .empty
  whatsAppThread : Table WhatsAppThread := .empty
  agent : Table Agent := .empty
  provider : Table Provider := .empty
  property : Table Property := .empty
  asset : Table Asset := .empty
  verifiedAsset : Table VerifiedAsset := .empty
  serviceRequest : Table ServiceRequest := .empty
  automationCapability : Table AutomationCapability := .empty
  automationDecision : Table AutomationDecision := .empty
  escalation : Table Escalation := .empty
  caseCollaborator : Table CaseCollaborator := .empty
  serviceCase : Table ServiceCase := .empty
  recurringSchedule : Table RecurringSchedule := .empty
  caseStatusHistory : Table CaseStatusHistory := .empty
  caseTask : Table CaseTask := .empty
  caseRiskFlag : Table CaseRiskFlag := .empty
  riskAssessment : Table RiskAssessment := .empty
  incident : Table Incident := .empty
  approval : Table Approval := .empty
  dispute : Table Dispute := .empty
  assignment : Table Assignment := .empty
  evidence : Table Evidence := .empty
  sosAlert : Table SosAlert := .empty
  qcReview : Table QcReview := .empty
  rating : Table Rating := .empty
  report : Table Report := .empty
  caseScope : Table CaseScope := .empty
  document : Table Document := .empty
  priceBook : Table PriceBook := .empty
  priceRule : Table PriceRule := .empty
  multiplierRule : Table MultiplierRule := .empty
  quote : Table Quote := .empty
  invoice : Table Invoice := .empty
  payment : Table Payment := .empty
  refund : Table Refund := .empty
  refundRequest : Table RefundRequest := .empty
  reconciliation : Table Reconciliation := .empty
  subscription : Table Subscription := .empty
  subscriptionInvoice : Table SubscriptionInvoice := .empty
  scLedgerEntry : Table ScLedgerEntry := .empty
  membershipPlanConfig : Table MembershipPlanConfig := .empty
  walletAccount : Table WalletAccount := .empty
  walletEntry : Table WalletEntry := .empty
  payout : Table Payout := .empty
  ledgerAccount : Table LedgerAccount := .empty
  journalEntry : Table JournalEntry := .empty
  idempotencyRecord : Table IdempotencyRecord := .empty

instance : Inhabited Db := ⟨{}⟩

end Asoju
