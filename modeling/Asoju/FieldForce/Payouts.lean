/-
Payouts: the three routes that move a payout along.

An agent requests a payout (`POST /api/earnings`), an administrator releases it to the provider or
retries it (`POST /api/admin/payouts`), and the provider reports what has become of the transfer
(`POST /api/webhooks/paystack`).  Each route moves the wallet and the ledger on its own.  The routes
are modelled from the authentication of the caller on; the times, the random parts of keys and the
answers of the provider are arguments of a call.
-/
import Asoju.FieldForce.Ledger

namespace Asoju.FieldForce

open Lib

/-- A number of naira, with commas between the thousands. -/
def toLocaleString (n : ℤ) : String :=
  let digits := (toString n.natAbs).toList.reverse
  let groups := digits.toChunks 3
  (if n < 0 then "-" else "") ++ String.ofList (List.intercalate [','] groups).reverse

/-- A tenth, as `Math.round(amount * 0.1)` rounds it. -/
def roundTenth (amount : ℤ) : ℤ := (amount + 5) / 10

def isWalletOf (agentId : Id) (w : WalletAccount) : Bool := w.agentId = agentId

/-! ## Paystack -/

/-- The format is ASOJU_PAYOUT_<payoutId>_<timestamp>. -/
def generateProviderReference (payoutId : String) (now : Time) : String :=
  s!"ASOJU_PAYOUT_{payoutId}_{now}"

/-- The format is PAYOUT_REQ_<agentId>_<timestamp>_<random>. -/
def generatePayoutIdempotencyKey (agentId : Id) (now : Time) (random : String) : String :=
  s!"PAYOUT_REQ_{agentId}_{now}_{random}"

structure TransferResult where
  success : Bool
  reference : Option String := none
  error : Option String := none
deriving DecidableEq, Repr

/-- The provider as a call meets it: whether it is configured, and what it answers. -/
structure Paystack where
  configured : Bool := false
  answer : TransferResult := { success := true }
deriving DecidableEq, Repr

/-- A provider that is not configured is simulated. -/
def initiatePaystackTransfer (paystack : Paystack) (reference : String) : TransferResult :=
  if paystack.configured then paystack.answer
  else { success := true, reference := some reference }

structure PaystackWebhookEvent where
  event : String
  reference : Option String := none
  amount : Option ℤ := none
  status : Option String := none
  failures : Option ℕ := none
deriving DecidableEq, Repr

inductive EventType
  | transferSuccess | transferFailed | transferReversed | unknown
deriving DecidableEq, Repr

structure WebhookEvent where
  eventType : EventType
  providerReference : Option String
  amount : ℤ
  status : String
deriving DecidableEq, Repr

/-- A text that is not empty. -/
def nonEmpty (text : Option String) : Option String := text.filter (· ≠ "")

def parseWebhookEvent (payload : PaystackWebhookEvent) : WebhookEvent where
  eventType :=
    if payload.event = "transfer.success" then .transferSuccess
    else if payload.event = "transfer.failed" then .transferFailed
    else if payload.event = "transfer.reversed" then .transferReversed
    else .unknown
  providerReference := nonEmpty payload.reference
  amount := payload.amount.getD 0
  status := (nonEmpty payload.status).getD "unknown"

def mapPaystackStatusToPayout (paystackStatus : String) : PayoutStatus :=
  if paystackStatus = "success" ∨ paystackStatus = "completed" then .success
  else if paystackStatus = "pending" ∨ paystackStatus = "processing" then .processing
  else if paystackStatus = "failed" ∨ paystackStatus = "expired" then .failed
  else if paystackStatus = "reversed" then .reversed
  else if paystackStatus = "cancelled" then .failed
  else .processing

def PayoutStatus.text : PayoutStatus → String
  | .requested => "REQUESTED"
  | .processing => "PROCESSING"
  | .success => "SUCCESS"
  | .failed => "FAILED"
  | .reversed => "REVERSED"

/-- The payout has the idempotency key. -/
def hasIdempotencyKey (key : String) (p : Payout) : Bool := p.idempotencyKey = some key

/-- The payout has the provider's reference. -/
def hasProviderReference (reference : String) (p : Payout) : Bool :=
  p.providerReference = some reference

/-- Link the journal entry of a posting to the payout. -/
def linkJournalEntry (payoutId : Id) (ledgerResult : JournalPostResult) : Svc Unit :=
  match ledgerResult.journalEntryId with
  | some journalEntryId =>
      Client.update Db.payouts .recordNotFound payoutId fun p =>
        { p with journalEntryId := some journalEntryId }
  | none => return ()

/-! ## The request of an agent -/

namespace Earnings

structure PayoutRequest where
  amount : ℤ
  now : Time
  random : String
deriving DecidableEq, Repr

/-- The payout that a request creates. -/
def newPayout (agentId : Id) (r : PayoutRequest) : Payout where
  agentId
  amount := r.amount
  asojuFee := roundTenth r.amount
  netAmount := r.amount - roundTenth r.amount
  status := .requested
  providerReference := some (generateProviderReference "pending" r.now)
  idempotencyKey := some (generatePayoutIdempotencyKey agentId r.now r.random)

/-- The wallet, as far as there is one, and its entry. -/
def deduct (agentId : Id) (wallet : Option (Id × WalletAccount)) (amount : ℤ) (payoutId : Id) :
    Svc Unit :=
  match wallet with
  | some (walletAccountId, _) => do
      Client.update Db.walletAccounts .recordNotFound walletAccountId fun w =>
        { w with availableBalance := w.availableBalance - amount }
      record Db.walletEntries
        { agentId, walletAccountId, type := .payout, amount := -amount, referenceId := some payoutId }
  | none => return ()

/-- The payout, its posting, and the wallet. -/
def createPayout (agentId : Id) (wallet : Option (Id × WalletAccount)) (r : PayoutRequest) :
    Svc (Reply (Id × Payout)) := do
  let idempotencyKey := generatePayoutIdempotencyKey agentId r.now r.random
  match ← Client.findFirst Db.payouts (hasIdempotencyKey idempotencyKey) with
  | some existingPayout => return ⟨409, .ok existingPayout⟩
  | none =>
      let payout := newPayout agentId r
      let payoutId ← Client.createUnique Db.payouts (hasIdempotencyKey idempotencyKey)
        .uniqueConstraint payout
      seedChartOfAccounts
      let ledgerResult ← postPayoutRequest payoutId agentId r.amount
      (if ledgerResult.success then linkJournalEntry payoutId ledgerResult else pure ())
      deduct agentId wallet r.amount payoutId
      record Db.auditEvents ⟨"PAYOUT_REQUESTED", some payoutId⟩
      return .created (payoutId, payout)

def requestPayout (agentId : Id) (r : PayoutRequest) : Svc (Reply (Id × Payout)) :=
  if r.amount ≤ 0 then
    return .error 400 "Invalid amount"
  else do
    match ← Client.findUnique Db.agents agentId with
    | none => return .error 404 "Agent not found"
    | some _ =>
        let wallet ← Client.findFirst Db.walletAccounts (isWalletOf agentId)
        let available := (wallet.map fun p => p.2.availableBalance).getD 0
        if r.amount > available then
          return .error 400
            s!"Insufficient available balance. Available: ₦{toLocaleString available}"
        else
          createPayout agentId wallet r

def POST (agentId : Id) (r : PayoutRequest) : Svc (Reply (Id × Payout)) :=
  tryCatch (requestPayout agentId r) fun _ => pure (.error 500 "Failed to request payout")

end Earnings

/-! ## The release by an administrator -/

namespace AdminPayouts

inductive Action
  | release | retry | other
deriving DecidableEq, Repr

structure Command where
  payoutId : Id
  action : Action
  now : Time
  random : String
  paystack : Paystack := {}
deriving DecidableEq, Repr

/-- The reference of the provider, if there is one. -/
def recordReference (payoutId : Id) : Option String → Svc Unit
  | some reference =>
      Client.update Db.payouts .recordNotFound payoutId fun p =>
        { p with paystackReference := some reference }
  | none => return ()

/-- What follows from the answer of the provider. -/
def recordTransfer (payoutId : Id) (paystack : Paystack) (transferResult : TransferResult)
    (now : Time) : Svc (Reply (Option Payout)) :=
  if ¬ transferResult.success ∧ paystack.configured then do
    Client.update Db.payouts .recordNotFound payoutId fun p =>
      { p with
        status := .failed
        failureReason := transferResult.error
        failureCode := some "TRANSFER_INITIATION_FAILED"
        failedAt := some now }
    record Db.financeExceptions ⟨.payoutFailure⟩
    return .error 500 "Transfer initiation failed"
  else do
    recordReference payoutId (nonEmpty transferResult.reference)
    record Db.adminAuditEvents ⟨"PAYOUT_RELEASED", some payoutId⟩
    return .ok (← Client.findUnique Db.payouts payoutId)

def release (payout : Payout) (c : Command) : Svc (Reply (Option Payout)) :=
  if payout.status ≠ .requested then
    return .error 422 s!"Cannot release payout in status: {payout.status.text}"
  else do
    let providerReference := generateProviderReference (toString c.payoutId) c.now
    let idempotencyKey := generatePayoutIdempotencyKey payout.agentId c.now c.random
    match ← Client.findFirst Db.payouts (hasIdempotencyKey idempotencyKey) with
    | some _ => return .error 409 "Duplicate payout request detected"
    | none =>
        Client.update Db.payouts .recordNotFound c.payoutId fun p =>
          { p with
            status := .processing
            providerReference := some providerReference
            idempotencyKey := some idempotencyKey }
        seedChartOfAccounts
        let ledgerResult ← postPayoutRequest c.payoutId payout.agentId payout.amount
        (if ledgerResult.success then linkJournalEntry c.payoutId ledgerResult else pure ())
        recordTransfer c.payoutId c.paystack
          (initiatePaystackTransfer c.paystack providerReference) c.now

def retry (payout : Payout) (c : Command) : Svc (Reply (Option Payout)) :=
  if payout.status ≠ .failed then
    return .error 422 s!"Cannot retry payout in status: {payout.status.text}"
  else do
    Client.update Db.payouts .recordNotFound c.payoutId fun p =>
      { p with status := .processing, failureReason := none, failureCode := none }
    record Db.adminAuditEvents ⟨"PAYOUT_RETRIED", some c.payoutId⟩
    return .ok (← Client.findUnique Db.payouts c.payoutId)

def process (c : Command) : Svc (Reply (Option Payout)) := do
  match ← Client.findUnique Db.payouts c.payoutId with
  | none => return .error 404 "Payout not found"
  | some payout =>
      match c.action with
      | .release => release payout c
      | .retry => retry payout c
      | .other => return .error 400 "Invalid action. Use \"release\" or \"retry\""

def POST (c : Command) : Svc (Reply (Option Payout)) :=
  tryCatch (process c) fun _ => pure (.error 500 "Failed to process payout action")

end AdminPayouts

/-! ## The reports of the provider -/

namespace PaystackWebhook

/-- The body of an answer: whether the event has been processed, and whether it is a repeat. -/
structure Receipt where
  processed : Bool
  idempotent : Bool := false
deriving DecidableEq, Repr

/-- The reference of the transfer, or the one that is known already. -/
def paystackReference (payload : PaystackWebhookEvent) (payout : Payout) : Option String :=
  (nonEmpty payload.reference).or payout.paystackReference

/-- Change the wallet of an agent, if there is one. -/
def changeWallet (agentId : Id) (f : WalletAccount → WalletAccount) : Svc Unit := do
  match ← Client.findFirst Db.walletAccounts (isWalletOf agentId) with
  | some (walletId, _) => Client.update Db.walletAccounts .recordNotFound walletId f
  | none => return ()

def transferSuccess (payload : PaystackWebhookEvent) (payoutStatus : PayoutStatus)
    (payoutId : Id) (payout : Payout) (now : Time) : Svc Unit := do
  Client.update Db.payouts .recordNotFound payoutId fun p =>
    { p with
      status := payoutStatus
      paystackReference := paystackReference payload payout
      webhookReceivedAt := some now
      paidAt := payout.paidAt.or (some now) }
  seedChartOfAccounts
  let ledgerResult ←
    postPayoutSuccess payoutId payout.agentId payout.amount payout.asojuFee payout.netAmount
  (if ¬ ledgerResult.success then record Db.financeExceptions ⟨.unbalancedEntry⟩ else pure ())
  linkJournalEntry payoutId ledgerResult
  changeWallet payout.agentId fun w => { w with totalPaid := w.totalPaid + payout.netAmount }

def failureReason (payload : PaystackWebhookEvent) : String :=
  match payload.failures with
  | some (n + 1) => s!"Transfer failed after {n + 1} attempts"
  | _ => "Transfer failed"

def transferFailed (payload : PaystackWebhookEvent) (payoutId : Id) (payout : Payout)
    (now : Time) : Svc Unit := do
  Client.update Db.payouts .recordNotFound payoutId fun p =>
    { p with
      status := .failed
      paystackReference := paystackReference payload payout
      failureReason := some (failureReason payload)
      failureCode := some "TRANSFER_FAILED"
      webhookReceivedAt := some now
      failedAt := some now }
  seedChartOfAccounts
  let reversalResult ← postPayoutReversal payoutId payout.agentId payout.amount
  (if reversalResult.success then
    changeWallet payout.agentId fun w =>
      { w with availableBalance := w.availableBalance + payout.amount }
  else pure ())
  record Db.financeExceptions ⟨.payoutFailure⟩

def transferReversed (payload : PaystackWebhookEvent) (payoutId : Id) (payout : Payout)
    (now : Time) : Svc Unit := do
  Client.update Db.payouts .recordNotFound payoutId fun p =>
    { p with
      status := .reversed
      paystackReference := paystackReference payload payout
      webhookReceivedAt := some now
      reversedAt := some now
      failureReason := some "Transfer reversed by provider" }
  seedChartOfAccounts
  let _ ← postPayoutReversal payoutId payout.agentId payout.amount
  changeWallet payout.agentId fun w =>
    { w with
      availableBalance := w.availableBalance + payout.amount
      totalPaid := w.totalPaid - payout.netAmount }

/-- The action in the audit trail. -/
def auditAction : EventType → String
  | .transferSuccess => "PAYSTACK_WEBHOOK_TRANSFER_SUCCESS"
  | .transferFailed => "PAYSTACK_WEBHOOK_TRANSFER_FAILED"
  | .transferReversed => "PAYSTACK_WEBHOOK_TRANSFER_REVERSED"
  | .unknown => "PAYSTACK_WEBHOOK_UNKNOWN"

/-- What the kind of the event asks for. -/
def settle (payload : PaystackWebhookEvent) (event : WebhookEvent) (payoutId : Id)
    (payout : Payout) (now : Time) : Svc Unit :=
  match event.eventType with
  | .transferSuccess =>
      transferSuccess payload (mapPaystackStatusToPayout event.status) payoutId payout now
  | .transferFailed => transferFailed payload payoutId payout now
  | .transferReversed => transferReversed payload payoutId payout now
  | .unknown => pure ()

/-- The reconciliation of the amounts, the event, and the audit trail. -/
def processEvent (payload : PaystackWebhookEvent) (event : WebhookEvent) (payoutId : Id)
    (payout : Payout) (now : Time) : Svc (Reply Receipt) := do
  (if event.amount > 0 ∧ event.amount ≠ payout.amount then
    record Db.financeExceptions ⟨.amountMismatch⟩
  else pure ())
  settle payload event payoutId payout now
  record Db.adminAuditEvents ⟨auditAction event.eventType, some payoutId⟩
  return .ok { processed := true }

/-- The lookup of the payout, and the check for a duplicate. -/
def deliver (payload : PaystackWebhookEvent) (providerReference : String) (now : Time) :
    Svc (Reply Receipt) := do
  match ← Client.findFirst Db.payouts (hasProviderReference providerReference) with
  | none =>
      record Db.financeExceptions ⟨.reconciliationRequired⟩
      return .ok { processed := false }
  | some (payoutId, payout) =>
      if payout.webhookReceivedAt.isSome then
        record Db.financeExceptions ⟨.duplicateWebhook⟩
        return .ok { processed := true, idempotent := true }
      else
        processEvent payload (parseWebhookEvent payload) payoutId payout now

def receive (payload : PaystackWebhookEvent) (now : Time) : Svc (Reply Receipt) :=
  let event := parseWebhookEvent payload
  match event.eventType, event.providerReference with
  | .unknown, _ => return .ok { processed := false }
  | _, none => return .ok { processed := false }
  | _, some providerReference => deliver payload providerReference now

def POST (payload : PaystackWebhookEvent) (now : Time) : Svc (Reply Receipt) :=
  tryCatch (receive payload now) fun _ => pure (.error 500 "Webhook processing failed")

end PaystackWebhook

end Asoju.FieldForce
