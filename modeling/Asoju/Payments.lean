/-
Payments: their initiation, the provider's events, the sweeps and the reconciliation.

A payment belongs to an invoice and the invoice to a case, and the methods read the three
together (`PaymentDetail`).  What the provider answers is an input.  The notifications and
audit events that follow the writes are left out, with the arguments only they use.

Every method but the sweeps amounts to one of a few changes of one payment, and the lemmas
`…_exec` say to which.
-/
import Asoju.Cases
import Asoju.Config
import Asoju.Lib.Run

namespace Asoju

open Lib

/-! ## Joined reads -/

/-- A payment with its key and its invoice. -/
structure PaymentDetail where
  id : Id
  payment : Payment
  invoice : Invoice
deriving DecidableEq, Repr

/-- An invoice with the user it is addressed to and its payments. -/
structure InvoiceDetail where
  invoice : Invoice
  userId : Id
  payments : List Payment
deriving DecidableEq, Repr

/-- One of the payments has already been paid. -/
def InvoiceDetail.alreadyPaid (x : InvoiceDetail) : Bool :=
  x.payments.any fun p => p.status = .paid

namespace Db

variable (d : Db)

/-- The provider reference belongs to a payment already. -/
def referenceTaken (reference : Reference) : Bool :=
  d.payment.values.any fun p => p.providerReference = reference

/-- The payment with its invoice and its case. -/
def paymentDetail (i : Id) : Option PaymentDetail := do
  let payment ← d.payment.get? i
  let invoice ← d.invoice.get? payment.invoiceId
  let _ ← d.serviceCase.get? invoice.caseId
  return ⟨i, payment, invoice⟩

/-- The payment with the given provider reference, which is unique. -/
def paymentByReference (reference : Reference) : Option PaymentDetail := do
  let (i, _) ← d.payment.rows.find? fun p => p.2.providerReference = reference
  d.paymentDetail i

/-- The payments of an invoice. -/
def paymentsOf (invoiceId : Id) : List Payment :=
  d.payment.values.filter fun p => p.invoiceId = invoiceId

def invoiceDetail (invoiceId : Id) : Option InvoiceDetail := do
  let invoice ← d.invoice.get? invoiceId
  let serviceCase ← d.serviceCase.get? invoice.caseId
  let customer ← d.customer.get? serviceCase.customerId
  return ⟨invoice, customer.userId, d.paymentsOf invoiceId⟩

end Db

/-- The number of kobo that the provider is expected to report for the payment. -/
def Payment.expectedKobo (p : Payment) : ℤ := roundHalfUp (p.amount.toRat * 100)

namespace CommerceService

/-! ## Initiation -/

/-- Starts a checkout.  The provider is called before the payment is written. -/
def initiatePayment (actor : AuthenticatedUser) (invoiceId : Id) (nonce : Fin (2 ^ 32))
    (checkout : Except String Unit) : Svc Id := do
  let some detail ← Prisma.query .invoice (·.invoiceDetail invoiceId)
    | throw (.notFound "Invoice not found")
  if detail.userId ≠ actor.id then throw (.forbidden "Not authorised for this invoice")
  if detail.alreadyPaid then throw (.badRequest "Invoice already paid")
  let reference := Reference.caseInvoice invoiceId nonce
  let _ ← Prisma.callProvider checkout
  Prisma.createUnique .payment (·.referenceTaken reference) fun t =>
    { invoiceId, amount := detail.invoice.amount, currency := detail.invoice.currency
      provider := "paystack", providerReference := reference, status := .pending
      createdAt := t }

/-! ## The provider's events -/

/-- A verified `charge.success` event. -/
def handleVerifiedCasePayment (reference : Reference) (amountKobo : ℚ) : Svc Payment := do
  let some ⟨paymentId, payment, invoice⟩ ←
      Prisma.query .payment (·.paymentByReference reference)
    | throw (.notFound s!"No payment pending for reference {reference.text}")
  if (payment.expectedKobo : ℚ) ≠ amountKobo then
    -- Signed by the provider, but not the amount that was asked for.
    if payment.status ≠ .paid then
      let _ ← Prisma.update .payment paymentId fun _ p =>
        { p with status := .reconciliationRequired }
      let _ ← Prisma.update .serviceCase invoice.caseId fun _ c =>
        { c with paymentStatus := .reconciliationRequired }
    throw (.badRequest "Payment amount does not match invoice — flagged for Finance review")
  if payment.status = .paid then return payment
  let updated ← Prisma.update .payment paymentId fun t p =>
    { p with status := .paid, providerWebhookVerifiedAt := some t }
  let serviceCase ← Prisma.update .serviceCase invoice.caseId fun _ c =>
    { c with paymentStatus := .paid }
  if serviceCase.status = .awaitingPayment then
    let _ ← CasesService.systemTransitionCase invoice.caseId .scheduled
      (some "Payment verified by Paystack webhook")
  return updated

/-- A verified `charge.failed` event. -/
def handleFailedCasePayment (reference : Reference) : Svc Payment := do
  let some ⟨paymentId, payment, _⟩ ← Prisma.query .payment (·.paymentByReference reference)
    | throw (.notFound s!"No payment pending for reference {reference.text}")
  if payment.status = .paid then return payment
  if payment.status = .failed then return payment
  Prisma.update .payment paymentId fun _ p => { p with status := .failed }

/-! ## Reconciliation -/

structure ResolveReconciliationDto where
  status : ReconciliationStatus
  notes : String
  resolvedAmount : Option ℚ := none
deriving DecidableEq, Repr

/-- The amount that a decision puts in the place of the old one: only a match has one, and
a zero counts as no amount. -/
def ResolveReconciliationDto.newAmount (dto : ResolveReconciliationDto) : Option ℚ :=
  if dto.status = .matched then dto.resolvedAmount.filter (· ≠ 0) else none

/-- The status that a decision gives the payment. -/
def ResolveReconciliationDto.newPaymentStatus (dto : ResolveReconciliationDto) :
    PaymentStatus :=
  if dto.status = .matched then .paid else .failed

/-- The payment after Finance's decision. -/
def reconciled (dto : ResolveReconciliationDto) (t : Time) (p : Payment) : Payment :=
  { p with
    status := dto.newPaymentStatus
    amount := (dto.newAmount.map money).getD p.amount
    providerWebhookVerifiedAt :=
      if dto.newPaymentStatus = .paid then some t else p.providerWebhookVerifiedAt }

/-- Finance's decision on a payment whose amount did not match. -/
def resolveReconciliation (actor : AuthenticatedUser) (paymentId : Id)
    (dto : ResolveReconciliationDto) : Svc Id := do
  let some ⟨_, payment, invoice⟩ ← Prisma.query .payment (·.paymentDetail paymentId)
    | throw (.notFound "Payment not found")
  if payment.status ≠ .reconciliationRequired then
    throw (.badRequest
      s!"Payment is in status {payment.status.name}, not awaiting reconciliation")
  let _ ← Prisma.update .payment paymentId (reconciled dto)
  let _ ← Prisma.update .serviceCase invoice.caseId fun _ c =>
    { c with paymentStatus := dto.newPaymentStatus }
  Prisma.create .reconciliation fun _ =>
    { paymentId, status := dto.status, notes := dto.notes, reconciledBy := some actor.id }

/-! ## The sweeps -/

/-- The payment is still open. -/
def isOpen (p : Payment) : Bool := p.status = .pending ∨ p.status = .processing

/-- The open payments that are older than the payment window. -/
def stalePayments (env : Env) (now : Time) (d : Db) : List (Id × Payment) :=
  let cutoff := dateOf (now - hoursMs (paymentExpiryHours env))
  d.payment.rows.filter fun p => isOpen p.2 ∧ p.2.createdAt < cutoff

/-- Expires them. -/
def runPaymentExpirySweep (env : Env) : Svc ℕ := do
  let now ← Prisma.now
  let stale ← Prisma.query .payment (stalePayments env now)
  stale.forM fun p => do
    let _ ← Prisma.update .payment p.1 fun _ q => { q with status := .expired }
  return stale.length

/-- The provider's own vocabulary for the status of a transaction. -/
inductive PaystackVerifyStatus
  | success | failed | abandoned | pending | ongoing | queued | reversed
deriving DecidableEq, Repr

/-- What the provider answers to a poll. -/
inductive VerifyTransactionResult
  | dryRun
  | reported (status : PaystackVerifyStatus) (amountKobo : ℚ)
deriving DecidableEq, Repr

/-- Applies the answer to a poll about one payment, as it was when the sweep read it. -/
def applyVerification (paymentId : Id) (payment : Payment) :
    VerifyTransactionResult → Svc Unit
  | .dryRun => pure ()
  | .reported .success amountKobo => do
      let _ ← handleVerifiedCasePayment payment.providerReference amountKobo
  | .reported .failed _ | .reported .abandoned _ | .reported .reversed _ => do
      let _ ← handleFailedCasePayment payment.providerReference
  | .reported .pending _ | .reported .ongoing _ | .reported .queued _ => do
      if payment.status ≠ .processing then
        let _ ← Prisma.update .payment paymentId fun _ p => { p with status := .processing }

/-- Polls the provider about one payment; what goes wrong is logged and skipped. -/
def verifyPayment (verify : Reference → Except String VerifyTransactionResult)
    (paymentId : Id) (payment : Payment) : Svc Unit := do
  tryCatch
    (do let result ← Prisma.callProvider (verify payment.providerReference)
        applyVerification paymentId payment result)
    fun _ => pure ()

/-- The open payments that are neither too young nor too old to ask the provider about. -/
def verificationCandidates (env : Env) (now : Time) (d : Db) : List (Id × Payment) :=
  let minAgeCutoff := dateOf (now - paymentVerificationMinAgeMinutes env * 60 * 1000)
  let expiryCutoff := dateOf (now - hoursMs (paymentExpiryHours env))
  d.payment.rows.filter fun p =>
    isOpen p.2 ∧ p.2.createdAt < minAgeCutoff ∧ expiryCutoff ≤ p.2.createdAt

/-- Asks the provider about each of them. -/
def runPaymentVerificationSweep (env : Env)
    (verify : Reference → Except String VerifyTransactionResult) : Svc ℕ := do
  let now ← Prisma.now
  let candidates ← Prisma.query .payment (verificationCandidates env now)
  candidates.forM fun p => verifyPayment verify p.1 p.2
  return candidates.length

end CommerceService

/-! ## The methods in closed form -/

/-- The payment, its invoice and its case are in the database. -/
structure Db.Joined (d : Db) (x : PaymentDetail) : Prop where
  payment : d.payment.get? x.id = some x.payment
  invoice : d.invoice.get? x.payment.invoiceId = some x.invoice
  serviceCase : ∃ c, d.serviceCase.get? x.invoice.caseId = some c

namespace Db

variable (d : Db)

lemma paymentDetail_eq_some_iff {i : Id} {x : PaymentDetail} :
    d.paymentDetail i = some x ↔ x.id = i ∧ d.Joined x := by
  obtain ⟨j, p, inv⟩ := x
  constructor
  · intro h
    simp only [paymentDetail, Option.bind_eq_bind, Option.bind_eq_some_iff] at h
    obtain ⟨p', hp, inv', hinv, c, hc, h⟩ := h
    cases h
    exact ⟨rfl, hp, hinv, c, hc⟩
  · rintro ⟨rfl, hp, hinv, c, hc⟩
    have hp : d.payment.get? j = some p := hp
    have hinv : d.invoice.get? p.invoiceId = some inv := hinv
    have hc : d.serviceCase.get? inv.caseId = some c := hc
    simp [paymentDetail, hp, hinv, hc]

lemma joined_of_paymentByReference {reference : Reference} {x : PaymentDetail}
    (h : d.paymentByReference reference = some x) :
    d.Joined x ∧ x.payment.providerReference = reference := by
  simp only [paymentByReference, Option.bind_eq_bind, Option.bind_eq_some_iff] at h
  obtain ⟨⟨i, p⟩, hfind, hdetail⟩ := h
  obtain ⟨rfl, hx⟩ := d.paymentDetail_eq_some_iff.mp hdetail
  have hp := d.payment.mem_rows_iff.mp (List.mem_of_find?_eq_some hfind)
  obtain rfl : p = x.payment := Option.some.inj (hp.symm.trans hx.payment)
  exact ⟨hx, by simpa using List.find?_some hfind⟩

/-- A payment and its case are flagged for reconciliation. -/
def flagPayment (x : PaymentDetail) : Db :=
  (d.modifyRow .payment x.id fun p => { p with status := .reconciliationRequired }).modifyRow
    .serviceCase x.invoice.caseId fun c => { c with paymentStatus := .reconciliationRequired }

/-- A payment and its case are marked as paid. -/
def markPaid (x : PaymentDetail) : Db :=
  (d.modifyRow .payment x.id fun p =>
      { p with status := .paid, providerWebhookVerifiedAt := some d.clock }).modifyRow
    .serviceCase x.invoice.caseId fun c => { c with paymentStatus := .paid }

/-- A payment is marked as paid, and its case is scheduled if it was waiting for that. -/
def verifyPayment (x : PaymentDetail) : Db :=
  match d.serviceCase.get? x.invoice.caseId with
  | some c =>
      if c.status = .awaitingPayment then
        (d.markPaid x).moveCase x.invoice.caseId { c with paymentStatus := .paid } .scheduled
          c.heldFromStatus none (some "Payment verified by Paystack webhook")
      else d.markPaid x
  | none => d.markPaid x

/-- Finance's decision is written to the payment and its case, and recorded. -/
def reconcilePayment (x : PaymentDetail) (dto : CommerceService.ResolveReconciliationDto)
    (actorId : Id) : Db :=
  ((d.modifyRow .payment x.id (CommerceService.reconciled dto d.clock)).modifyRow
      .serviceCase x.invoice.caseId
      fun c => { c with paymentStatus := dto.newPaymentStatus }).insertRow
    .reconciliation ⟨x.id, dto.status, dto.notes, some actorId⟩

/-! ### What these changes do to the payments -/

lemma modifyRow_payment (i : Id) (f : Payment → Payment) :
    (d.modifyRow .payment i f).payment = d.payment.modify i f := rfl

lemma flagPayment_payment (x : PaymentDetail) :
    (d.flagPayment x).payment =
      d.payment.modify x.id fun p => { p with status := .reconciliationRequired } := rfl

lemma verifyPayment_payment (x : PaymentDetail) :
    (d.verifyPayment x).payment =
      d.payment.modify x.id fun p =>
        { p with status := .paid, providerWebhookVerifiedAt := some d.clock } := by
  rw [verifyPayment]
  split
  · split <;> rfl
  · rfl

lemma reconcilePayment_payment (x : PaymentDetail)
    (dto : CommerceService.ResolveReconciliationDto) (actorId : Id) :
    (d.reconcilePayment x dto actorId).payment =
      d.payment.modify x.id (CommerceService.reconciled dto d.clock) := rfl

end Db

namespace CommerceService

variable (d : Db)

lemma initiatePayment_exec (actor : AuthenticatedUser) (invoiceId : Id)
    (nonce : Fin (2 ^ 32)) (checkout : Except String Unit) :
    (initiatePayment actor invoiceId nonce checkout).exec d = d ∨
      ∃ detail, d.invoiceDetail invoiceId = some detail ∧ detail.userId = actor.id ∧
        detail.alreadyPaid = false ∧ d.referenceTaken (.caseInvoice invoiceId nonce) = false ∧
        (initiatePayment actor invoiceId nonce checkout).exec d =
          d.insertRow .payment
            { invoiceId, amount := detail.invoice.amount, currency := detail.invoice.currency
              providerReference := .caseInvoice invoiceId nonce, createdAt := d.clock } := by
  rw [Prog.exec, initiatePayment]
  cases hdetail : d.invoiceDetail invoiceId with
  | none => exact Or.inl (by simp [Prog.run_bind, hdetail])
  | some detail =>
    by_cases hu : detail.userId = actor.id
    · cases hp : detail.alreadyPaid with
      | true => exact Or.inl (by simp [Prog.run_bind, hdetail, hu, hp])
      | false =>
        cases checkout with
        | error e => exact Or.inl (by simp [Prog.run_bind, hdetail, hu, hp, Except.mapError])
        | ok _ =>
          cases hc : d.referenceTaken (.caseInvoice invoiceId nonce) with
          | true => exact Or.inl (by simp [Prog.run_bind, hdetail, hu, hp, Except.mapError, hc])
          | false =>
            refine Or.inr ⟨detail, rfl, hu, hp, rfl, ?_⟩
            simp [Prog.run_bind, hdetail, hu, hp, Except.mapError, hc]
    · exact Or.inl (by simp [Prog.run_bind, hdetail, hu])

/-- What a success event does. -/
lemma handleVerifiedCasePayment_exec (reference : Reference) (amountKobo : ℚ) :
    (handleVerifiedCasePayment reference amountKobo).exec d =
      match d.paymentByReference reference with
      | none => d
      | some x =>
          if x.payment.status = .paid then d
          else if (x.payment.expectedKobo : ℚ) ≠ amountKobo then d.flagPayment x
          else d.verifyPayment x := by
  rw [Prog.exec, handleVerifiedCasePayment]
  cases hx : d.paymentByReference reference with
  | none => simp [Prog.run_bind, hx]
  | some x =>
    obtain ⟨⟨hp, hinv, c, hc⟩, -⟩ := d.joined_of_paymentByReference hx
    by_cases ha : (x.payment.expectedKobo : ℚ) = amountKobo
    · by_cases hs : x.payment.status = .paid
      · simp [Prog.run_bind, hx, ha, hs]
      · by_cases hw : c.status = .awaitingPayment
        · simp [Prog.run_bind, hx, ha, hs, hp, hc, hw, Db.modifyRow, Db.tick, Db.verifyPayment,
            Db.markPaid, CasesService.systemTransitionCase, CasesService.applyTransition_run,
            transitions]
        · simp [Prog.run_bind, hx, ha, hs, hp, hc, hw, Db.modifyRow, Db.tick, Db.verifyPayment,
            Db.markPaid]
    · by_cases hs : x.payment.status = .paid
      · simp [Prog.run_bind, hx, ha, hs]
      · simp [Prog.run_bind, hx, ha, hs, hp, hc, Db.modifyRow, Db.tick, Db.flagPayment]

/-- What a failure event does. -/
lemma handleFailedCasePayment_exec (reference : Reference) :
    (handleFailedCasePayment reference).exec d =
      match d.paymentByReference reference with
      | none => d
      | some x =>
          if x.payment.status = .paid ∨ x.payment.status = .failed then d
          else d.modifyRow .payment x.id fun p => { p with status := .failed } := by
  rw [Prog.exec, handleFailedCasePayment]
  cases hx : d.paymentByReference reference with
  | none => simp [Prog.run_bind, hx]
  | some x =>
    have hp := (d.joined_of_paymentByReference hx).1.payment
    by_cases hs : x.payment.status = .paid
    · simp [Prog.run_bind, hx, hs]
    · by_cases hf : x.payment.status = .failed
      · simp [Prog.run_bind, hx, hf]
      · simp [Prog.run_bind, hx, hs, hf, hp]

/-- What a decision of Finance does. -/
lemma resolveReconciliation_exec (actor : AuthenticatedUser) (paymentId : Id)
    (dto : ResolveReconciliationDto) :
    (resolveReconciliation actor paymentId dto).exec d =
      match d.paymentDetail paymentId with
      | none => d
      | some x =>
          if x.payment.status = .reconciliationRequired then
            d.reconcilePayment x dto actor.id
          else d := by
  rw [Prog.exec, resolveReconciliation]
  cases hx : d.paymentDetail paymentId with
  | none => simp [Prog.run_bind, hx]
  | some x =>
    obtain ⟨rfl, hp, hinv, c, hc⟩ := d.paymentDetail_eq_some_iff.mp hx
    by_cases hs : x.payment.status = .reconciliationRequired
    · simp [Prog.run_bind, hx, hs, hp, hc, Db.modifyRow, Db.tick, Db.reconcilePayment]
    · simp [Prog.run_bind, hx, hs]

/-- One round of the verification sweep, whatever the provider answers. -/
lemma verifyPayment_exec (verify : Reference → Except String VerifyTransactionResult)
    (i : Id) (p : Payment) :
    (verifyPayment verify i p).exec d = d ∨
      (∃ amountKobo, verify p.providerReference = .ok (.reported .success amountKobo) ∧
        (verifyPayment verify i p).exec d =
          (handleVerifiedCasePayment p.providerReference amountKobo).exec d) ∨
      (verifyPayment verify i p).exec d =
        (handleFailedCasePayment p.providerReference).exec d ∨
      (verifyPayment verify i p).exec d =
        d.modifyRow .payment i fun q => { q with status := .processing } := by
  rw [verifyPayment, Prog.exec_tryCatch_pure]
  cases hv : verify p.providerReference with
  | error e => exact Or.inl rfl
  | ok result =>
    have hexec : (Prisma.callProvider (Except.ok result) >>= applyVerification i p).exec d =
        (applyVerification i p result).exec d := rfl
    rw [hexec]
    cases result with
    | dryRun => exact Or.inl rfl
    | reported status amountKobo =>
      cases status with
      | success => exact Or.inr (Or.inl ⟨amountKobo, rfl, Prog.exec_bind_pure _ _ _⟩)
      | failed | abandoned | reversed =>
        exact Or.inr (Or.inr (Or.inl (Prog.exec_bind_pure _ _ _)))
      | pending | ongoing | queued =>
        by_cases hs : p.status = .processing
        · exact Or.inl (by simp [applyVerification, hs, Prog.exec])
        · refine Or.inr (Or.inr (Or.inr ?_))
          simp only [applyVerification, hs, ne_eq, not_false_eq_true, if_true,
            Prog.exec_bind_pure]
          rw [Prog.exec, Prisma.run_update]
          cases (Rel.payment.get d).get? i <;> rfl

/-- The verification sweep is its rounds, one after the other: none of them fails. -/
lemma runPaymentVerificationSweep_exec (env : Env)
    (verify : Reference → Except String VerifyTransactionResult) :
    (runPaymentVerificationSweep env verify).exec d =
      runFrom (fun d p => (verifyPayment verify p.1 p.2).exec d) d
        (verificationCandidates env d.clock d) := by
  have hok : ∀ (p : Id × Payment) (d : Db),
      ((verifyPayment verify p.1 p.2).run d).1 = .ok () := by
    intro p d
    rw [verifyPayment, Prog.run_tryCatch]
    rcases Prog.run _ d with ⟨_ | a, d'⟩ <;> rfl
  simp only [Prog.exec, runPaymentVerificationSweep, Prog.run_bind, Prisma.run_now,
    Prisma.run_query, Prog.run_forM hok, runFrom, Prog.run_pure]

/-- The expiry sweep reads its candidates once and then changes them one after the other to
EXPIRED, so that it keeps what each such change keeps. -/
lemma runPaymentExpirySweep_keeps {R : Db → Db → Prop} (hr : ∀ d, R d d)
    (ht : ∀ a b c, R a b → R b c → R a c) (env : Env)
    (hround : ∀ p ∈ stalePayments env d.clock d, ∀ d' : Db,
      R d' (d'.modifyRow .payment p.1 fun q => { q with status := .expired })) :
    R d ((runPaymentExpirySweep env).exec d) := by
  have hexec : (runPaymentExpirySweep env).exec d =
      ((stalePayments env d.clock d).forM fun p => do
        let _ ← Prisma.update .payment p.1 fun _ q => { q with status := .expired }).exec d :=
    Prog.exec_bind_pure _ _ _
  rw [hexec]
  refine Prog.Keeps.forM hr ht (fun p hp d' => ?_) d
  rw [Prog.exec_bind_pure, Prog.exec, Prisma.run_update]
  have h := hround p hp d'
  cases (Rel.payment.get d').get? p.1 <;> exact h

end CommerceService

end Asoju
