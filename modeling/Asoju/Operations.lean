/-
The commerce operations, one at a time.

`CommerceOp` lists the calls that can change an invoice, a payment, a refund or a request
for one, or move a case between a quote and its payment; `CommerceOp.step` runs one of them
alone.  The passing of time is an operation of its own, so that payments and quotes can
grow old.  Runs are lists of operations (`Lib/Run.lean`): by any users, about any rows, with
any amounts and with any answers of the provider.
-/
import Asoju.Quotes
import Asoju.Refunds
import Asoju.Lib.Run

namespace Asoju

open Lib

/-- An operation with its arguments and, where the provider is called, the answer. -/
inductive CommerceOp
  | acceptQuote (actor : AuthenticatedUser) (quoteId : Id)
  | initiatePayment (actor : AuthenticatedUser) (invoiceId : Id) (nonce : Fin (2 ^ 32))
      (checkout : Except String Unit)
  | chargeSuccess (reference : Reference) (amountKobo : ℚ)
  | chargeFailed (reference : Reference)
  | resolveReconciliation (actor : AuthenticatedUser) (paymentId : Id)
      (dto : CommerceService.ResolveReconciliationDto)
  | paymentExpirySweep
  | paymentVerificationSweep
      (verify : Reference → Except String CommerceService.VerifyTransactionResult)
  | refundPayment (actor : AuthenticatedUser) (paymentId : Id)
      (dto : CommerceService.RefundPaymentDto) (answer : Except String Unit)
  | approveRefundRequest (actor : AuthenticatedUser) (refundRequestId : Id)
      (note : Option String) (answer : Except String Unit)
  | rejectRefundRequest (actor : AuthenticatedUser) (refundRequestId : Id)
      (note : Option String)
  | holdCase (actor : AuthenticatedUser) (caseId : Id) (reason : String)
  | resumeCase (actor : AuthenticatedUser) (caseId : Id) (reason : Option String)
  | elapse (ms : ℕ)

namespace CommerceOp

/-- The operation, run alone to its end: it returns, or it throws. -/
def step (env : Env) (d : Db) : CommerceOp → Db
  | acceptQuote actor q => (CommerceService.acceptQuote actor q).exec d
  | initiatePayment actor i n checkout =>
      (CommerceService.initiatePayment actor i n checkout).exec d
  | chargeSuccess r a => (CommerceService.handleVerifiedCasePayment r a).exec d
  | chargeFailed r => (CommerceService.handleFailedCasePayment r).exec d
  | resolveReconciliation actor i dto =>
      (CommerceService.resolveReconciliation actor i dto).exec d
  | paymentExpirySweep => (CommerceService.runPaymentExpirySweep env).exec d
  | paymentVerificationSweep verify =>
      (CommerceService.runPaymentVerificationSweep env verify).exec d
  | refundPayment actor i dto answer =>
      (CommerceService.refundPayment env actor i dto answer).exec d
  | approveRefundRequest actor i note answer =>
      (CommerceService.approveRefundRequest actor i note answer).exec d
  | rejectRefundRequest actor i note =>
      (CommerceService.rejectRefundRequest actor i note).exec d
  | holdCase actor i r => (CasesService.holdCase actor i r).exec d
  | resumeCase actor i r => (CasesService.resumeCase actor i r).exec d
  | elapse ms => { d with clock := d.clock + ms }

/-- The operations that write no payment. -/
def keepsPayments : CommerceOp → Bool
  | acceptQuote .. | rejectRefundRequest .. | holdCase .. | resumeCase .. | elapse .. => true
  | _ => false

/-- They leave the table of the payments as it is. -/
lemma step_payment_eq (env : Env) (d : Db) {o : CommerceOp} (h : o.keepsPayments = true) :
    (o.step env d).payment = d.payment := by
  cases o with
  | acceptQuote actor q =>
    rcases CommerceService.acceptQuote_exec d actor q with
      heq | ⟨x, r, d₁, -, rfl | ⟨e, rfl⟩, ⟨-, heq⟩ | ⟨-, heq⟩⟩ <;> rw [step, heq] <;> rfl
  | rejectRefundRequest actor i note =>
    rcases CommerceService.rejectRefundRequest_exec d actor i note with
      heq | ⟨y, -, -, -, heq⟩ <;> rw [step, heq]
    rfl
  | holdCase actor i r =>
    rcases CasesService.holdCase_exec d i actor r with heq | ⟨c, -, -, -, -, heq⟩ <;>
      rw [step, heq]
    rfl
  | resumeCase actor i r =>
    rcases CasesService.resumeCase_exec d i actor r with heq | ⟨c, back, -, -, -, heq⟩ <;>
      rw [step, heq]
    rfl
  | elapse ms => rfl
  | _ => cases h

end CommerceOp

/-- A case that is waiting for the payment of its one invoice, of 1000 naira. -/
def invoicedDb : Db where
  clock := 100
  customer := Table.empty.insert { userId := 7 }
  serviceCase := Table.empty.insert
    { customerId := 0, serviceType := .propertyInspection, description := "Site visit"
      location := "Lekki", status := .awaitingPayment }
  invoice := Table.empty.insert ⟨0, none, ⟨100000⟩, "NGN"⟩

end Asoju
