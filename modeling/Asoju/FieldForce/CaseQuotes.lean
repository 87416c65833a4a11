/-
The quotes of a case: how a customer accepts one (`POST /api/customer/cases/[id]/quotes`), and how an
administrator changes the case (`PATCH /api/admin/cases/[id]`).

An acceptance reads the case and the quote, and then writes both in one transaction, which asks for
nothing again.  The case is read for its owner only: its status, which is read as well, and its
other quotes decide nothing.
-/
import Asoju.FieldForce.Schema
import Asoju.Lib.Window

namespace Asoju.FieldForce

open Lib

/-- `status.toLowerCase()` -/
def QuoteStatus.toLowerCase : QuoteStatus → String
  | .pending => "pending"
  | .accepted => "accepted"
  | .rejected => "rejected"
  | .expired => "expired"

namespace CaseQuotes

/-! ## The customer -/

/-- The body of a request, and the two times at which the clock is read. -/
structure AcceptRequest where
  quoteId : Option Id := none
  action : Option String := none
  now : Time := 0
  acceptedAt : Time := 0
deriving DecidableEq, Repr

/-- What is written into a quote that is accepted. -/
def accepted (acceptedAt : Time) (q : Quote) : Quote :=
  { q with status := .accepted, acceptedAt := some acceptedAt }

/-- What is written into the case. -/
def awaitPayment (amount : ℤ) (c : Case) : Case :=
  { c with status := .paymentPending, quoteAmount := amount }

/-- The quote and the case are written together. -/
def accept (id quoteId : Id) (amount : ℤ) (acceptedAt : Time) : Svc Unit :=
  Client.transaction do
    Client.update Db.quotes .recordNotFound quoteId (accepted acceptedAt)
    Client.update Db.cases .recordNotFound id (awaitPayment amount)

/-- What becomes of the quote that has been read. -/
def settle (id quoteId : Id) (quote : Quote) (r : AcceptRequest) : Svc (Reply String) :=
  if quote.caseId ≠ id then pure (.error 404 "Quote not found")
  else if quote.status ≠ .pending then
    pure (.error 409 ("Quote is already " ++ quote.status.toLowerCase))
  else if quote.expiresAt.any fun expiresAt => r.now > expiresAt then do
    Client.update Db.quotes .recordNotFound quoteId fun q => { q with status := .expired }
    pure (.error 409 "Quote has expired")
  else do
    accept id quoteId quote.amount r.acceptedAt
    pure (.ok "Quote accepted. Please proceed with payment.")

/-- The request of a customer, if he has been authenticated. -/
def process (auth : Option Id) (id : Id) (r : AcceptRequest) : Svc (Reply String) := do
  match auth, r.quoteId with
  | none, _ => pure (.error 401 "Authentication required")
  | some _, none => pure (.error 400 "quoteId and action=accept are required")
  | some customerId, some quoteId =>
      if r.action ≠ some "accept" then
        pure (.error 400 "quoteId and action=accept are required")
      else
        match ← Client.findUnique Db.cases id with
        | none => pure (.error 404 "Case not found")
        | some caseData =>
            if caseData.customerId ≠ customerId then pure (.error 404 "Case not found")
            else
              match ← Client.findUnique Db.quotes quoteId with
              | none => pure (.error 404 "Quote not found")
              | some quote => settle id quoteId quote r

/-- `POST /api/customer/cases/[id]/quotes` -/
def POST (auth : Option Id) (id : Id) (r : AcceptRequest) : Svc (Reply String) :=
  tryCatch (process auth id r) fun _ => pure (.error 500 "Failed to accept quote")

/-! ## The administrator -/

/-- The body of a request: what is given of it is written.  The amounts are as `Number` reads
them. -/
structure CaseUpdate where
  status : Option CaseStatus := none
  priority : Option String := none
  quoteAmount : Option ℤ := none
  agentPayout : Option ℤ := none
  asojuFee : Option ℤ := none
  paymentStatus : Option String := none
  paymentMethod : Option (Option String) := none
  qcStatus : Option (Option QcState) := none
  cancelReason : Option (Option String) := none
  now : Time := 0
deriving DecidableEq, Repr

/-- `updateData`: what is written, by the row that has been read. -/
def updateData (existing : Case) (u : CaseUpdate) (c : Case) : Case :=
  { c with
    status := u.status.getD c.status
    priority := u.priority.getD c.priority
    quoteAmount := u.quoteAmount.getD c.quoteAmount
    agentPayout := u.agentPayout.getD c.agentPayout
    asojuFee := u.asojuFee.getD c.asojuFee
    paymentStatus := u.paymentStatus.getD c.paymentStatus
    paymentMethod := u.paymentMethod.getD c.paymentMethod
    qcStatus := u.qcStatus.getD c.qcStatus
    cancelReason := u.cancelReason.getD c.cancelReason
    completedAt :=
      if u.status = some .completed ∧ existing.completedAt = none then some u.now
      else c.completedAt
    slaCompletedAt :=
      if u.status = some .completed ∧ existing.completedAt = none then some u.now
      else c.slaCompletedAt
    cancelledAt :=
      if u.status = some .cancelled ∧ existing.cancelledAt = none then some u.now
      else c.cancelledAt }

/-- The request of an administrator, if he has been authenticated. -/
def update (admin : Option Id) (id : Id) (u : CaseUpdate) : Svc (Reply Case) := do
  match admin with
  | none => pure (.error 401 "Unauthorized")
  | some _ =>
      match ← Client.findUnique Db.cases id with
      | none => pure (.error 404 "Case not found")
      | some existing =>
          let updated ← Client.updateRow Db.cases .recordNotFound id (updateData existing u)
          record Db.adminAuditEvents { action := "CASE_UPDATED", entityId := some id }
          pure (.ok updated)

/-- `PATCH /api/admin/cases/[id]` -/
def PATCH (admin : Option Id) (id : Id) (u : CaseUpdate) : Svc (Reply Case) :=
  tryCatch (update admin id u) fun _ => pure (.error 500 "Internal server error")

/-- A request of a customer or of an administrator. -/
inductive Call
  | accept (auth : Option Id) (id : Id) (r : AcceptRequest)
  | update (admin : Option Id) (id : Id) (u : CaseUpdate)
deriving DecidableEq, Repr

/-- The program of a call, whose answer does not matter. -/
def code : Call → Svc Unit
  | .accept auth id r => do
      let _ ← POST auth id r
  | .update admin id u => do
      let _ ← PATCH admin id u

end CaseQuotes

end Asoju.FieldForce
