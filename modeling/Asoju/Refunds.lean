/-
Refunds, and the requests for those that need a second actor.

Both ways to a refund, the immediate one and the approval of a request, end in
`executeRefund`: the provider is called, the refund is recorded, and the payment and its
case get their new status.  A decision on a request is written only after that.
-/
import Asoju.Payments

namespace Asoju

open Lib

/-- The sum of the refunds of a payment. -/
def Db.refunded (d : Db) (paymentId : Id) : ℚ :=
  ((d.refund.values.filter fun r => r.paymentId = paymentId).map fun r => r.amount.toRat).sum

/-- A request with the payment it is about. -/
structure RefundRequestDetail where
  request : RefundRequest
  detail : PaymentDetail
deriving DecidableEq, Repr

def Db.refundRequestDetail (d : Db) (i : Id) : Option RefundRequestDetail := do
  let request ← d.refundRequest.get? i
  let detail ← d.paymentDetail request.paymentId
  return ⟨request, detail⟩

/-- The status of a payment from which it can be refunded. -/
def PaymentStatus.refundable (s : PaymentStatus) : Bool := s = .paid ∨ s = .partiallyRefunded

namespace CommerceService

/-- The body of a refund call.  The reason is required, the amount is not. -/
structure RefundPaymentDto where
  amount : Option ℚ := none
  reason : String
deriving DecidableEq, Repr

/-- What is left of a payment to refund. -/
def remainingRefundable (paymentId : Id) (paymentAmount : Money) : Svc ℚ := do
  let refundedSoFar ← Prisma.query .refund (·.refunded paymentId)
  return paymentAmount.toRat - refundedSoFar

/-- The refund itself.  `payment` is the payment as the caller has read it. -/
def executeRefund (actor : AuthenticatedUser) (x : PaymentDetail) (requested : ℚ)
    (reason : Option String) (answer : Except String Unit) : Svc Id := do
  let remaining ← remainingRefundable x.id x.payment.amount
  let refundedSoFar := x.payment.amount.toRat - remaining
  let _ ← Prisma.callProvider answer
  let refund ← Prisma.create .refund fun _ =>
    { paymentId := x.id, amount := money requested, reason, actorId := some actor.id }
  let newStatus : PaymentStatus :=
    if x.payment.amount.toRat ≤ requested + refundedSoFar then .refunded
    else .partiallyRefunded
  let _ ← Prisma.update .payment x.id fun _ p => { p with status := newStatus }
  let _ ← Prisma.update .serviceCase x.invoice.caseId fun _ c =>
    { c with paymentStatus := newStatus }
  return refund

/-- Refunds a payment at once, or, above the threshold, records a request. -/
def refundPayment (env : Env) (actor : AuthenticatedUser) (paymentId : Id)
    (dto : RefundPaymentDto) (answer : Except String Unit) : Svc Id := do
  let some x ← Prisma.query .payment (·.paymentDetail paymentId)
    | throw (.notFound "Payment not found")
  if !x.payment.status.refundable then
    throw (.badRequest s!"Cannot refund a payment in status {x.payment.status.name}")
  let remaining ← remainingRefundable paymentId x.payment.amount
  let requested := dto.amount.getD remaining
  if requested ≤ 0 ∨ remaining < requested then
    throw (.badRequest ("Refund amount must be between 0 and the remaining refundable amount "
      ++ s!"({nairaText remaining})"))
  if refundApprovalThresholdNgn env < requested then
    Prisma.create .refundRequest fun _ =>
      { paymentId, amount := money requested, reason := dto.reason
        requestedById := actor.id }
  else
    executeRefund actor x requested (some dto.reason) answer

/-- Approves a pending request and executes the refund.  The requester cannot approve. -/
def approveRefundRequest (actor : AuthenticatedUser) (refundRequestId : Id)
    (note : Option String) (answer : Except String Unit) : Svc Id := do
  let some ⟨request, x⟩ ← Prisma.query .refundRequest (·.refundRequestDetail refundRequestId)
    | throw (.notFound "Refund request not found")
  if request.status ≠ .pending then
    throw (.badRequest s!"Refund request is already {request.status.name}")
  if request.requestedById = actor.id then
    throw (.forbidden "The refund cannot be approved by the same person who requested it")
  if !x.payment.status.refundable then
    throw (.badRequest s!"Cannot refund a payment in status {x.payment.status.name}")
  let requested := request.amount.toRat
  let remaining ← remainingRefundable x.id x.payment.amount
  if requested ≤ 0 ∨ remaining < requested then
    throw (.badRequest ("Refund amount must be between 0 and the remaining refundable amount "
      ++ s!"({nairaText remaining}) — it may have changed since this request was made"))
  let refund ← executeRefund actor x requested (some request.reason) answer
  let _ ← Prisma.update .refundRequest refundRequestId fun t r =>
    { r with status := .approved, decidedById := some actor.id, decidedAt := some t
             decisionNote := note }
  return refund

/-- Rejects a pending request.  The requester cannot reject it either. -/
def rejectRefundRequest (actor : AuthenticatedUser) (refundRequestId : Id)
    (note : Option String) : Svc RefundRequest := do
  let some ⟨request, _⟩ ← Prisma.query .refundRequest (·.refundRequestDetail refundRequestId)
    | throw (.notFound "Refund request not found")
  if request.status ≠ .pending then
    throw (.badRequest s!"Refund request is already {request.status.name}")
  if request.requestedById = actor.id then
    throw (.forbidden "The refund cannot be rejected by the same person who requested it")
  Prisma.update .refundRequest refundRequestId fun t r =>
    { r with status := .rejected, decidedById := some actor.id, decidedAt := some t
             decisionNote := note }

end CommerceService

/-! ## The methods in closed form -/

/-- The status of a payment after a refund of `requested`. -/
def Db.statusAfterRefund (d : Db) (x : PaymentDetail) (requested : ℚ) : PaymentStatus :=
  if x.payment.amount.toRat ≤ requested + d.refunded x.id then .refunded
  else .partiallyRefunded

/-- The database after a refund. -/
def Db.refundPayment (d : Db) (x : PaymentDetail) (actorId : Id) (requested : ℚ)
    (reason : Option String) : Db :=
  ((d.insertRow .refund ⟨x.id, money requested, reason, some actorId⟩).modifyRow .payment x.id
      fun p => { p with status := d.statusAfterRefund x requested }).modifyRow
    .serviceCase x.invoice.caseId
      fun c => { c with paymentStatus := d.statusAfterRefund x requested }

lemma Db.refundPayment_payment (d : Db) (x : PaymentDetail) (actorId : Id) (requested : ℚ)
    (reason : Option String) :
    (d.refundPayment x actorId requested reason).payment =
      d.payment.modify x.id fun p => { p with status := d.statusAfterRefund x requested } := rfl

lemma Db.statusAfterRefund_ne_paid (d : Db) (x : PaymentDetail) (requested : ℚ) :
    d.statusAfterRefund x requested ≠ .paid := by
  rw [statusAfterRefund]
  split <;> decide

/-- The database after a decision on a request. -/
def Db.decideRequest (d : Db) (i : Id) (status : RefundRequestStatus) (actorId : Id)
    (note : Option String) : Db :=
  d.modifyRow .refundRequest i fun r =>
    { r with status, decidedById := some actorId, decidedAt := some d.clock
             decisionNote := note }

/-- A decision changes nothing but its request. -/
lemma Db.decideRequest_payment (d : Db) (i : Id) (status : RefundRequestStatus) (actorId : Id)
    (note : Option String) : (d.decideRequest i status actorId note).payment = d.payment := rfl

namespace CommerceService

variable (d : Db)

lemma executeRefund_run (actor : AuthenticatedUser) {x : PaymentDetail} (hx : d.Joined x)
    (requested : ℚ) (reason : Option String) (answer : Except String Unit) :
    (executeRefund actor x requested reason answer).run d =
      match answer with
      | .error e => (.error (.internal e), d)
      | .ok () => (.ok d.refund.next, d.refundPayment x actor.id requested reason) := by
  obtain ⟨hp, hinv, c, hc⟩ := hx
  rw [executeRefund]
  cases answer with
  | error e => simp [Prog.run_bind, remainingRefundable, Except.mapError]
  | ok _ =>
    simp [Prog.run_bind, remainingRefundable, Except.mapError, hp, hc, Db.refundPayment,
      Db.statusAfterRefund, Db.insertRow, Db.modifyRow, Db.tick]

/-- What is left of a payment, before a refund. -/
def remaining (x : PaymentDetail) : ℚ := x.payment.amount.toRat - d.refunded x.id

/-- It is a whole number of kobo. -/
lemma remaining_mem_grid (x : PaymentDetail) : remaining d x ∈ Decimal.grid 2 := by
  refine AddSubgroup.sub_mem _ x.payment.amount.toRat_mem_grid (list_sum_mem fun q hq => ?_)
  obtain ⟨r, -, rfl⟩ := List.mem_map.mp hq
  exact r.amount.toRat_mem_grid

lemma refundPayment_exec (env : Env) (actor : AuthenticatedUser) (paymentId : Id)
    (dto : RefundPaymentDto) (answer : Except String Unit) :
    (refundPayment env actor paymentId dto answer).exec d = d ∨
      ∃ x requested, d.paymentDetail paymentId = some x ∧
        x.payment.status.refundable = true ∧ requested = dto.amount.getD (remaining d x) ∧
        0 < requested ∧ requested ≤ remaining d x ∧
        ((refundApprovalThresholdNgn env < requested ∧
            (refundPayment env actor paymentId dto answer).exec d =
              d.insertRow .refundRequest
                { paymentId, amount := money requested, reason := dto.reason
                  requestedById := actor.id }) ∨
          (requested ≤ refundApprovalThresholdNgn env ∧ answer = .ok () ∧
            (refundPayment env actor paymentId dto answer).exec d =
              d.refundPayment x actor.id requested (some dto.reason))) := by
  rw [Prog.exec, refundPayment]
  cases hx : d.paymentDetail paymentId with
  | none => exact Or.inl (by simp [Prog.run_bind, hx])
  | some x =>
    obtain ⟨rfl, hjoined⟩ := d.paymentDetail_eq_some_iff.mp hx
    cases hs : x.payment.status.refundable with
    | false => exact Or.inl (by simp [Prog.run_bind, hx, hs])
    | true =>
      -- The amount that is asked for, given or all that is left.
      obtain ⟨requested, hreq⟩ : ∃ requested, requested = dto.amount.getD (remaining d x) :=
        ⟨_, rfl⟩
      have hreq' : dto.amount.getD (x.payment.amount.toRat - d.refunded x.id) = requested :=
        hreq.symm
      by_cases hbad : requested ≤ 0 ∨ x.payment.amount.toRat - d.refunded x.id < requested
      · exact Or.inl (by
          simp [Prog.run_bind, hx, hs, remainingRefundable, hreq', hbad])
      · have hpos : 0 < requested := not_le.mp fun h => hbad (Or.inl h)
        have hle : requested ≤ remaining d x := not_lt.mp fun h => hbad (Or.inr h)
        by_cases ht : refundApprovalThresholdNgn env < requested
        · refine Or.inr ⟨x, requested, rfl, hs, hreq, hpos, hle, Or.inl ⟨ht, ?_⟩⟩
          simp [Prog.run_bind, hx, hs, remainingRefundable, hreq', hbad, ht]
        · cases answer with
          | error e =>
            exact Or.inl (by
              simp [Prog.run_bind, hx, hs, remainingRefundable, hreq', hbad, ht,
                executeRefund_run d actor hjoined])
          | ok _ =>
            refine Or.inr ⟨x, requested, rfl, hs, hreq, hpos, hle,
              Or.inr ⟨not_lt.mp ht, rfl, ?_⟩⟩
            simp [Prog.run_bind, hx, hs, remainingRefundable, hreq', hbad, ht,
              executeRefund_run d actor hjoined]

/-- Every check of a refund passes, its amount is not above the threshold, and the provider
answers: it goes through at once. -/
structure RefundsNow (env : Env) (paymentId : Id) (dto : RefundPaymentDto)
    (answer : Except String Unit) (x : PaymentDetail) (requested : ℚ) : Prop where
  found : d.paymentDetail paymentId = some x
  refundable : x.payment.status.refundable = true
  amount : requested = dto.amount.getD (remaining d x)
  pos : 0 < requested
  le : requested ≤ remaining d x
  small : requested ≤ refundApprovalThresholdNgn env
  answered : answer = .ok ()

lemma RefundsNow.exec {d : Db} {env : Env} {paymentId : Id} {dto : RefundPaymentDto}
    {answer : Except String Unit} {x : PaymentDetail} {requested : ℚ}
    (h : RefundsNow d env paymentId dto answer x requested) (actor : AuthenticatedUser) :
    (refundPayment env actor paymentId dto answer).exec d =
      d.refundPayment x actor.id requested (some dto.reason) := by
  obtain ⟨hx, hs, hreq, hpos, hle, hsmall, rfl⟩ := h
  obtain ⟨rfl, hjoined⟩ := d.paymentDetail_eq_some_iff.mp hx
  have hbad : ¬ (requested ≤ 0 ∨ x.payment.amount.toRat - d.refunded x.id < requested) :=
    fun h => h.elim (not_le.mpr hpos) (not_lt.mpr hle)
  rw [remaining] at hreq
  rw [Prog.exec, refundPayment]
  simp [Prog.run_bind, hx, hs, remainingRefundable, ← hreq, hbad, not_lt.mpr hsmall,
    executeRefund_run d actor hjoined]

lemma refundRequestDetail_eq_some {i : Id} {y : RefundRequestDetail}
    (h : d.refundRequestDetail i = some y) :
    d.refundRequest.get? i = some y.request ∧ y.detail.id = y.request.paymentId ∧
      d.Joined y.detail := by
  simp only [Db.refundRequestDetail, Option.bind_eq_bind, Option.bind_eq_some_iff] at h
  obtain ⟨request, hr, x, hx, h⟩ := h
  obtain ⟨hid, hjoined⟩ := d.paymentDetail_eq_some_iff.mp hx
  cases h
  exact ⟨hr, hid, hjoined⟩

lemma approveRefundRequest_exec (actor : AuthenticatedUser) (i : Id) (note : Option String)
    (answer : Except String Unit) :
    (approveRefundRequest actor i note answer).exec d = d ∨
      ∃ y, d.refundRequestDetail i = some y ∧ y.request.status = .pending ∧
        y.request.requestedById ≠ actor.id ∧ y.detail.payment.status.refundable = true ∧
        0 < y.request.amount.toRat ∧ y.request.amount.toRat ≤ remaining d y.detail ∧
        answer = .ok () ∧ (approveRefundRequest actor i note answer).exec d =
          (d.refundPayment y.detail actor.id y.request.amount.toRat
            (some y.request.reason)).decideRequest i .approved actor.id note := by
  rw [Prog.exec, approveRefundRequest]
  cases hy : d.refundRequestDetail i with
  | none => exact Or.inl (by simp [Prog.run_bind, hy])
  | some y =>
    obtain ⟨hr, -, hjoined⟩ := refundRequestDetail_eq_some d hy
    by_cases hp : y.request.status = .pending
    · by_cases hown : y.request.requestedById = actor.id
      · exact Or.inl (by simp [Prog.run_bind, hy, hp, hown])
      · cases hs : y.detail.payment.status.refundable with
        | false => exact Or.inl (by simp [Prog.run_bind, hy, hp, hown, hs])
        | true =>
          by_cases hbad : y.request.amount.toRat ≤ 0 ∨
              y.detail.payment.amount.toRat - d.refunded y.detail.id < y.request.amount.toRat
          · exact Or.inl (by
              simp [Prog.run_bind, hy, hp, hown, hs, remainingRefundable, hbad])
          · have hpos : 0 < y.request.amount.toRat := not_le.mp fun h => hbad (Or.inl h)
            have hle : y.request.amount.toRat ≤ remaining d y.detail :=
              not_lt.mp fun h => hbad (Or.inr h)
            cases answer with
            | error e =>
              exact Or.inl (by
                simp [Prog.run_bind, hy, hp, hown, hs, remainingRefundable, hbad,
                  executeRefund_run d actor hjoined])
            | ok _ =>
              refine Or.inr ⟨y, rfl, hp, hown, hs, hpos, hle, rfl, ?_⟩
              simp [Prog.run_bind, hy, hp, hown, hs, remainingRefundable, hbad,
                executeRefund_run d actor hjoined, Db.refundPayment, Db.decideRequest,
                Db.insertRow, Db.modifyRow, Db.tick, hr]
    · exact Or.inl (by simp [Prog.run_bind, hy, hp])

/-- Every check of an approval passes, and the provider answers. -/
structure ApprovesNow (actor : AuthenticatedUser) (i : Id) (answer : Except String Unit)
    (y : RefundRequestDetail) : Prop where
  found : d.refundRequestDetail i = some y
  pending : y.request.status = .pending
  other : y.request.requestedById ≠ actor.id
  refundable : y.detail.payment.status.refundable = true
  pos : 0 < y.request.amount.toRat
  le : y.request.amount.toRat ≤ remaining d y.detail
  answered : answer = .ok ()

lemma ApprovesNow.exec {d : Db} {actor : AuthenticatedUser} {i : Id}
    {answer : Except String Unit} {y : RefundRequestDetail}
    (h : ApprovesNow d actor i answer y) (note : Option String) :
    (approveRefundRequest actor i note answer).exec d =
      (d.refundPayment y.detail actor.id y.request.amount.toRat
        (some y.request.reason)).decideRequest i .approved actor.id note := by
  obtain ⟨hy, hp, hown, hs, hpos, hle, rfl⟩ := h
  obtain ⟨hr, -, hjoined⟩ := refundRequestDetail_eq_some d hy
  have hbad : ¬ (y.request.amount.toRat ≤ 0 ∨
      y.detail.payment.amount.toRat - d.refunded y.detail.id < y.request.amount.toRat) :=
    fun h => h.elim (not_le.mpr hpos) (not_lt.mpr hle)
  rw [Prog.exec, approveRefundRequest]
  simp [Prog.run_bind, hy, hp, hown, hs, remainingRefundable, hbad,
    executeRefund_run d actor hjoined, Db.refundPayment, Db.decideRequest,
    Db.insertRow, Db.modifyRow, Db.tick, hr]

lemma rejectRefundRequest_exec (actor : AuthenticatedUser) (i : Id) (note : Option String) :
    (rejectRefundRequest actor i note).exec d = d ∨
      ∃ y, d.refundRequestDetail i = some y ∧ y.request.status = .pending ∧
        y.request.requestedById ≠ actor.id ∧
        (rejectRefundRequest actor i note).exec d =
          d.decideRequest i .rejected actor.id note := by
  rw [Prog.exec, rejectRefundRequest]
  cases hy : d.refundRequestDetail i with
  | none => exact Or.inl (by simp [Prog.run_bind, hy])
  | some y =>
    have hr := (refundRequestDetail_eq_some d hy).1
    by_cases hp : y.request.status = .pending
    · by_cases hown : y.request.requestedById = actor.id
      · exact Or.inl (by simp [Prog.run_bind, hy, hp, hown])
      · refine Or.inr ⟨y, rfl, hp, hown, ?_⟩
        simp [Prog.run_bind, hy, hp, hown, hr, Db.decideRequest]
    · exact Or.inl (by simp [Prog.run_bind, hy, hp])

end CommerceService

end Asoju
