/-
Refund conservation: the refunds of a payment stay within its amount.

Every refund is checked against what is left of the payment, so only a change of the amount
itself can break the bound, and the one operation that changes it is the resolution of a
reconciliation.  `refunds_within_amount_iff` says of every run when the bound holds.
-/
import Asoju.Operations

namespace Asoju

open Lib CommerceService

/-- The payment is there, and its refunds are within its amount. -/
def Conserved (paymentId : Id) (d : Db) : Prop :=
  ∃ p, d.payment.get? paymentId = some p ∧ d.refunded paymentId ≤ p.amount.toRat

/-- The refunds, and the amount of the one payment, are the same before and after. -/
def SameMoney (paymentId : Id) (d d' : Db) : Prop :=
  d'.refund = d.refund ∧
    (d'.payment.get? paymentId).map Payment.amount =
      (d.payment.get? paymentId).map Payment.amount

section

variable {paymentId : Id}

lemma SameMoney.refl (d : Db) : SameMoney paymentId d d := ⟨rfl, rfl⟩

lemma SameMoney.trans {a b c : Db} (hab : SameMoney paymentId a b)
    (hbc : SameMoney paymentId b c) : SameMoney paymentId a c :=
  ⟨hbc.1.trans hab.1, hbc.2.trans hab.2⟩

lemma SameMoney.of_tables {d d' : Db} (hrefund : d'.refund = d.refund)
    (hpayment : d'.payment = d.payment) : SameMoney paymentId d d' :=
  ⟨hrefund, by rw [hpayment]⟩

/-- A change of a payment that leaves its amount alone. -/
lemma map_amount_modify (t : Table Payment) (i j : Id) {f : Payment → Payment}
    (hf : ∀ p, (f p).amount = p.amount) :
    ((t.modify i f).get? j).map Payment.amount = (t.get? j).map Payment.amount := by
  rw [Table.get?_modify]
  split
  · cases t.get? j with
    | none => rfl
    | some p => exact congrArg some (hf p)
  · rfl

lemma SameMoney.modifyRow (d : Db) (i : Id) {f : Payment → Payment}
    (hf : ∀ p, (f p).amount = p.amount) :
    SameMoney paymentId d (d.modifyRow .payment i f) :=
  ⟨rfl, map_amount_modify d.payment i paymentId hf⟩

lemma SameMoney.conserved {d d' : Db} (h : SameMoney paymentId d d')
    (hd : Conserved paymentId d) : Conserved paymentId d' := by
  obtain ⟨p, hp, hle⟩ := hd
  have hamount := h.2
  rw [hp, Option.map_some, Option.map_eq_some_iff] at hamount
  obtain ⟨p', hp', heq⟩ := hamount
  refine ⟨p', hp', ?_⟩
  rw [heq, Db.refunded, h.1]
  exact hle

/-! ### The operations that leave the money alone -/

lemma sameMoney_chargeSuccess (d : Db) (reference : Reference) (amountKobo : ℚ) :
    SameMoney paymentId d ((handleVerifiedCasePayment reference amountKobo).exec d) := by
  rw [handleVerifiedCasePayment_exec]
  cases d.paymentByReference reference with
  | none => exact .refl d
  | some x =>
    have hpaid : SameMoney paymentId d (d.markPaid x) := by
      refine ⟨rfl, ?_⟩
      simp [Db.markPaid, Db.modifyRow, Db.tick, map_amount_modify]
    dsimp only
    split_ifs
    · exact .refl d
    · refine ⟨rfl, ?_⟩
      simp [Db.flagPayment, Db.modifyRow, Db.tick, map_amount_modify]
    · rw [Db.verifyPayment]
      split
      · split
        · exact hpaid.trans (.of_tables rfl rfl)
        · exact hpaid
      · exact hpaid

lemma sameMoney_chargeFailed (d : Db) (reference : Reference) :
    SameMoney paymentId d ((handleFailedCasePayment reference).exec d) := by
  rw [handleFailedCasePayment_exec]
  cases d.paymentByReference reference with
  | none => exact .refl d
  | some x =>
    dsimp only
    split_ifs
    · exact .refl d
    · exact .modifyRow d x.id fun _ => rfl

lemma sameMoney_expirySweep (env : Env) (d : Db) :
    SameMoney paymentId d ((runPaymentExpirySweep env).exec d) :=
  runPaymentExpirySweep_keeps d .refl (fun _ _ _ => .trans) env
    fun p _ d' => .modifyRow d' p.1 fun _ => rfl

lemma sameMoney_verifyPayment (d : Db)
    (verify : Reference → Except String VerifyTransactionResult) (i : Id) (p : Payment) :
    SameMoney paymentId d ((verifyPayment verify i p).exec d) := by
  rcases verifyPayment_exec d verify i p with heq | ⟨a, -, heq⟩ | heq | heq <;> rw [heq]
  · exact .refl d
  · exact sameMoney_chargeSuccess d _ _
  · exact sameMoney_chargeFailed d _
  · exact .modifyRow d i fun _ => rfl

lemma sameMoney_acceptQuote (d : Db) (actor : AuthenticatedUser) (quoteId : Id) :
    SameMoney paymentId d ((acceptQuote actor quoteId).exec d) := by
  rcases acceptQuote_exec d actor quoteId with
    heq | ⟨x, r, d₁, -, rfl | ⟨e, rfl⟩, ⟨-, heq⟩ | ⟨-, heq⟩⟩ <;> rw [heq]
  · exact .refl d
  all_goals exact .of_tables rfl rfl

lemma sameMoney_initiatePayment {d : Db} (h : Conserved paymentId d)
    (actor : AuthenticatedUser) (invoiceId : Id) (nonce : Fin (2 ^ 32))
    (checkout : Except String Unit) :
    SameMoney paymentId d ((initiatePayment actor invoiceId nonce checkout).exec d) := by
  rcases initiatePayment_exec d actor invoiceId nonce checkout with
    heq | ⟨detail, -, -, -, -, heq⟩ <;> rw [heq]
  · exact .refl d
  · obtain ⟨p, hp, -⟩ := h
    refine ⟨rfl, ?_⟩
    show ((d.payment.insert _).get? paymentId).map Payment.amount = _
    rw [Table.get?_insert_of_some hp, hp]

/-! ### Refunds -/

lemma refunded_insertRow (d : Db) (r : Refund) :
    (d.insertRow .refund r).refunded paymentId =
      d.refunded paymentId + if r.paymentId = paymentId then r.amount.toRat else 0 := by
  by_cases h : r.paymentId = paymentId <;>
    simp [Db.refunded, Db.insertRow, Db.tick, h]

/-- A refund of at most what is left keeps the bound.  What is written is the requested
number rounded to kobo, and the rounding cannot cross what is left, which is a whole number
of kobo. -/
lemma Conserved.refundPayment {d : Db} (h : Conserved paymentId d) {x : PaymentDetail}
    (hx : d.Joined x) {requested : ℚ} (hle : requested ≤ remaining d x) (actorId : Id)
    (reason : Option String) : Conserved paymentId (d.refundPayment x actorId requested reason) := by
  obtain ⟨p, hp, hbound⟩ := h
  have hrefunded : (d.refundPayment x actorId requested reason).refunded paymentId =
      d.refunded paymentId +
        if x.id = paymentId then (money requested).toRat else 0 :=
    refunded_insertRow d _
  have hamount := map_amount_modify d.payment x.id paymentId
    (f := fun p => { p with status := d.statusAfterRefund x requested }) fun _ => rfl
  rw [hp, Option.map_some, Option.map_eq_some_iff] at hamount
  obtain ⟨p', hp', hamount⟩ := hamount
  refine ⟨p', hp', ?_⟩
  rw [hrefunded, hamount]
  split_ifs with hid
  · subst hid
    obtain rfl : p = x.payment := Option.some.inj (hp.symm.trans hx.payment)
    have hstore : (money requested).toRat ≤ remaining d x :=
      Decimal.store_le (remaining_mem_grid d x) hle
    rw [remaining] at hstore
    linarith
  · linarith

/-! ### Every operation -/

/-- The operation does not put an amount in the place of the payment's that is below its
refunds.  Only a match with a resolved amount could. -/
def KeepsAmount (paymentId : Id) (d : Db) : CommerceOp → Prop
  | .resolveReconciliation _ i dto =>
      ∀ x, d.paymentDetail i = some x → x.payment.status = .reconciliationRequired →
        i = paymentId → ∀ a, dto.newAmount = some a →
          d.refunded paymentId ≤ (money a).toRat
  | _ => True

/-- Exactly the decisions with an amount below the refunds break the bound. -/
lemma conserved_resolveReconciliation_iff {d : Db} (h : Conserved paymentId d)
    (actor : AuthenticatedUser) (i : Id) (dto : ResolveReconciliationDto) :
    Conserved paymentId ((resolveReconciliation actor i dto).exec d) ↔
      ∀ x, d.paymentDetail i = some x → x.payment.status = .reconciliationRequired →
        i = paymentId → ∀ a, dto.newAmount = some a →
          d.refunded paymentId ≤ (money a).toRat := by
  rw [resolveReconciliation_exec]
  cases hx : d.paymentDetail i with
  | none => exact iff_of_true h fun x hx' => absurd hx' (by simp)
  | some x =>
    obtain ⟨rfl, hjoined⟩ := d.paymentDetail_eq_some_iff.mp hx
    dsimp only
    by_cases hs : x.payment.status = .reconciliationRequired
    · rw [if_pos hs]
      by_cases hid : x.id = paymentId
      · subst hid
        have hget : (d.reconcilePayment x dto actor.id).payment.get? x.id =
            some (reconciled dto d.clock x.payment) := by
          simp [Db.reconcilePayment, Db.insertRow, Db.modifyRow, Db.tick, hjoined.payment]
        have hconserved : Conserved x.id (d.reconcilePayment x dto actor.id) ↔
            d.refunded x.id ≤ (reconciled dto d.clock x.payment).amount.toRat := by
          constructor
          · rintro ⟨p, hp, hle⟩
            rw [← Option.some.inj (hp.symm.trans hget)]
            exact hle
          · exact fun hle => ⟨_, hget, hle⟩
        rw [hconserved]
        obtain ⟨p, hp, hbound⟩ := h
        obtain rfl : p = x.payment := Option.some.inj (hp.symm.trans hjoined.payment)
        constructor
        · rintro hle x' hx' - - a ha
          simpa [reconciled, ha] using hle
        · intro hle
          cases ha : dto.newAmount with
          | none => simpa [reconciled, ha] using hbound
          | some a => simpa [reconciled, ha] using hle x rfl hs rfl a ha
      · refine iff_of_true ?_ fun x' _ _ hid' => absurd hid' hid
        have hsame : SameMoney paymentId d (d.reconcilePayment x dto actor.id) := by
          refine ⟨rfl, ?_⟩
          simp [Db.reconcilePayment, Db.insertRow, Db.modifyRow, Db.tick,
            Table.get?_modify_of_ne _ (Ne.symm hid)]
        exact hsame.conserved h
    · rw [if_neg hs]
      refine iff_of_true h fun x' hx' hs' => ?_
      obtain rfl := Option.some.inj hx'
      exact absurd hs' hs

/-- Each operation keeps the bound exactly when it keeps the amount above the refunds. -/
theorem conserved_step_iff (env : Env) {d : Db} (h : Conserved paymentId d)
    (o : CommerceOp) :
    Conserved paymentId (o.step env d) ↔ KeepsAmount paymentId d o := by
  cases o with
  | resolveReconciliation actor i dto => exact conserved_resolveReconciliation_iff h actor i dto
  | refundPayment actor i dto answer =>
    refine iff_of_true ?_ trivial
    rcases refundPayment_exec d env actor i dto answer with
      heq | ⟨x, requested, hx, -, -, -, hle, ⟨-, heq⟩ | ⟨-, -, heq⟩⟩ <;>
      rw [CommerceOp.step, heq]
    · exact h
    · exact (SameMoney.of_tables rfl rfl).conserved h
    · exact h.refundPayment (d.paymentDetail_eq_some_iff.mp hx).2 hle _ _
  | approveRefundRequest actor i note answer =>
    refine iff_of_true ?_ trivial
    rcases approveRefundRequest_exec d actor i note answer with
      heq | ⟨y, hy, -, -, -, -, hle, -, heq⟩ <;> rw [CommerceOp.step, heq]
    · exact h
    · have hrefund := h.refundPayment (refundRequestDetail_eq_some d hy).2.2 hle actor.id
        (some y.request.reason)
      exact (SameMoney.of_tables rfl rfl).conserved hrefund
  | rejectRefundRequest actor i note =>
    refine iff_of_true ?_ trivial
    rcases rejectRefundRequest_exec d actor i note with heq | ⟨y, -, -, -, heq⟩ <;>
      rw [CommerceOp.step, heq]
    · exact h
    · exact (SameMoney.of_tables rfl rfl).conserved h
  | acceptQuote actor q => exact iff_of_true ((sameMoney_acceptQuote d actor q).conserved h) trivial
  | initiatePayment actor i n checkout =>
    exact iff_of_true ((sameMoney_initiatePayment h actor i n checkout).conserved h) trivial
  | chargeSuccess r a => exact iff_of_true ((sameMoney_chargeSuccess d r a).conserved h) trivial
  | chargeFailed r => exact iff_of_true ((sameMoney_chargeFailed d r).conserved h) trivial
  | paymentExpirySweep => exact iff_of_true ((sameMoney_expirySweep env d).conserved h) trivial
  | paymentVerificationSweep verify =>
    refine iff_of_true ?_ trivial
    rw [CommerceOp.step, runPaymentVerificationSweep_exec]
    exact (invariant (I := Conserved paymentId)
      (fun d p hd => (sameMoney_verifyPayment d verify p.1 p.2).conserved hd) h _).last
  | holdCase actor i r =>
    refine iff_of_true ?_ trivial
    rcases CasesService.holdCase_exec d i actor r with heq | ⟨c, -, -, -, -, heq⟩ <;>
      rw [CommerceOp.step, heq]
    · exact h
    · exact (SameMoney.of_tables rfl rfl).conserved h
  | resumeCase actor i r =>
    refine iff_of_true ?_ trivial
    rcases CasesService.resumeCase_exec d i actor r with heq | ⟨c, back, -, -, -, heq⟩ <;>
      rw [CommerceOp.step, heq]
    · exact h
    · exact (SameMoney.of_tables rfl rfl).conserved h
  | elapse ms => exact iff_of_true ((SameMoney.of_tables rfl rfl).conserved h) trivial

/-- **Refund conservation.**  Along every run of commerce operations that starts within the
bound, the refunds of the payment stay within its amount in every state exactly when no
reconciliation of it is resolved with an amount below what has already been refunded. -/
theorem refunds_within_amount_iff (env : Env) (d : Db) (h : Conserved paymentId d)
    (os : List CommerceOp) :
    AllStates (CommerceOp.step env) (Conserved paymentId) d os ↔
      AllSteps (CommerceOp.step env) (KeepsAmount paymentId) d os :=
  allStates_iff_allSteps (Q := Conserved paymentId)
    (fun _ o hd => conserved_step_iff env hd o) h os

end

/-- A payment of 1000 naira that has been verified as paid, with its invoice and case. -/
def paidDb : Db where
  clock := 100
  customer := Table.empty.insert { userId := 7 }
  serviceCase := Table.empty.insert
    { customerId := 0, serviceType := .propertyInspection, description := "Site visit"
      location := "Lekki", status := .scheduled, paymentStatus := .paid }
  invoice := Table.empty.insert ⟨0, none, ⟨100000⟩, "NGN"⟩
  payment := Table.empty.insert
    { invoiceId := 0, amount := ⟨100000⟩, providerReference := .caseInvoice 0 0
      providerWebhookVerifiedAt := some 50, status := .paid, createdAt := 40 }

theorem refunds_within_amount_iff_paidDb :
    AllStates (CommerceOp.step {}) (Conserved 0) paidDb
        [.refundPayment ⟨1, .finance⟩ 0 ⟨some 600, "Visit cut short"⟩ (.ok ())] ↔
      AllSteps (CommerceOp.step {}) (KeepsAmount 0) paidDb
        [.refundPayment ⟨1, .finance⟩ 0 ⟨some 600, "Visit cut short"⟩ (.ok ())] :=
  refunds_within_amount_iff {} paidDb ⟨_, rfl, by decide +kernel⟩ _

/-- A partial refund of 600 naira, a success event with another amount, which sends the
payment to reconciliation, and a match that resolves it to 500 naira. -/
def shrinkingRun : List CommerceOp :=
  [.refundPayment ⟨1, .finance⟩ 0 ⟨some 600, "Visit cut short"⟩ (.ok ()),
   .chargeSuccess (.caseInvoice 0 0) 50000,
   .resolveReconciliation ⟨1, .finance⟩ 0 ⟨.matched, "Received 500", some 500⟩]

/-- After that run 600 naira of a payment of 500 have been refunded. -/
theorem refunds_exceed_amount :
    ¬ AllStates (CommerceOp.step {}) (Conserved 0) paidDb shrinkingRun := by
  intro h
  obtain ⟨p, hp, hle⟩ := h.last
  have hamount : ((runFrom (CommerceOp.step {}) paidDb shrinkingRun).payment.get? 0).map
      Payment.amount = some ⟨50000⟩ := by decide +kernel
  have hrefunded : (runFrom (CommerceOp.step {}) paidDb shrinkingRun).refunded 0 = 600 := by
    decide +kernel
  rw [hp, Option.map_some, Option.some.injEq] at hamount
  rw [hrefunded, hamount] at hle
  exact absurd hle (by decide +kernel)

end Asoju
