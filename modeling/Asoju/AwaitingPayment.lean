/-
Paid cases do not stay awaiting payment, and when they do.

A success event moves the case of its payment on if it is waiting at that moment.  Nothing
else does: a case that a payment finds elsewhere can still be taken back to
AWAITING_PAYMENT, and Finance can find a payment good without any look at its case.
-/
import Asoju.PaymentMoves

namespace Asoju

open Lib CommerceService

/-- One of the payments of the invoices of the case is PAID. -/
def CasePaid (d : Db) (caseId : Id) : Prop :=
  ∃ i p v, d.payment.get? i = some p ∧ p.status = .paid ∧
    d.invoice.get? p.invoiceId = some v ∧ v.caseId = caseId

def Db.caseStatus (d : Db) (caseId : Id) : Option CaseStatus :=
  (d.serviceCase.get? caseId).map ServiceCase.status

/-- No case that has been paid is waiting for its payment. -/
def NoPaidAwaiting (d : Db) : Prop :=
  ∀ caseId, CasePaid d caseId → d.caseStatus caseId ≠ some .awaitingPayment

/-! ## The paid cases -/

/-- A change of a payment to a status other than PAID makes no case paid. -/
lemma CasePaid.of_modify {a b : Db} {i : Id} {f : Payment → Payment}
    (hpayment : b.payment = a.payment.modify i f) (hinvoice : b.invoice = a.invoice)
    (hs : ∀ p, (f p).status ≠ .paid) {caseId : Id} (h : CasePaid b caseId) :
    CasePaid a caseId := by
  obtain ⟨j, p, v, hp, hpaid, hv, hcase⟩ := h
  rw [hinvoice] at hv
  rw [hpayment, Table.get?_modify] at hp
  split at hp
  · obtain ⟨q, -, rfl⟩ := Option.map_eq_some_iff.mp hp
    exact absurd hpaid (hs q)
  · exact ⟨j, p, v, hp, hpaid, hv, hcase⟩

lemma CasePaid.congr {a b : Db} (hpayment : b.payment = a.payment)
    (hinvoice : b.invoice = a.invoice) {caseId : Id} (h : CasePaid b caseId) :
    CasePaid a caseId := by
  obtain ⟨j, p, v, hp, hpaid, hv, hcase⟩ := h
  exact ⟨j, p, v, hpayment ▸ hp, hpaid, hinvoice ▸ hv, hcase⟩

/-- A change of one payment to PAID makes its case paid, and no other. -/
lemma casePaid_pay_iff {a b : Db} {x : PaymentDetail} (hx : a.Joined x)
    {f : Payment → Payment} (hpayment : b.payment = a.payment.modify x.id f)
    (hinvoice : b.invoice = a.invoice) (hpaid : (f x.payment).status = .paid)
    (hinv : (f x.payment).invoiceId = x.payment.invoiceId) (caseId : Id) :
    CasePaid b caseId ↔ caseId = x.invoice.caseId ∨ CasePaid a caseId := by
  have hget : b.payment.get? x.id = some (f x.payment) := by
    rw [hpayment, Table.get?_modify_self, hx.payment, Option.map_some]
  constructor
  · rintro ⟨j, p, v, hp, hs, hv, hcase⟩
    rw [hinvoice] at hv
    by_cases hj : j = x.id
    · subst hj
      obtain rfl := Option.some.inj (hget.symm.trans hp)
      rw [hinv, hx.invoice, Option.some.injEq] at hv
      exact Or.inl (by rw [hv, hcase])
    · rw [hpayment, Table.get?_modify_of_ne _ hj] at hp
      exact Or.inr ⟨j, p, v, hp, hs, hv, hcase⟩
  · rintro (rfl | ⟨j, p, v, hp, hs, hv, hcase⟩)
    · refine ⟨x.id, _, x.invoice, hget, hpaid, ?_, rfl⟩
      rw [hinv, hinvoice, hx.invoice]
    · by_cases hj : j = x.id
      · subst hj
        obtain rfl := Option.some.inj (hx.payment.symm.trans hp)
        exact ⟨x.id, _, v, hget, hpaid, by rw [hinv, hinvoice, hv], hcase⟩
      · refine ⟨j, p, v, ?_, hs, by rw [hinvoice, hv], hcase⟩
        rw [hpayment, Table.get?_modify_of_ne _ hj, hp]

/-! ## The status of the cases -/

lemma caseStatus_of_modify {a b : Db} {i : Id} {f : ServiceCase → ServiceCase}
    (hcase : b.serviceCase = a.serviceCase.modify i f) (hf : ∀ c, (f c).status = c.status)
    (caseId : Id) : b.caseStatus caseId = a.caseStatus caseId := by
  rw [Db.caseStatus, hcase, Table.get?_modify, Db.caseStatus]
  split
  · cases a.serviceCase.get? caseId with
    | none => rfl
    | some c => exact congrArg some (hf c)
  · rfl

lemma caseStatus_moveCase {d : Db} {i : Id} {c : ServiceCase}
    (hc : d.serviceCase.get? i = some c) (s : CaseStatus) (held : Option CaseStatus)
    (a : Option Id) (r : Option String) (caseId : Id) :
    (d.moveCase i c s held a r).caseStatus caseId =
      if i = caseId then some s else d.caseStatus caseId := by
  rw [Db.caseStatus, get?_moveCase d hc]
  split <;> rfl

/-- The property depends on the paid cases and on the status of the cases only. -/
lemma NoPaidAwaiting.mono {a b : Db} (h : NoPaidAwaiting a)
    (hpaid : ∀ caseId, CasePaid b caseId → CasePaid a caseId)
    (hcase : ∀ caseId, b.caseStatus caseId = some .awaitingPayment →
      a.caseStatus caseId = some .awaitingPayment) : NoPaidAwaiting b :=
  fun caseId hp hs => h caseId (hpaid caseId hp) (hcase caseId hs)

/-- A case that moves to another status than AWAITING_PAYMENT. -/
lemma NoPaidAwaiting.moveCase {d : Db} (h : NoPaidAwaiting d) {i : Id} {c : ServiceCase}
    (hc : d.serviceCase.get? i = some c) {s : CaseStatus} (hs : s ≠ .awaitingPayment)
    (held : Option CaseStatus) (a : Option Id) (r : Option String) :
    NoPaidAwaiting (d.moveCase i c s held a r) := by
  refine h.mono (fun _ => CasePaid.congr rfl rfl) fun caseId hnew => ?_
  rw [caseStatus_moveCase hc] at hnew
  split at hnew
  · exact absurd (Option.some.inj hnew) hs
  · exact hnew

/-- A case that moves to AWAITING_PAYMENT must not have been paid. -/
lemma noPaidAwaiting_moveCase_iff {d : Db} (h : NoPaidAwaiting d) {i : Id} {c : ServiceCase}
    (hc : d.serviceCase.get? i = some c) (held : Option CaseStatus) (a : Option Id)
    (r : Option String) :
    NoPaidAwaiting (d.moveCase i c .awaitingPayment held a r) ↔ ¬ CasePaid d i := by
  constructor
  · intro h' hpaid
    refine h' i (hpaid.congr (a := d.moveCase i c .awaitingPayment held a r) rfl rfl) ?_
    rw [caseStatus_moveCase hc, if_pos rfl]
  · intro hnot caseId hpaid hs
    have hpaid' : CasePaid d caseId := hpaid.congr rfl rfl
    rw [caseStatus_moveCase hc] at hs
    split_ifs at hs with hi
    · exact hnot (hi ▸ hpaid')
    · exact h caseId hpaid' hs

/-! ## Every operation -/

/-- A success event leaves no paid case waiting: it moves on the one case that it pays. -/
lemma NoPaidAwaiting.chargeSuccess {d : Db} (h : NoPaidAwaiting d) (reference : Reference)
    (amountKobo : ℚ) :
    NoPaidAwaiting ((handleVerifiedCasePayment reference amountKobo).exec d) := by
  rw [handleVerifiedCasePayment_exec]
  cases hx : d.paymentByReference reference with
  | none => exact h
  | some x =>
    have hxj := (d.joined_of_paymentByReference hx).1
    dsimp only
    split_ifs with hs ha
    · exact h
    · refine h.mono (fun _ => CasePaid.of_modify (d.flagPayment_payment x) rfl fun _ => by simp)
        fun caseId hs => ?_
      rwa [caseStatus_of_modify (a := d) (i := x.invoice.caseId)
        (f := fun c => { c with paymentStatus := .reconciliationRequired }) rfl fun _ => rfl] at hs
    · obtain ⟨c, hc⟩ := hxj.serviceCase
      have hpaid : ∀ caseId, CasePaid (d.markPaid x) caseId →
          caseId = x.invoice.caseId ∨ CasePaid d caseId := fun caseId =>
        (casePaid_pay_iff hxj (b := d.markPaid x)
          (f := fun p => { p with status := .paid, providerWebhookVerifiedAt := some d.clock })
          rfl rfl rfl rfl caseId).mp
      have hstatus : ∀ caseId, (d.markPaid x).caseStatus caseId = d.caseStatus caseId :=
        caseStatus_of_modify (f := fun c => { c with paymentStatus := .paid }) rfl fun _ => rfl
      have hcaseStatus : d.caseStatus x.invoice.caseId = some c.status := by
        rw [Db.caseStatus, hc, Option.map_some]
      rw [Db.verifyPayment, hc]
      dsimp only
      split_ifs with hw
      · -- The case was waiting, and is SCHEDULED now.
        have hc' : (d.markPaid x).serviceCase.get? x.invoice.caseId =
            some { c with paymentStatus := .paid } := by
          simp [Db.markPaid, Db.modifyRow, Db.tick, hc]
        intro caseId hp hnew
        rw [caseStatus_moveCase hc', hstatus] at hnew
        by_cases hid : x.invoice.caseId = caseId
        · rw [if_pos hid] at hnew
          cases hnew
        · rw [if_neg hid] at hnew
          rcases hpaid caseId (hp.congr rfl rfl) with heq | hp
          · exact hid heq.symm
          · exact h caseId hp hnew
      · intro caseId hp hnew
        rw [hstatus] at hnew
        rcases hpaid caseId hp with rfl | hp
        · exact hw (Option.some.inj (hcaseStatus.symm.trans hnew))
        · exact h caseId hp hnew

lemma NoPaidAwaiting.chargeFailed {d : Db} (h : NoPaidAwaiting d) (reference : Reference) :
    NoPaidAwaiting ((handleFailedCasePayment reference).exec d) := by
  rw [handleFailedCasePayment_exec]
  cases d.paymentByReference reference with
  | none => exact h
  | some x =>
    dsimp only
    split_ifs
    · exact h
    · exact h.mono (fun _ => CasePaid.of_modify (d.modifyRow_payment _ _) rfl fun _ => by simp)
        fun _ hs => hs

/-- A round of a sweep that only marks its payment. -/
lemma NoPaidAwaiting.mark {d : Db} (h : NoPaidAwaiting d) (i : Id) {s : PaymentStatus}
    (hs : s ≠ .paid) :
    NoPaidAwaiting (d.modifyRow .payment i fun p => { p with status := s }) :=
  h.mono (fun _ => CasePaid.of_modify (d.modifyRow_payment _ _) rfl fun _ => hs)
    fun _ hw => hw

lemma NoPaidAwaiting.verifyRound {d : Db} (h : NoPaidAwaiting d)
    (verify : Reference → Except String VerifyTransactionResult) (p : Id × Payment) :
    NoPaidAwaiting ((verifyPayment verify p.1 p.2).exec d) := by
  rcases verifyPayment_exec d verify p.1 p.2 with heq | ⟨a, -, heq⟩ | heq | heq <;> rw [heq]
  · exact h
  · exact h.chargeSuccess _ a
  · exact h.chargeFailed _
  · exact h.mark p.1 (by decide)

lemma NoPaidAwaiting.refundPayment {d : Db} (h : NoPaidAwaiting d) (x : PaymentDetail)
    (actorId : Id) (requested : ℚ) (reason : Option String) :
    NoPaidAwaiting (d.refundPayment x actorId requested reason) := by
  refine h.mono (fun _ => CasePaid.of_modify (d.refundPayment_payment x actorId requested reason)
    rfl fun _ => d.statusAfterRefund_ne_paid x requested) fun caseId hs => ?_
  rwa [caseStatus_of_modify (a := d) (i := x.invoice.caseId)
    (f := fun c => { c with paymentStatus := d.statusAfterRefund x requested }) rfl
    fun _ => rfl] at hs

/-- Finance's decision leaves no paid case waiting exactly when it is no match, or the case
is not waiting. -/
lemma noPaidAwaiting_reconcilePayment_iff {d : Db} (h : NoPaidAwaiting d) {x : PaymentDetail}
    (hx : d.Joined x) (dto : ResolveReconciliationDto) (actorId : Id) :
    NoPaidAwaiting (d.reconcilePayment x dto actorId) ↔
      (dto.status = .matched → d.caseStatus x.invoice.caseId ≠ some .awaitingPayment) := by
  have hstatus : ∀ caseId, (d.reconcilePayment x dto actorId).caseStatus caseId =
      d.caseStatus caseId :=
    caseStatus_of_modify (f := fun c => { c with paymentStatus := dto.newPaymentStatus }) rfl
      fun _ => rfl
  by_cases hm : dto.status = .matched
  · have hpaid := casePaid_pay_iff hx (b := d.reconcilePayment x dto actorId)
      (f := reconciled dto d.clock) rfl rfl
      (by simp [reconciled, ResolveReconciliationDto.newPaymentStatus, hm]) rfl
    constructor
    · intro h' _ hw
      exact h' x.invoice.caseId ((hpaid _).mpr (Or.inl rfl)) ((hstatus _).trans hw)
    · intro hw caseId hp hs
      rw [hstatus] at hs
      rcases (hpaid caseId).mp hp with rfl | hp
      · exact hw hm hs
      · exact h caseId hp hs
  · refine iff_of_true ?_ fun hm' => absurd hm' hm
    refine h.mono (fun _ => CasePaid.of_modify (d.reconcilePayment_payment x dto actorId) rfl
      fun p => ?_) fun caseId hs => (hstatus caseId) ▸ hs
    simp [reconciled, ResolveReconciliationDto.newPaymentStatus, hm]

/-- The new invoice of an acceptance has no payment yet. -/
lemma CasePaid.of_acceptWrites {d d₁ : Db} (hinvoiced : d.Invoiced)
    (hd₁ : d₁ = d ∨ ∃ e, d₁ = d.insertRow .scLedgerEntry e) (i : Id) (q : Quote)
    (r : MembershipService.CommitResult) {caseId : Id}
    (h : CasePaid (acceptWrites i q r d₁) caseId) : CasePaid d caseId := by
  obtain ⟨j, p, v, hp, hs, hv, hcase⟩ := h
  have hp' : d.payment.get? j = some p := by rcases hd₁ with rfl | ⟨e, rfl⟩ <;> exact hp
  obtain ⟨v', hv'⟩ := hinvoiced j p hp'
  have hv'' : (acceptWrites i q r d₁).invoice.get? p.invoiceId = some v' := by
    rcases hd₁ with rfl | ⟨e, rfl⟩ <;> exact Table.get?_insert_of_some hv' _
  obtain rfl := Option.some.inj (hv.symm.trans hv'')
  exact ⟨j, p, v, hp', hs, hv', hcase⟩

/-- The operation takes no paid case to AWAITING_PAYMENT and finds no payment good whose case
is there. -/
def MovesOn (d : Db) : CommerceOp → Prop
  | .acceptQuote actor quoteId =>
      ∀ x, Acceptable d actor quoteId x → x.serviceCase.status = .quoted →
        ¬ CasePaid d x.quote.caseId
  | .resumeCase _ caseId _ =>
      ∀ c, d.serviceCase.get? caseId = some c → c.status = .onHold →
        c.heldFromStatus = some .awaitingPayment → ¬ CasePaid d caseId
  | .resolveReconciliation _ paymentId dto =>
      ∀ x, d.paymentDetail paymentId = some x → x.payment.status = .reconciliationRequired →
        dto.status = .matched → d.caseStatus x.invoice.caseId ≠ some .awaitingPayment
  | _ => True

lemma noPaidAwaiting_acceptQuote_iff {d : Db} (h : NoPaidAwaiting d) (hinvoiced : d.Invoiced)
    (actor : AuthenticatedUser) (quoteId : Id) :
    NoPaidAwaiting ((acceptQuote actor quoteId).exec d) ↔
      ∀ x, Acceptable d actor quoteId x → x.serviceCase.status = .quoted →
        ¬ CasePaid d x.quote.caseId := by
  by_cases hx : ∃ x, Acceptable d actor quoteId x
  · obtain ⟨x, hx⟩ := hx
    obtain ⟨r, d₁, hd₁, hrun⟩ := acceptQuote_run hx
    have hunique : ∀ y, Acceptable d actor quoteId y → y = x := fun y hy =>
      Option.some.inj (hy.found.symm.trans hx.found)
    have hpaid : ∀ caseId, CasePaid (acceptWrites quoteId x.quote r d₁) caseId →
        CasePaid d caseId := fun _ => CasePaid.of_acceptWrites hinvoiced hd₁ _ _ _
    have hwrites : NoPaidAwaiting (acceptWrites quoteId x.quote r d₁) := by
      refine h.mono hpaid fun caseId hs => ?_
      rcases hd₁ with rfl | ⟨e, rfl⟩ <;> exact hs
    rw [Prog.exec, hrun]
    by_cases hs : x.serviceCase.status = .quoted
    · have hc : (acceptWrites quoteId x.quote r d₁).serviceCase.get? x.quote.caseId =
          some x.serviceCase := by rcases hd₁ with rfl | ⟨e, rfl⟩ <;> exact hx.rows.2
      rw [if_pos hs, noPaidAwaiting_moveCase_iff hwrites hc]
      constructor
      · rintro hnot y hy - ⟨j, p, v, hp, hps, hv, hcase⟩
        obtain rfl := hunique y hy
        refine hnot ⟨j, p, v, ?_, hps, ?_, hcase⟩
        · rcases hd₁ with rfl | ⟨e, rfl⟩ <;> exact hp
        · rcases hd₁ with rfl | ⟨e, rfl⟩ <;> exact Table.get?_insert_of_some hv _
      · exact fun hall hp => hall x hx hs (hpaid _ hp)
    · rw [if_neg hs]
      refine iff_of_true hwrites fun y hy hys => ?_
      rw [hunique y hy] at hys
      exact absurd hys hs
  · obtain ⟨e, hrun⟩ := acceptQuote_run_of_not fun x hx' => hx ⟨x, hx'⟩
    rw [Prog.exec, hrun]
    exact iff_of_true h fun x hx' => absurd ⟨x, hx'⟩ hx

lemma noPaidAwaiting_resumeCase_iff {d : Db} (h : NoPaidAwaiting d) (actor : AuthenticatedUser)
    (caseId : Id) (reason : Option String) :
    NoPaidAwaiting ((CasesService.resumeCase actor caseId reason).exec d) ↔
      ∀ c, d.serviceCase.get? caseId = some c → c.status = .onHold →
        c.heldFromStatus = some .awaitingPayment → ¬ CasePaid d caseId := by
  rcases CasesService.resumeCase_cases d caseId actor reason with
    ⟨heq, hnot⟩ | ⟨c, back, hc, hs, hback, heq⟩ <;> rw [heq]
  · refine iff_of_true h fun c hc hs hback => ?_
    exact absurd (hnot c hc hs) (by simp [hback])
  · by_cases hw : back = .awaitingPayment
    · subst hw
      rw [noPaidAwaiting_moveCase_iff h hc]
      exact ⟨fun hnot _ _ _ _ => hnot, fun hall => hall c hc hs hback⟩
    · refine iff_of_true (h.moveCase hc hw _ _ _) fun c' hc' _ hback' => ?_
      obtain rfl := Option.some.inj (hc.symm.trans hc')
      rw [hback, Option.some.injEq] at hback'
      exact absurd hback' hw

/-- **Each operation** leaves no paid case waiting exactly when it meets the condition. -/
theorem noPaidAwaiting_step_iff (env : Env) {d : Db} (h : NoPaidAwaiting d)
    (hinvoiced : d.Invoiced) (o : CommerceOp) :
    NoPaidAwaiting (o.step env d) ↔ MovesOn d o := by
  cases o with
  | acceptQuote actor q => exact noPaidAwaiting_acceptQuote_iff h hinvoiced actor q
  | resumeCase actor i r => exact noPaidAwaiting_resumeCase_iff h actor i r
  | resolveReconciliation actor i dto =>
    rw [CommerceOp.step, resolveReconciliation_exec, MovesOn]
    cases hx : d.paymentDetail i with
    | none => exact iff_of_true h fun x hx' => absurd hx' (by simp)
    | some x =>
      obtain ⟨-, hxj⟩ := d.paymentDetail_eq_some_iff.mp hx
      simp only [Option.some.injEq, forall_eq']
      split_ifs with hs
      · rw [noPaidAwaiting_reconcilePayment_iff h hxj]
        exact ⟨fun hall _ => hall, fun hall => hall hs⟩
      · exact iff_of_true h fun hs' => absurd hs' hs
  | chargeSuccess r a => exact iff_of_true (h.chargeSuccess r a) trivial
  | chargeFailed r => exact iff_of_true (h.chargeFailed r) trivial
  | paymentExpirySweep =>
    refine iff_of_true ?_ trivial
    exact runPaymentExpirySweep_keeps d (R := fun a b => NoPaidAwaiting a → NoPaidAwaiting b)
      (fun _ ha => ha) (fun _ _ _ hab hbc ha => hbc (hab ha)) env
      (fun p _ d' hd' => hd'.mark p.1 (by decide)) h
  | paymentVerificationSweep verify =>
    refine iff_of_true ?_ trivial
    rw [CommerceOp.step, runPaymentVerificationSweep_exec]
    exact (invariant (I := NoPaidAwaiting) (fun _ p hd => hd.verifyRound verify p) h _).last
  | initiatePayment actor i n checkout =>
    refine iff_of_true ?_ trivial
    rcases initiatePayment_exec d actor i n checkout with
      heq | ⟨detail, -, -, -, -, heq⟩ <;> rw [CommerceOp.step, heq]
    · exact h
    · -- The new payment is PENDING.
      refine h.mono (fun caseId hp => ?_) fun _ hs => hs
      obtain ⟨j, p, v, hp, hs, hv, hcase⟩ := hp
      have hp' : (d.payment.insert _).get? j = some p := hp
      rw [Table.get?_insert] at hp'
      split at hp'
      · cases hp'
        exact absurd hs (by simp)
      · exact ⟨j, p, v, hp', hs, hv, hcase⟩
  | refundPayment actor i dto answer =>
    refine iff_of_true ?_ trivial
    rcases refundPayment_exec d env actor i dto answer with
      heq | ⟨x, requested, -, -, -, -, -, ⟨-, heq⟩ | ⟨-, -, heq⟩⟩ <;> rw [CommerceOp.step, heq]
    · exact h
    · exact h.mono (fun _ => CasePaid.congr rfl rfl) fun _ hs => hs
    · exact h.refundPayment x _ _ _
  | approveRefundRequest actor i note answer =>
    refine iff_of_true ?_ trivial
    rcases approveRefundRequest_exec d actor i note answer with
      heq | ⟨y, -, -, -, -, -, -, -, heq⟩ <;> rw [CommerceOp.step, heq]
    · exact h
    · exact (h.refundPayment y.detail _ _ _).mono (fun _ => CasePaid.congr rfl rfl) fun _ hs => hs
  | rejectRefundRequest actor i note =>
    refine iff_of_true ?_ trivial
    rcases rejectRefundRequest_exec d actor i note with heq | ⟨y, -, -, -, heq⟩ <;>
      rw [CommerceOp.step, heq]
    · exact h
    · exact h.mono (fun _ => CasePaid.congr rfl rfl) fun _ hs => hs
  | holdCase actor i r =>
    refine iff_of_true ?_ trivial
    rcases CasesService.holdCase_exec d i actor r with heq | ⟨c, hc, -, -, -, heq⟩ <;>
      rw [CommerceOp.step, heq]
    · exact h
    · exact h.moveCase hc (by decide) _ _ _
  | elapse ms =>
    exact iff_of_true (h.mono (fun _ => CasePaid.congr rfl rfl) fun _ hs => hs) trivial

/-- **Paid cases move on.**  Along every run of commerce operations that starts so, no paid
case is waiting for its payment in any state, exactly when no step takes a paid case to
AWAITING_PAYMENT, by an acceptance or a resume, and no match of Finance finds its case there. -/
theorem no_paid_awaiting_iff (env : Env) (d : Db) (h : NoPaidAwaiting d)
    (hinvoiced : d.Invoiced) (os : List CommerceOp) :
    AllStates (CommerceOp.step env) NoPaidAwaiting d os ↔
      AllSteps (CommerceOp.step env) MovesOn d os :=
  allStates_iff_allSteps_of_invariant (I := fun d => NoPaidAwaiting d ∧ d.Invoiced)
    (fun _ hd => hd.1)
    (fun _ o hd ho => ⟨(noPaidAwaiting_step_iff env hd.1 hd.2 o).mpr ho, hd.2.step env o⟩)
    (fun _ o hd hnext => (noPaidAwaiting_step_iff env hd.1 hd.2 o).mp hnext) ⟨h, hinvoiced⟩ os

theorem no_paid_awaiting_iff_invoicedDb :
    AllStates (CommerceOp.step {}) NoPaidAwaiting invoicedDb
        [.initiatePayment ⟨7, .customer⟩ 0 0 (.ok ()), .chargeSuccess (.caseInvoice 0 0) 100000] ↔
      AllSteps (CommerceOp.step {}) MovesOn invoicedDb
        [.initiatePayment ⟨7, .customer⟩ 0 0 (.ok ()), .chargeSuccess (.caseInvoice 0 0) 100000] := by
  refine no_paid_awaiting_iff {} invoicedDb ?_ ?_ _
  · rintro caseId ⟨i, p, v, hp, -⟩
    cases hp
  · intro i p hp
    cases hp

/-- The case is put on hold during the checkout, and resumed after its success. -/
def heldDuringCheckout : List CommerceOp :=
  [.initiatePayment ⟨7, .customer⟩ 0 0 (.ok ()),
   .holdCase ⟨1, .caseManager⟩ 0 "Waiting for a document",
   .chargeSuccess (.caseInvoice 0 0) 100000,
   .resumeCase ⟨1, .caseManager⟩ 0 none]

/-- The case has been paid, and waits for its payment. -/
theorem paid_awaiting_after_hold :
    ¬ AllStates (CommerceOp.step {}) NoPaidAwaiting invoicedDb heldDuringCheckout := by
  intro h
  have hstates := h.last
  have hpayment : ((runFrom (CommerceOp.step {}) invoicedDb heldDuringCheckout).payment.get? 0).map
      (fun p => (p.status, p.invoiceId)) = some (.paid, 0) := by decide +kernel
  have hinvoice : ((runFrom (CommerceOp.step {}) invoicedDb heldDuringCheckout).invoice.get? 0).map
      Invoice.caseId = some 0 := by decide +kernel
  have hstatus : (runFrom (CommerceOp.step {}) invoicedDb heldDuringCheckout).caseStatus 0 =
      some .awaitingPayment := by decide +kernel
  obtain ⟨p, hp, hps⟩ := Option.map_eq_some_iff.mp hpayment
  obtain ⟨v, hv, hvc⟩ := Option.map_eq_some_iff.mp hinvoice
  obtain ⟨hs, hi⟩ := Prod.mk.inj hps
  exact hstates 0 ⟨0, p, v, hp, hs, by rw [hi, hv], hvc⟩ hstatus

end Asoju
