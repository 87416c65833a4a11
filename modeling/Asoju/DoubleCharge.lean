/-
No double charge: when an invoice has at most one paid payment.

Three operations can make a payment PAID: a success event, a round of the verification
sweep, and a match of Finance.  None of them looks at the other payments of the invoice,
although several checkouts of one invoice can be open at once.  The condition under which
this does no harm is the test that `initiatePayment` makes.
-/
import Asoju.Operations

namespace Asoju

open Lib CommerceService

/-- Each invoice has at most one payment with status PAID. -/
def PaidOnce (d : Db) : Prop :=
  ∀ i j p q, d.payment.get? i = some p → d.payment.get? j = some q → p.status = .paid →
    q.status = .paid → p.invoiceId = q.invoiceId → i = j

/-- One of the payments of the invoice is PAID: the test that `initiatePayment` makes. -/
def Db.invoicePaid (d : Db) (invoiceId : Id) : Bool :=
  (d.paymentsOf invoiceId).any fun p => p.status = .paid

lemma invoicePaid_eq_false_iff (d : Db) (invoiceId : Id) :
    d.invoicePaid invoiceId = false ↔
      ∀ j q, d.payment.get? j = some q → q.invoiceId = invoiceId → q.status ≠ .paid := by
  simp only [Db.invoicePaid, Db.paymentsOf, List.any_eq_false, List.mem_filter,
    decide_eq_true_eq, Table.mem_values_iff]
  constructor
  · intro h j q hq hinv
    exact h q ⟨⟨j, hq⟩, hinv⟩
  · rintro h q ⟨⟨j, hq⟩, hinv⟩
    exact h j q hq hinv

/-! ## What changes the paid payments -/

/-- Where no payment becomes paid, no invoice is paid twice. -/
lemma PaidOnce.mono {d d' : Db} (h : PaidOnce d)
    (hpaid : ∀ i p, d'.payment.get? i = some p → p.status = .paid →
      ∃ q, d.payment.get? i = some q ∧ q.status = .paid ∧ q.invoiceId = p.invoiceId) :
    PaidOnce d' := by
  intro i j p q hi hj hp hq hinv
  obtain ⟨p', hi', hp', hpinv⟩ := hpaid i p hi hp
  obtain ⟨q', hj', hq', hqinv⟩ := hpaid j q hj hq
  exact h i j p' q' hi' hj' hp' hq' (by rw [hpinv, hqinv, hinv])

lemma PaidOnce.congr {d d' : Db} (h : PaidOnce d) (hpayment : d'.payment = d.payment) :
    PaidOnce d' :=
  h.mono fun i p hi hp => ⟨p, by rwa [hpayment] at hi, hp, rfl⟩

/-- A change of one payment to a status other than PAID. -/
lemma PaidOnce.modify {d d' : Db} (h : PaidOnce d) {i : Id} {f : Payment → Payment}
    (hpayment : d'.payment = d.payment.modify i f) (hf : ∀ p, (f p).status ≠ .paid) :
    PaidOnce d' := by
  refine h.mono fun j p hj hp => ?_
  rw [hpayment, Table.get?_modify] at hj
  split at hj
  · obtain ⟨q, -, rfl⟩ := Option.map_eq_some_iff.mp hj
    exact absurd hp (hf q)
  · exact ⟨p, hj, hp, rfl⟩

/-- **A payment that becomes paid** is the only one of its invoice exactly when none of the
others was paid before. -/
theorem PaidOnce.pay_iff {d d' : Db} (h : PaidOnce d) {i : Id} {p : Payment}
    (hp : d.payment.get? i = some p) (hs : p.status ≠ .paid) {f : Payment → Payment}
    (hpayment : d'.payment = d.payment.modify i f) (hpaid : (f p).status = .paid)
    (hinv : (f p).invoiceId = p.invoiceId) :
    PaidOnce d' ↔ d.invoicePaid p.invoiceId = false := by
  have hget : ∀ j q, d'.payment.get? j = some q ↔
      (j = i ∧ q = f p) ∨ (j ≠ i ∧ d.payment.get? j = some q) := by
    intro j q
    rw [hpayment, Table.get?_modify]
    by_cases hj : j = i
    · subst hj
      simp [hp, eq_comm]
    · simp [hj]
  rw [invoicePaid_eq_false_iff]
  constructor
  · intro h' j q hq hqinv hqs
    have hne : j ≠ i := by
      rintro rfl
      rw [hp] at hq
      cases hq
      exact hs hqs
    refine hne (h' j i q (f p) ?_ ?_ hqs hpaid ?_)
    · exact (hget j q).mpr (Or.inr ⟨hne, hq⟩)
    · exact (hget i (f p)).mpr (Or.inl ⟨rfl, rfl⟩)
    · rw [hqinv, hinv]
  · intro hnone j k q r hj hk hq hr hqr
    rcases (hget j q).mp hj with ⟨rfl, rfl⟩ | ⟨hne, hj⟩ <;>
      rcases (hget k r).mp hk with ⟨rfl, rfl⟩ | ⟨hne', hk⟩
    · rfl
    · exact absurd hr (hnone k r hk (by rw [← hqr, hinv]))
    · exact absurd hq (hnone j q hj (by rw [hqr, hinv]))
    · exact h j k q r hj hk hq hr hqr

/-! ## The operations that can make a payment paid -/

/-- A success event that makes a payment paid finds no other paid payment of its invoice. -/
def ChargesOnce (d : Db) (reference : Reference) (amountKobo : ℚ) : Prop :=
  ∀ x, d.paymentByReference reference = some x → x.payment.status ≠ .paid →
    (x.payment.expectedKobo : ℚ) = amountKobo → d.invoicePaid x.payment.invoiceId = false

/-- A match finds no paid payment of the invoice either. -/
def MatchesOnce (d : Db) (paymentId : Id) (dto : ResolveReconciliationDto) : Prop :=
  ∀ x, d.paymentDetail paymentId = some x → x.payment.status = .reconciliationRequired →
    dto.status = .matched → d.invoicePaid x.payment.invoiceId = false

lemma paidOnce_chargeSuccess_iff {d : Db} (h : PaidOnce d) (reference : Reference)
    (amountKobo : ℚ) :
    PaidOnce ((handleVerifiedCasePayment reference amountKobo).exec d) ↔
      ChargesOnce d reference amountKobo := by
  rw [handleVerifiedCasePayment_exec, ChargesOnce]
  cases hx : d.paymentByReference reference with
  | none => exact iff_of_true h fun x hx' => absurd hx' (by simp)
  | some x =>
    have hp := (d.joined_of_paymentByReference hx).1.payment
    simp only [Option.some.injEq, forall_eq']
    by_cases hs : x.payment.status = .paid
    · rw [if_pos hs]
      exact iff_of_true h fun hs' => absurd hs hs'
    · rw [if_neg hs]
      by_cases ha : (x.payment.expectedKobo : ℚ) = amountKobo
      · rw [if_neg (not_not.mpr ha)]
        have hiff : PaidOnce (d.verifyPayment x) ↔ d.invoicePaid x.payment.invoiceId = false :=
          h.pay_iff hp hs (d.verifyPayment_payment x) rfl rfl
        rw [hiff]
        exact ⟨fun hnone _ _ => hnone, fun hnone => hnone hs ha⟩
      · rw [if_pos ha]
        refine iff_of_true ?_ fun _ ha' => absurd ha' ha
        exact h.modify (d.flagPayment_payment x) fun _ => by simp

lemma paidOnce_resolveReconciliation_iff {d : Db} (h : PaidOnce d) (actor : AuthenticatedUser)
    (i : Id) (dto : ResolveReconciliationDto) :
    PaidOnce ((resolveReconciliation actor i dto).exec d) ↔ MatchesOnce d i dto := by
  rw [resolveReconciliation_exec, MatchesOnce]
  cases hx : d.paymentDetail i with
  | none => exact iff_of_true h fun x hx' => absurd hx' (by simp)
  | some x =>
    have hp := (d.paymentDetail_eq_some_iff.mp hx).2.payment
    simp only [Option.some.injEq, forall_eq']
    by_cases hs : x.payment.status = .reconciliationRequired
    · rw [if_pos hs]
      by_cases hm : dto.status = .matched
      · have hiff : PaidOnce (d.reconcilePayment x dto actor.id) ↔
            d.invoicePaid x.payment.invoiceId = false := by
          refine h.pay_iff hp (by rw [hs]; decide) (d.reconcilePayment_payment _ _ _) ?_ rfl
          simp [reconciled, ResolveReconciliationDto.newPaymentStatus, hm]
        rw [hiff]
        exact ⟨fun hnone _ _ => hnone, fun hnone => hnone hs hm⟩
      · refine iff_of_true ?_ fun _ hm' => absurd hm' hm
        refine h.modify (d.reconcilePayment_payment _ _ _) fun p => ?_
        simp [reconciled, ResolveReconciliationDto.newPaymentStatus, hm]
    · rw [if_neg hs]
      exact iff_of_true h fun hs' => absurd hs' hs

lemma PaidOnce.chargeFailed {d : Db} (h : PaidOnce d) (reference : Reference) :
    PaidOnce ((handleFailedCasePayment reference).exec d) := by
  rw [handleFailedCasePayment_exec]
  cases d.paymentByReference reference with
  | none => exact h
  | some x =>
    dsimp only
    split_ifs
    · exact h
    · exact h.modify (d.modifyRow_payment _ _) fun _ => by simp

/-! ## Every operation -/

/-- One round of the verification sweep. -/
def verificationRound (verify : Reference → Except String VerifyTransactionResult) (d : Db)
    (p : Id × Payment) : Db :=
  (verifyPayment verify p.1 p.2).exec d

/-- The round finds no other paid payment if the provider reports a success. -/
def RoundChargesOnce (verify : Reference → Except String VerifyTransactionResult) (d : Db)
    (p : Id × Payment) : Prop :=
  ∀ amountKobo, verify p.2.providerReference = .ok (.reported .success amountKobo) →
    ChargesOnce d p.2.providerReference amountKobo

/-- The operation makes no payment paid whose invoice has a paid payment already. -/
def PaysOnce (env : Env) (d : Db) : CommerceOp → Prop
  | .chargeSuccess reference amountKobo => ChargesOnce d reference amountKobo
  | .resolveReconciliation _ paymentId dto => MatchesOnce d paymentId dto
  | .paymentVerificationSweep verify =>
      AllSteps (verificationRound verify) (RoundChargesOnce verify) d
        (verificationCandidates env d.clock d)
  | _ => True

lemma PaidOnce.verificationRound {d : Db} (h : PaidOnce d)
    (verify : Reference → Except String VerifyTransactionResult) (p : Id × Payment)
    (hround : RoundChargesOnce verify d p) : PaidOnce (verificationRound verify d p) := by
  rw [Asoju.verificationRound]
  rcases verifyPayment_exec d verify p.1 p.2 with heq | ⟨a, ha, heq⟩ | heq | heq <;> rw [heq]
  · exact h
  · exact (paidOnce_chargeSuccess_iff h _ a).mpr (hround a ha)
  · exact h.chargeFailed _
  · exact h.modify (d.modifyRow_payment _ _) fun _ => by simp

/-- An operation that meets the condition keeps every invoice paid once at most. -/
theorem PaidOnce.step (env : Env) {d : Db} (h : PaidOnce d) (o : CommerceOp)
    (ho : PaysOnce env d o) : PaidOnce (o.step env d) := by
  cases o with
  | chargeSuccess r a => exact (paidOnce_chargeSuccess_iff h r a).mpr ho
  | resolveReconciliation actor i dto =>
    exact (paidOnce_resolveReconciliation_iff h actor i dto).mpr ho
  | chargeFailed r => exact h.chargeFailed r
  | paymentVerificationSweep verify =>
    rw [CommerceOp.step, runPaymentVerificationSweep_exec]
    exact (AllSteps.invariant (I := PaidOnce)
      (fun d p hd hp => hd.verificationRound verify p hp) h ho).last
  | paymentExpirySweep =>
    have hkeeps := runPaymentExpirySweep_keeps d (R := fun a b => PaidOnce a → PaidOnce b)
      (fun _ ha => ha) (fun _ _ _ hab hbc ha => hbc (hab ha)) env
      fun p _ d' hd' => hd'.modify (d'.modifyRow_payment _ _) fun _ => by simp
    exact hkeeps h
  | initiatePayment actor i n checkout =>
    rcases initiatePayment_exec d actor i n checkout with
      heq | ⟨detail, -, -, -, -, heq⟩ <;> rw [CommerceOp.step, heq]
    · exact h
    · refine h.mono fun j p hj hp => ?_
      have hj' : (d.payment.insert _).get? j = some p := hj
      rw [Table.get?_insert] at hj'
      split at hj'
      · cases hj'
        exact absurd hp (by simp)
      · exact ⟨p, hj', hp, rfl⟩
  | refundPayment actor i dto answer =>
    rcases refundPayment_exec d env actor i dto answer with
      heq | ⟨x, requested, -, -, -, -, -, ⟨-, heq⟩ | ⟨-, -, heq⟩⟩ <;> rw [CommerceOp.step, heq]
    · exact h
    · exact h.congr rfl
    · exact h.modify (d.refundPayment_payment _ _ _ _)
        fun _ => d.statusAfterRefund_ne_paid x requested
  | approveRefundRequest actor i note answer =>
    rcases approveRefundRequest_exec d actor i note answer with
      heq | ⟨y, -, -, -, -, -, -, -, heq⟩ <;> rw [CommerceOp.step, heq]
    · exact h
    · have hrefund : PaidOnce (d.refundPayment y.detail actor.id y.request.amount.toRat
          (some y.request.reason)) :=
        h.modify (d.refundPayment_payment _ _ _ _)
          fun _ => d.statusAfterRefund_ne_paid y.detail _
      exact hrefund.congr rfl
  | acceptQuote | rejectRefundRequest | holdCase | resumeCase | elapse =>
    exact h.congr (CommerceOp.step_payment_eq env d rfl)

/-- **No double charge.**  In every run in which no success event, no poll and no match of
Finance makes a payment paid while another payment of its invoice is, every invoice has at
most one paid payment in every state. -/
theorem paid_once_of_pays_once (env : Env) (d : Db) (h : PaidOnce d) (os : List CommerceOp)
    (hos : AllSteps (CommerceOp.step env) (PaysOnce env) d os) :
    AllStates (CommerceOp.step env) PaidOnce d os :=
  AllSteps.invariant (I := PaidOnce) (fun _ o hd ho => hd.step env o ho) h hos

/-- One checkout, and its success. -/
theorem paid_once_of_pays_once_invoicedDb :
    AllStates (CommerceOp.step {}) PaidOnce invoicedDb
      [.initiatePayment ⟨7, .customer⟩ 0 0 (.ok ()),
       .chargeSuccess (.caseInvoice 0 0) 100000] := by
  refine paid_once_of_pays_once {} invoicedDb ?_ _ ⟨trivial, ?_, trivial⟩
  · intro i j p q hp
    cases hp
  · intro x hx _ _
    have hnone : ((CommerceOp.step {} invoicedDb
        (.initiatePayment ⟨7, .customer⟩ 0 0 (.ok ()))).payment.values.all
          fun p => p.status ≠ .paid) = true := by decide +kernel
    rw [invoicePaid_eq_false_iff]
    intro j q hq _
    have hmem := (Table.mem_values_iff _).mpr ⟨j, hq⟩
    simpa using List.all_eq_true.mp hnone q hmem

/-- Two checkouts of one invoice, and the success of both. -/
def twoCheckouts : List CommerceOp :=
  [.initiatePayment ⟨7, .customer⟩ 0 0 (.ok ()),
   .initiatePayment ⟨7, .customer⟩ 0 1 (.ok ()),
   .chargeSuccess (.caseInvoice 0 0) 100000,
   .chargeSuccess (.caseInvoice 0 1) 100000]

/-- The customer has paid the invoice twice. -/
theorem paid_twice : ¬ AllStates (CommerceOp.step {}) PaidOnce invoicedDb twoCheckouts := by
  intro h
  have hpaid : ∀ i < 2, ((runFrom (CommerceOp.step {}) invoicedDb twoCheckouts).payment.get? i).map
      (fun p => (p.status, p.invoiceId)) = some (.paid, 0) := by decide +kernel
  obtain ⟨p, hp, hps⟩ := Option.map_eq_some_iff.mp (hpaid 0 (by omega))
  obtain ⟨q, hq, hqs⟩ := Option.map_eq_some_iff.mp (hpaid 1 (by omega))
  obtain ⟨hp₁, hp₂⟩ := Prod.mk.inj hps
  obtain ⟨hq₁, hq₂⟩ := Prod.mk.inj hqs
  exact absurd (h.last 0 1 p q hp hq hp₁ hq₁ (hp₂.trans hq₂.symm)) (by omega)

end Asoju
