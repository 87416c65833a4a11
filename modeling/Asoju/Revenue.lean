/-
The revenue that is reported, and the money that is kept.

The summary of the analytics adds up the payments that are PAID.  A refund moves its payment to
PARTIALLY_REFUNDED or REFUNDED, so that what is left after a partial refund is missing from the
revenue; and a payment with refunds that becomes PAID once more is counted in full.
`revenueKept_iff` says which operations keep the revenue equal to the money that is kept.
-/
import Asoju.PaymentMoves
import Asoju.RefundConservation
import Asoju.Lib.TableSum

namespace Asoju

open Lib CommerceService

namespace AnalyticsService

/-- One step of the loop of `getSummary` over the payments that are PAID.  A record of numbers is a
function that is `none` where it has no entry. -/
def addPaid (revenueByCurrency : String → Option ℚ) (p : Payment) : String → Option ℚ :=
  Function.update revenueByCurrency p.currency
    (some ((revenueByCurrency p.currency).getD 0 + p.amount.toRat))

/-- `revenueByCurrency` of `getSummary`. -/
def revenueByCurrency (d : Db) : String → Option ℚ :=
  let paidPayments := d.payment.values.filter fun p => p.status = .paid
  paidPayments.foldl addPaid fun _ => none

lemma getD_foldl_addPaid (ps : List Payment) (r : String → Option ℚ) (c : String) :
    (ps.foldl addPaid r c).getD 0 =
      (r c).getD 0 + ((ps.filter fun p => p.currency = c).map fun p => p.amount.toRat).sum := by
  induction ps generalizing r with
  | nil => simp
  | cons p ps ih =>
    rw [List.foldl_cons, ih]
    by_cases hc : p.currency = c
    · subst hc
      simp [addPaid, add_assoc]
    · rw [addPaid, Function.update_of_ne (Ne.symm hc)]
      simp [hc]

end AnalyticsService

open AnalyticsService

/-! ## What is kept of a payment -/

/-- The payment was taken, and not reversed as a whole. -/
def Payment.taken (p : Payment) : Bool :=
  p.status ∈ [PaymentStatus.paid, .partiallyRefunded, .refunded]

/-- The payments in a currency that were taken. -/
def Db.takenIn (d : Db) (currency : String) : List (Id × Payment) :=
  d.payment.rows.filter fun q => q.2.taken && q.2.currency = currency

/-- Their amounts less their refunds. -/
def Db.moneyKept (d : Db) (currency : String) : ℚ :=
  ((d.takenIn currency).map fun q => q.2.amount.toRat).sum -
    ((d.takenIn currency).map fun q => d.refunded q.1).sum

/-- The reported revenue is the money that is kept, in every currency. -/
def RevenueKept (d : Db) : Prop := ∀ c, (revenueByCurrency d c).getD 0 = d.moneyKept c

/-- What a payment adds to the reported revenue, less what is kept of it. -/
def Payment.excess (p : Payment) (refunded : ℚ) : ℚ :=
  (if p.status = .paid then p.amount.toRat else 0) -
    if p.taken then p.amount.toRat - refunded else 0

/-- The revenue differs from the money that is kept by the excess of the payments. -/
lemma revenue_sub_moneyKept (d : Db) (c : String) :
    (revenueByCurrency d c).getD 0 - d.moneyKept c =
      (d.payment.rows.map fun q =>
        if q.2.currency = c then q.2.excess (d.refunded q.1) else 0).sum := by
  rw [revenueByCurrency, getD_foldl_addPaid, Db.moneyKept, Db.takenIn, Table.values]
  generalize d.payment.rows = rows
  generalize d.refunded = refunded
  induction rows with
  | nil => simp
  | cons q rows ih =>
    rw [List.map_cons, List.map_cons, List.sum_cons, ← ih]
    by_cases hc : q.2.currency = c
    · by_cases hpaid : q.2.status = .paid
      · have htaken : q.2.taken = true := by simp [Payment.taken, hpaid]
        simp [Payment.excess, hc, hpaid, htaken]
        ring
      · by_cases htaken : q.2.taken = true
        · simp [Payment.excess, hc, hpaid, htaken]
          ring
        · simp [Payment.excess, hc, hpaid, htaken]
    · simp [hc]

/-- The reported revenue is the money that is kept if no payment has an excess. -/
lemma revenueKept_of_excess {d : Db}
    (h : ∀ i p, d.payment.get? i = some p → p.excess (d.refunded i) = 0) : RevenueKept d := by
  intro c
  have hsum := revenue_sub_moneyKept d c
  rw [List.sum_eq_zero] at hsum
  · exact sub_eq_zero.mp hsum
  · intro x hx
    obtain ⟨q, hq, rfl⟩ := List.mem_map.mp hx
    rw [h q.1 q.2 (d.payment.mem_rows_iff.mp hq), ite_self]

/-- And a payment has no excess if the revenue is the money that is kept, and no other one has. -/
lemma RevenueKept.excess_eq_zero {d : Db} (h : RevenueKept d) {i : Id} {p : Payment}
    (hp : d.payment.get? i = some p)
    (hothers : ∀ j q, d.payment.get? j = some q → j ≠ i → q.excess (d.refunded j) = 0) :
    p.excess (d.refunded i) = 0 := by
  have hsum := revenue_sub_moneyKept d p.currency
  rw [h p.currency, sub_self, Table.sum_rows_eq_single hp, if_pos rfl] at hsum
  · exact hsum.symm
  · intro j q hq hj
    rw [hothers j q hq hj, ite_self]

/-! ## The invariant -/

/-- What holds of each payment: it has no excess, and no refunds while it is open. -/
structure Payment.Settled (p : Payment) (refunded : ℚ) : Prop where
  excess : p.excess refunded = 0
  unrefunded : isOpen p → refunded = 0

/-- The payments are settled, and every refund belongs to one of them. -/
structure Booked (d : Db) : Prop where
  unique : d.ReferencesUnique
  owned : ∀ r ∈ d.refund.values, ∃ p, d.payment.get? r.paymentId = some p
  settled : ∀ i p, d.payment.get? i = some p → p.Settled (d.refunded i)

/-- Nothing has been refunded yet. -/
structure Db.Unrefunded (d : Db) : Prop where
  refund : d.refund.values = []
  status : ∀ i p, d.payment.get? i = some p →
    p.status ≠ .partiallyRefunded ∧ p.status ≠ .refunded

namespace Payment

variable {p : Payment} {refunded : ℚ}

/-- The excess of a payment that is PAID is what has been refunded of it. -/
lemma excess_of_paid (h : p.status = .paid) : p.excess refunded = refunded := by
  simp [excess, taken, h]

/-- That of one with refunds is what is left of it, missing. -/
lemma excess_of_refunded (h : p.status = .partiallyRefunded ∨ p.status = .refunded) :
    p.excess refunded = refunded - p.amount.toRat := by
  rcases h with h | h <;> simp [excess, taken, h]

lemma excess_of_not_taken (h : p.taken = false) : p.excess refunded = 0 := by
  have hpaid : p.status ≠ .paid := by
    intro hpaid
    simp [taken, hpaid] at h
  simp [excess, h, hpaid]

end Payment

lemma Db.Unrefunded.booked {d : Db} (h : d.Unrefunded) (hunique : d.ReferencesUnique) :
    Booked d where
  unique := hunique
  owned := fun r hr => by
    rw [h.refund] at hr
    cases hr
  settled := fun i p hp => by
    obtain ⟨hpartially, hrefunded⟩ := h.status i p hp
    have hzero : d.refunded i = 0 := by simp [Db.refunded, h.refund]
    refine ⟨?_, fun _ => hzero⟩
    rw [hzero]
    by_cases hpaid : p.status = .paid
    · exact Payment.excess_of_paid hpaid
    · exact Payment.excess_of_not_taken (by simp [Payment.taken, hpaid, hpartially, hrefunded])

lemma Booked.revenueKept {d : Db} (h : Booked d) : RevenueKept d :=
  revenueKept_of_excess fun i p hp => (h.settled i p hp).excess

/-! ### A change of one payment -/

section Change

variable {d d' : Db} {k : Id} {p : Payment} {f : Payment → Payment}

/-- **A change of one payment** keeps the books exactly if the payment has no excess then. -/
lemma Booked.change_iff (h : Booked d) (hunique : d'.ReferencesUnique)
    (hpayment : d'.payment = d.payment.modify k f) (hp : d.payment.get? k = some p)
    (howned : ∀ r ∈ d'.refund.values, r ∈ d.refund.values ∨ r.paymentId = k)
    (hrefunded : ∀ i, i ≠ k → d'.refunded i = d.refunded i)
    (hopen : isOpen (f p) → d'.refunded k = 0) :
    ((f p).excess (d'.refunded k) = 0 → Booked d') ∧
      (RevenueKept d' → (f p).excess (d'.refunded k) = 0) := by
  have hself : d'.payment.get? k = some (f p) := by
    rw [hpayment, Table.get?_modify_self, hp, Option.map_some]
  have hothers : ∀ i q, d'.payment.get? i = some q → i ≠ k → q.Settled (d'.refunded i) := by
    intro i q hq hi
    rw [hpayment, Table.get?_modify_of_ne _ hi] at hq
    rw [hrefunded i hi]
    exact h.settled i q hq
  constructor
  · intro hexcess
    refine ⟨hunique, fun r hr => ?_, fun i q hq => ?_⟩
    · by_cases hi : r.paymentId = k
      · exact ⟨f p, hi ▸ hself⟩
      · obtain ⟨q, hq⟩ := h.owned r ((howned r hr).resolve_right hi)
        exact ⟨q, by rw [hpayment, Table.get?_modify_of_ne _ hi, hq]⟩
    · by_cases hi : i = k
      · subst hi
        obtain rfl := Option.some.inj (hself.symm.trans hq)
        exact ⟨hexcess, hopen⟩
      · exact hothers i q hq hi
  · exact fun hkept => hkept.excess_eq_zero hself fun i q hq hi => (hothers i q hq hi).excess

/-- A change of one payment that leaves the refunds as they are. -/
lemma Booked.write_iff (h : Booked d) (hunique : d'.ReferencesUnique)
    (hpayment : d'.payment = d.payment.modify k f) (hp : d.payment.get? k = some p)
    (hrefund : d'.refund = d.refund) (hopen : isOpen (f p) → d.refunded k = 0) :
    ((f p).excess (d.refunded k) = 0 → Booked d') ∧
      (RevenueKept d' → (f p).excess (d.refunded k) = 0) := by
  have hrefunded : ∀ i, d'.refunded i = d.refunded i := fun i => by rw [Db.refunded, hrefund]; rfl
  have hchange := h.change_iff hunique hpayment hp (fun r hr => Or.inl (hrefund ▸ hr))
    (fun i _ => hrefunded i) (by rwa [hrefunded])
  rwa [hrefunded] at hchange

end Change

/-! ### Every operation -/

section Operations

variable {d : Db}

/-- A success event does not find refunds of the payment that it makes PAID. -/
def ChargesUnrefunded (d : Db) (reference : Reference) (amountKobo : ℚ) : Prop :=
  ∀ x, d.paymentByReference reference = some x → x.payment.status ≠ .paid →
    x.payment.expectedKobo = amountKobo → d.refunded x.id = 0

lemma Booked.chargeSuccess_iff (h : Booked d) (reference : Reference) (amountKobo : ℚ) :
    (ChargesUnrefunded d reference amountKobo →
        Booked ((handleVerifiedCasePayment reference amountKobo).exec d)) ∧
      (RevenueKept ((handleVerifiedCasePayment reference amountKobo).exec d) →
        ChargesUnrefunded d reference amountKobo) := by
  have hunique := h.unique.of_sameLinks (.chargeSuccess d reference amountKobo)
  have hrefund := (sameMoney_chargeSuccess d reference amountKobo : SameMoney 0 d _).1
  rw [handleVerifiedCasePayment_exec] at hunique hrefund ⊢
  rw [ChargesUnrefunded]
  cases hx : d.paymentByReference reference with
  | none => exact ⟨fun _ => h, fun _ y hy => by cases hy⟩
  | some x =>
    obtain ⟨hjoined, -⟩ := d.joined_of_paymentByReference hx
    rw [hx] at hunique hrefund
    dsimp only at hunique hrefund ⊢
    split_ifs at hunique hrefund ⊢ with hpaid hamount
    · refine ⟨fun _ => h, fun _ y hy hnot => ?_⟩
      obtain rfl := Option.some.inj hy
      exact absurd hpaid hnot
    · have hwrite := h.write_iff hunique (d.flagPayment_payment x) hjoined.payment hrefund
        (fun hopen => by simp [isOpen] at hopen)
      refine ⟨fun _ => hwrite.1 (Payment.excess_of_not_taken rfl), fun _ y hy _ heq => ?_⟩
      obtain rfl := Option.some.inj hy
      exact absurd heq hamount
    · have hwrite := h.write_iff hunique (d.verifyPayment_payment x) hjoined.payment hrefund
        (fun hopen => by simp [isOpen] at hopen)
      rw [Payment.excess_of_paid rfl] at hwrite
      constructor
      · exact fun hunrefunded => hwrite.1 (hunrefunded x rfl hpaid (not_not.mp hamount))
      · intro hkept y hy _ _
        obtain rfl := Option.some.inj hy
        exact hwrite.2 hkept

lemma Booked.chargeFailed (h : Booked d) (reference : Reference) :
    Booked ((handleFailedCasePayment reference).exec d) := by
  have hunique := h.unique.of_sameLinks (.chargeFailed d reference)
  have hrefund := (sameMoney_chargeFailed d reference : SameMoney 0 d _).1
  rw [handleFailedCasePayment_exec] at hunique hrefund ⊢
  cases hx : d.paymentByReference reference with
  | none => exact h
  | some x =>
    obtain ⟨hjoined, -⟩ := d.joined_of_paymentByReference hx
    rw [hx] at hunique hrefund
    dsimp only at hunique hrefund ⊢
    split_ifs at hunique hrefund ⊢
    · exact h
    · exact (h.write_iff hunique (d.modifyRow_payment _ _) hjoined.payment hrefund
        (fun hopen => by simp [isOpen] at hopen)).1 (Payment.excess_of_not_taken rfl)

/-- A match does not make a payment with refunds PAID. -/
def MatchesUnrefunded (d : Db) (paymentId : Id) (dto : ResolveReconciliationDto) : Prop :=
  ∀ x, d.paymentDetail paymentId = some x → x.payment.status = .reconciliationRequired →
    dto.newPaymentStatus = .paid → d.refunded paymentId = 0

lemma Booked.resolveReconciliation_iff (h : Booked d) (actor : AuthenticatedUser) (i : Id)
    (dto : ResolveReconciliationDto) :
    (MatchesUnrefunded d i dto → Booked ((resolveReconciliation actor i dto).exec d)) ∧
      (RevenueKept ((resolveReconciliation actor i dto).exec d) → MatchesUnrefunded d i dto) := by
  rw [resolveReconciliation_exec, MatchesUnrefunded]
  cases hx : d.paymentDetail i with
  | none => exact ⟨fun _ => h, fun _ y hy => by cases hy⟩
  | some x =>
    obtain ⟨rfl, hjoined⟩ := d.paymentDetail_eq_some_iff.mp hx
    dsimp only
    by_cases hs : x.payment.status = .reconciliationRequired
    · rw [if_pos hs]
      have hlinks := Db.SameLinks.of_modify (d.reconcilePayment_payment x dto actor.id)
        fun _ => by rfl
      have hwrite := h.write_iff (h.unique.of_sameLinks hlinks)
        (d.reconcilePayment_payment x dto actor.id) hjoined.payment rfl fun hopen => by
          simp only [isOpen, reconciled, ResolveReconciliationDto.newPaymentStatus] at hopen
          split at hopen <;> simp at hopen
      by_cases hmatched : dto.status = .matched
      · have hpaid : dto.newPaymentStatus = .paid := if_pos hmatched
        rw [Payment.excess_of_paid hpaid] at hwrite
        constructor
        · exact fun hunrefunded => hwrite.1 (hunrefunded x rfl hs hpaid)
        · intro hkept y _ _ _
          exact hwrite.2 hkept
      · have hfailed : dto.newPaymentStatus = .failed := if_neg hmatched
        have hexcess : (reconciled dto d.clock x.payment).excess (d.refunded x.id) = 0 :=
          Payment.excess_of_not_taken (by simp [Payment.taken, reconciled, hfailed])
        refine ⟨fun _ => hwrite.1 hexcess, fun _ y _ _ hpaid => ?_⟩
        rw [hfailed] at hpaid
        cases hpaid
    · rw [if_neg hs]
      refine ⟨fun _ => h, fun _ y hy hs' => ?_⟩
      obtain rfl := Option.some.inj hy
      exact absurd hs' hs

/-- A refund keeps the books exactly if what it writes is all that is left. -/
lemma Booked.refund_iff (h : Booked d) {x : PaymentDetail} (hjoined : d.Joined x) {requested : ℚ}
    (actorId : Id) (reason : Option String) {d' : Db}
    (hpayment : d'.payment = (d.refundPayment x actorId requested reason).payment)
    (hrefund : d'.refund = (d.refundPayment x actorId requested reason).refund) :
    ((money requested).toRat = remaining d x → Booked d') ∧
      (RevenueKept d' → (money requested).toRat = remaining d x) := by
  have hrefunded : ∀ i, d'.refunded i =
      d.refunded i + if x.id = i then (money requested).toRat else 0 := fun i => by
    rw [Db.refunded, hrefund]
    exact refunded_insertRow d _
  have hmodify := hpayment.trans (d.refundPayment_payment x actorId requested reason)
  have hlinks : d.SameLinks d' := .of_modify hmodify fun _ => by rfl
  have hstatus : d.statusAfterRefund x requested = .partiallyRefunded ∨
      d.statusAfterRefund x requested = .refunded := by
    rw [Db.statusAfterRefund]
    split
    · exact Or.inr rfl
    · exact Or.inl rfl
  have hchange := h.change_iff (h.unique.of_sameLinks hlinks) hmodify hjoined.payment
    (fun r hr => ?_) (fun i hi => ?_) fun hopen => ?_
  · rw [Payment.excess_of_refunded hstatus, hrefunded, if_pos rfl] at hchange
    have hiff : d.refunded x.id + (money requested).toRat - x.payment.amount.toRat = 0 ↔
        (money requested).toRat = remaining d x := by
      rw [remaining]
      constructor <;> intro heq <;> linarith
    rwa [hiff] at hchange
  · rw [hrefund] at hr
    have hr' : r ∈ (d.refund.insert ⟨x.id, money requested, reason, some actorId⟩).values := hr
    rw [Table.values_insert] at hr'
    rcases List.mem_append.mp hr' with hr' | hr'
    · exact Or.inl hr'
    · exact Or.inr (by rw [List.mem_singleton.mp hr'])
  · rw [hrefunded, if_neg (Ne.symm hi), add_zero]
  · rcases hstatus with hstatus | hstatus <;> simp [isOpen, hstatus] at hopen

/-- Neither the payments nor the refunds change. -/
lemma Booked.same {d' : Db} (h : Booked d) (hpayment : d'.payment = d.payment)
    (hrefund : d'.refund = d.refund) : Booked d' where
  unique := h.unique.of_sameLinks (.of_payment hpayment)
  owned := fun r hr => hpayment ▸ h.owned r (hrefund ▸ hr)
  settled := fun i p hp => by
    rw [Db.refunded, hrefund]
    exact h.settled i p (hpayment ▸ hp)

/-- A new payment has no refunds. -/
lemma Booked.initiatePayment (h : Booked d) (actor : AuthenticatedUser) (invoiceId : Id)
    (nonce : Fin (2 ^ 32)) (checkout : Except String Unit) :
    Booked ((CommerceService.initiatePayment actor invoiceId nonce checkout).exec d) := by
  have hunique := h.unique.step {} (.initiatePayment actor invoiceId nonce checkout)
  rw [CommerceOp.step] at hunique
  rcases initiatePayment_exec d actor invoiceId nonce checkout with
    heq | ⟨detail, -, -, -, -, heq⟩ <;> rw [heq] at hunique ⊢
  · exact h
  · refine ⟨hunique, fun r hr => ?_, fun i p hp => ?_⟩
    · obtain ⟨p, hp⟩ := h.owned r hr
      exact ⟨p, Table.get?_insert_of_some hp _⟩
    · rcases Table.get?_insert_cases hp with hp | ⟨rfl, rfl⟩
      · exact h.settled i p hp
      · have hnone : ∀ r ∈ d.refund.values, ¬ r.paymentId = d.payment.next := by
          intro r hr hid
          obtain ⟨p, hp⟩ := h.owned r hr
          rw [hid, Table.get?_next] at hp
          cases hp
        have hzero : d.refunded d.payment.next = 0 := by
          rw [Db.refunded, List.filter_eq_nil_iff.mpr fun r hr => by simpa using hnone r hr]
          rfl
        refine ⟨Payment.excess_of_not_taken rfl, fun _ => hzero⟩

/-! ### The sweeps -/

/-- A sweep finds no refunds of the payments that it is about. -/
lemma Booked.unrefunded (h : Booked d) {row : Id × Payment} (hrow : row ∈ d.payment.rows)
    (hopen : isOpen row.2) : d.refunded row.1 = 0 :=
  (h.settled row.1 row.2 (d.payment.mem_rows_iff.mp hrow)).unrefunded hopen

/-- A payment whose status is changed by a sweep, and which has no refunds. -/
lemma Booked.swept (h : Booked d) {i : Id} {status : PaymentStatus}
    (hstatus : status = .expired ∨ status = .processing) (hzero : d.refunded i = 0) :
    Booked (d.modifyRow .payment i fun q => { q with status }) := by
  have hlinks : d.SameLinks (d.modifyRow .payment i fun q => { q with status }) :=
    .of_modify (d.modifyRow_payment _ _) fun _ => by rfl
  refine ⟨h.unique.of_sameLinks hlinks, fun r hr => ?_, fun j q hq => ?_⟩
  · obtain ⟨p, hp⟩ := h.owned r hr
    obtain ⟨q, hq, -⟩ := hlinks.symm.exists_of_get? hp
    exact ⟨q, hq⟩
  · have hq' : (d.payment.modify i fun q => { q with status }).get? j = some q := hq
    rw [Table.get?_modify] at hq'
    change q.Settled (d.refunded j)
    split at hq'
    · rename_i hj
      obtain ⟨p, -, rfl⟩ := Option.map_eq_some_iff.mp hq'
      rw [hj, hzero]
      refine ⟨Payment.excess_of_not_taken ?_, fun _ => rfl⟩
      rcases hstatus with rfl | rfl <;> rfl
    · exact h.settled j q hq'

lemma Booked.expirySweep (env : Env) (h : Booked d) :
    Booked ((runPaymentExpirySweep env).exec d) := by
  have hkeeps := runPaymentExpirySweep_keeps d
    (R := fun a b => Booked a ∧ a.refund = d.refund → Booked b ∧ b.refund = d.refund)
    (fun _ => id) (fun _ _ _ hab hbc ha => hbc (hab ha)) env fun row hrow d' => ?_
  · exact (hkeeps ⟨h, rfl⟩).1
  · rintro ⟨h', hrefund⟩
    rw [stalePayments, List.mem_filter, decide_eq_true_eq] at hrow
    refine ⟨h'.swept (Or.inl rfl) ?_, hrefund⟩
    rw [Db.refunded, hrefund]
    exact h.unrefunded hrow.1 hrow.2.1

/-- A round of the verification sweep. -/
lemma Booked.verifyRound {d' : Db} (h : Booked d)
    (verify : Reference → Except String VerifyTransactionResult) {row : Id × Payment}
    (hrow : row ∈ d.payment.rows) (hopen : isOpen row.2) (h' : Booked d')
    (hlinks : d.SameLinks d') (hrefund : d'.refund = d.refund) :
    Booked ((verifyPayment verify row.1 row.2).exec d') := by
  have hzero : d'.refunded row.1 = 0 := by
    rw [Db.refunded, hrefund]
    exact h.unrefunded hrow hopen
  rcases verifyPayment_exec d' verify row.1 row.2 with heq | ⟨a, -, heq⟩ | heq | heq <;> rw [heq]
  · exact h'
  · refine (h'.chargeSuccess_iff _ a).1 fun x hx _ _ => ?_
    obtain ⟨hjoined, href⟩ := d'.joined_of_paymentByReference hx
    -- The payment with the reference of the candidate is the candidate.
    obtain ⟨q, hq, hqref, -⟩ := hlinks.exists_of_get? hjoined.payment
    have hid := h.unique x.id row.1 q row.2 hq (d.payment.mem_rows_iff.mp hrow)
      (hqref.trans href)
    rw [hid, hzero]
  · exact h'.chargeFailed _
  · exact h'.swept (Or.inr rfl) hzero

lemma Booked.verificationSweep (env : Env)
    (verify : Reference → Except String VerifyTransactionResult) (h : Booked d) :
    Booked ((runPaymentVerificationSweep env verify).exec d) := by
  rw [runPaymentVerificationSweep_exec]
  refine (AllSteps.invariant
    (I := fun d' => Booked d' ∧ d.SameLinks d' ∧ d'.refund = d.refund)
    (P := fun _ row => row ∈ verificationCandidates env d.clock d) (fun d' row hd' hrow => ?_)
    ⟨h, .refl d, rfl⟩ (AllSteps.of_forall_mem (fun _ _ hrow => hrow) d)).last.1
  obtain ⟨h', hlinks, hrefund⟩ := hd'
  rw [verificationCandidates, List.mem_filter, decide_eq_true_eq] at hrow
  refine ⟨h.verifyRound verify hrow.1 hrow.2.1 h' hlinks hrefund,
    hlinks.trans (.verifyPayment d' verify row), ?_⟩
  exact (sameMoney_verifyPayment d' verify row.1 row.2 : SameMoney 0 d' _).1.trans hrefund

end Operations

/-! ## Runs -/

/-- The operations that keep the revenue equal to the money that is kept. -/
def KeepsBooks (env : Env) (d : Db) : CommerceOp → Prop
  | .chargeSuccess reference amountKobo => ChargesUnrefunded d reference amountKobo
  | .resolveReconciliation _ i dto => MatchesUnrefunded d i dto
  | .refundPayment _ i dto answer => ∀ x requested,
      RefundsNow d env i dto answer x requested → (money requested).toRat = remaining d x
  | .approveRefundRequest actor i _ answer => ∀ y,
      ApprovesNow d actor i answer y → y.request.amount.toRat = remaining d y.detail
  | _ => True

/-- **What one operation does to the books.** -/
lemma Booked.step_iff (env : Env) {d : Db} (h : Booked d) (o : CommerceOp) :
    (KeepsBooks env d o → Booked (o.step env d)) ∧
      (RevenueKept (o.step env d) → KeepsBooks env d o) := by
  cases o with
  | chargeSuccess r a => exact h.chargeSuccess_iff r a
  | resolveReconciliation actor i dto => exact h.resolveReconciliation_iff actor i dto
  | refundPayment actor i dto answer =>
    rw [KeepsBooks, CommerceOp.step]
    by_cases hnow : ∃ x requested, RefundsNow d env i dto answer x requested
    · obtain ⟨x, requested, hnow⟩ := hnow
      have hjoined := (d.paymentDetail_eq_some_iff.mp hnow.found).2
      have hrefund := h.refund_iff hjoined actor.id (some dto.reason)
        (congrArg Db.payment (hnow.exec actor)) (congrArg Db.refund (hnow.exec actor))
      refine ⟨fun hall => hrefund.1 (hall x requested hnow), fun hkept x' requested' hnow' => ?_⟩
      obtain rfl := Option.some.inj (hnow.found.symm.trans hnow'.found)
      obtain rfl := hnow.amount.trans hnow'.amount.symm
      exact hrefund.2 hkept
    · refine ⟨fun _ => ?_, fun _ x requested hnow' => absurd ⟨x, requested, hnow'⟩ hnow⟩
      rcases refundPayment_exec d env actor i dto answer with
        heq | ⟨x, requested, hx, hs, hreq, hpos, hle, ⟨-, heq⟩ | ⟨hsmall, hanswer, -⟩⟩
      · rw [heq]
        exact h
      · rw [heq]
        exact h.same rfl rfl
      · exact absurd ⟨x, requested, hx, hs, hreq, hpos, hle, hsmall, hanswer⟩ hnow
  | approveRefundRequest actor i note answer =>
    rw [KeepsBooks, CommerceOp.step]
    by_cases hnow : ∃ y, ApprovesNow d actor i answer y
    · obtain ⟨y, hnow⟩ := hnow
      have hjoined := (refundRequestDetail_eq_some d hnow.found).2.2
      obtain ⟨d', hd'⟩ : ∃ d', d' = d.refundPayment y.detail actor.id y.request.amount.toRat
          (some y.request.reason) := ⟨_, rfl⟩
      have hexec := hnow.exec note
      rw [← hd'] at hexec
      rw [hexec]
      have hrefund := h.refund_iff hjoined actor.id (some y.request.reason)
        (congrArg Db.payment hd') (congrArg Db.refund hd')
      have hstore : (money y.request.amount.toRat).toRat = y.request.amount.toRat :=
        congrArg Decimal.toRat (Decimal.store_toRat _)
      rw [hstore] at hrefund
      constructor
      · exact fun hall => (hrefund.1 (hall y hnow)).same rfl rfl
      · intro hkept y' hnow'
        obtain rfl := Option.some.inj (hnow.found.symm.trans hnow'.found)
        exact hrefund.2 hkept
    · refine ⟨fun _ => ?_, fun _ y hnow' => absurd ⟨y, hnow'⟩ hnow⟩
      rcases approveRefundRequest_exec d actor i note answer with
        heq | ⟨y, hy, hp, hown, hs, hpos, hle, hanswer, -⟩
      · rw [heq]
        exact h
      · exact absurd ⟨y, hy, hp, hown, hs, hpos, hle, hanswer⟩ hnow
  | initiatePayment actor i n checkout =>
    exact ⟨fun _ => h.initiatePayment actor i n checkout, fun _ => trivial⟩
  | chargeFailed r => exact ⟨fun _ => h.chargeFailed r, fun _ => trivial⟩
  | paymentExpirySweep => exact ⟨fun _ => h.expirySweep env, fun _ => trivial⟩
  | paymentVerificationSweep verify =>
    exact ⟨fun _ => h.verificationSweep env verify, fun _ => trivial⟩
  | acceptQuote actor q =>
    refine ⟨fun _ => h.same (CommerceOp.step_payment_eq env d rfl) ?_, fun _ => trivial⟩
    exact (sameMoney_acceptQuote d actor q : SameMoney 0 d _).1
  | rejectRefundRequest actor i note =>
    refine ⟨fun _ => h.same (CommerceOp.step_payment_eq env d rfl) ?_, fun _ => trivial⟩
    rcases rejectRefundRequest_exec d actor i note with heq | ⟨y, -, -, -, heq⟩ <;>
      rw [CommerceOp.step, heq]
    rfl
  | holdCase actor i r =>
    refine ⟨fun _ => h.same (CommerceOp.step_payment_eq env d rfl) ?_, fun _ => trivial⟩
    rcases CasesService.holdCase_exec d i actor r with heq | ⟨c, -, -, -, -, heq⟩ <;>
      rw [CommerceOp.step, heq]
    rfl
  | resumeCase actor i r =>
    refine ⟨fun _ => h.same (CommerceOp.step_payment_eq env d rfl) ?_, fun _ => trivial⟩
    rcases CasesService.resumeCase_exec d i actor r with heq | ⟨c, back, -, -, -, heq⟩ <;>
      rw [CommerceOp.step, heq]
    rfl
  | elapse ms => exact ⟨fun _ => h.same rfl rfl, fun _ => trivial⟩

/-- **Reported revenue is money kept** in the runs in which every refund is of all that is left, and
no payment with refunds becomes PAID, and in no others. -/
theorem revenueKept_iff (env : Env) (d : Db) (hunique : d.ReferencesUnique)
    (hunrefunded : d.Unrefunded) (os : List CommerceOp) :
    AllStates (CommerceOp.step env) RevenueKept d os ↔
      AllSteps (CommerceOp.step env) (KeepsBooks env) d os :=
  allStates_iff_allSteps_of_invariant (I := Booked) (fun _ h => h.revenueKept)
    (fun _ o h => (h.step_iff env o).1) (fun _ o h => (h.step_iff env o).2)
    (hunrefunded.booked hunique) os

/-- A refund without an amount is of all that is left. -/
lemma keepsBooks_refundPayment (env : Env) (d : Db) (actor : AuthenticatedUser) (i : Id)
    {dto : RefundPaymentDto} (answer : Except String Unit) (h : dto.amount = none) :
    KeepsBooks env d (.refundPayment actor i dto answer) := by
  intro x requested hnow
  have hrequested : requested = remaining d x := by rw [hnow.amount, h, Option.getD_none]
  rw [hrequested]
  exact Decimal.store_toRat_of_mem (remaining_mem_grid d x)

lemma paidDb_payment {i : Id} {p : Payment} (h : paidDb.payment.get? i = some p) :
    i = 0 ∧ p.status = .paid := by
  rcases Table.get?_insert_cases h with h | ⟨hi, rfl⟩
  · cases h
  · exact ⟨hi, rfl⟩

lemma paidDb_referencesUnique : paidDb.ReferencesUnique := by
  intro i j p q hp hq _
  rw [(paidDb_payment hp).1, (paidDb_payment hq).1]

lemma paidDb_unrefunded : paidDb.Unrefunded where
  refund := rfl
  status := fun i p hp => by simp [(paidDb_payment hp).2]

/-- A payment is refunded as a whole. -/
theorem revenueKept_refunded :
    AllStates (CommerceOp.step {}) RevenueKept paidDb
      [.refundPayment ⟨1, .finance⟩ 0 ⟨none, "Visit cancelled"⟩ (.ok ()), .paymentExpirySweep] :=
  (revenueKept_iff {} paidDb paidDb_referencesUnique paidDb_unrefunded _).mpr
    ⟨keepsBooks_refundPayment {} _ _ _ _ rfl, trivial, trivial⟩

/-- 600 naira of a payment of 1000 are refunded, and the other 400 are not reported. -/
theorem not_revenueKept :
    ¬ ∀ (env : Env) (d : Db) (os : List CommerceOp), d.ReferencesUnique → d.Unrefunded →
      AllStates (CommerceOp.step env) RevenueKept d os := by
  intro h
  have hkept := (h {} paidDb
    [.refundPayment ⟨1, .finance⟩ 0 ⟨some 600, "Visit cut short"⟩ (.ok ())]
    paidDb_referencesUnique paidDb_unrefunded).last "NGN"
  exact absurd hkept (by decide +kernel)

end Asoju
