/-
What one operation can make of one payment.

`PaymentMove env d x o p` says that the operation `o`, run in the state `d`, makes the
payment `x` into `p`, and under which of its checks.  `CommerceOp.step_payment` is the
inversion lemma: after any operation a payment is what it was, or has made such a move.
It rests on the provider references being unique, since the provider's events find their
payment by its reference alone.
-/
import Asoju.Operations

namespace Asoju

open Lib CommerceService

/-- No two payments have the same provider reference, as the schema demands. -/
def Db.ReferencesUnique (d : Db) : Prop :=
  ∀ i j p q, d.payment.get? i = some p → d.payment.get? j = some q →
    p.providerReference = q.providerReference → i = j

/-- A reference that is unique finds its payment. -/
lemma Db.ReferencesUnique.paymentByReference_eq_some_iff {d : Db} (h : d.ReferencesUnique)
    {reference : Reference} {x : PaymentDetail} :
    d.paymentByReference reference = some x ↔
      d.Joined x ∧ x.payment.providerReference = reference := by
  refine ⟨d.joined_of_paymentByReference, ?_⟩
  rintro ⟨hx, href⟩
  have hmem := d.payment.mem_rows_iff.mpr hx.payment
  obtain ⟨⟨i, p⟩, hfind⟩ : ∃ row, d.payment.rows.find?
      (fun p => decide (p.2.providerReference = reference)) = some row :=
    Option.isSome_iff_exists.mp (List.find?_isSome.mpr ⟨_, hmem, by simpa using href⟩)
  have hp := d.payment.mem_rows_iff.mp (List.mem_of_find?_eq_some hfind)
  have hpref : p.providerReference = reference := by simpa using List.find?_some hfind
  obtain rfl : i = x.id := h i x.id p x.payment hp hx.payment (hpref.trans href.symm)
  rw [paymentByReference, hfind]
  exact d.paymentDetail_eq_some_iff.mpr ⟨rfl, hx⟩

/-- Every payment belongs to an invoice, as the schema demands too. -/
def Db.Invoiced (d : Db) : Prop :=
  ∀ i p, d.payment.get? i = some p → ∃ v, d.invoice.get? p.invoiceId = some v

/-! ## The links of a payment stay -/

/-- What identifies a payment to the provider and to us. -/
def Payment.links (p : Payment) : Reference × Id := (p.providerReference, p.invoiceId)

/-- Every payment keeps its reference and its invoice, and there are no new ones. -/
def Db.SameLinks (a b : Db) : Prop :=
  ∀ i, (b.payment.get? i).map Payment.links = (a.payment.get? i).map Payment.links

namespace Db.SameLinks

lemma refl (d : Db) : d.SameLinks d := fun _ => rfl

lemma trans {a b c : Db} (hab : a.SameLinks b) (hbc : b.SameLinks c) : a.SameLinks c :=
  fun i => (hbc i).trans (hab i)

lemma symm {a b : Db} (hab : a.SameLinks b) : b.SameLinks a := fun i => (hab i).symm

lemma of_payment {a b : Db} (h : b.payment = a.payment) : a.SameLinks b :=
  fun i => by rw [h]

lemma of_modify {a b : Db} {i : Id} {f : Payment → Payment}
    (h : b.payment = a.payment.modify i f) (hf : ∀ p, (f p).links = p.links) :
    a.SameLinks b := by
  intro j
  rw [h, Table.get?_modify]
  split
  · cases a.payment.get? j with
    | none => rfl
    | some p => exact congrArg some (hf p)
  · rfl

/-- A payment of `b` was a payment of `a` with the same links. -/
lemma exists_of_get? {a b : Db} (hab : a.SameLinks b) {i : Id} {p : Payment}
    (h : b.payment.get? i = some p) :
    ∃ q, a.payment.get? i = some q ∧ q.providerReference = p.providerReference ∧
      q.invoiceId = p.invoiceId := by
  have hi := hab i
  rw [h, Option.map_some, eq_comm, Option.map_eq_some_iff] at hi
  obtain ⟨q, hq, hlinks⟩ := hi
  exact ⟨q, hq, congrArg Prod.fst hlinks, congrArg Prod.snd hlinks⟩

lemma chargeSuccess (d : Db) (reference : Reference) (amountKobo : ℚ) :
    d.SameLinks ((handleVerifiedCasePayment reference amountKobo).exec d) := by
  rw [handleVerifiedCasePayment_exec]
  cases d.paymentByReference reference with
  | none => exact refl d
  | some x =>
    dsimp only
    split_ifs
    · exact refl d
    · exact of_modify (d.flagPayment_payment x) fun _ => by rfl
    · exact of_modify (d.verifyPayment_payment x) fun _ => by rfl

lemma chargeFailed (d : Db) (reference : Reference) :
    d.SameLinks ((handleFailedCasePayment reference).exec d) := by
  rw [handleFailedCasePayment_exec]
  cases d.paymentByReference reference with
  | none => exact refl d
  | some x =>
    dsimp only
    split_ifs
    · exact refl d
    · exact of_modify (d.modifyRow_payment _ _) fun _ => by rfl

lemma verifyPayment (d : Db)
    (verify : Reference → Except String VerifyTransactionResult) (p : Id × Payment) :
    d.SameLinks ((CommerceService.verifyPayment verify p.1 p.2).exec d) := by
  rcases verifyPayment_exec d verify p.1 p.2 with heq | ⟨a, -, heq⟩ | heq | heq <;> rw [heq]
  · exact refl d
  · exact chargeSuccess d _ a
  · exact chargeFailed d _
  · exact of_modify (d.modifyRow_payment _ _) fun _ => by rfl

end Db.SameLinks

/-- **What an operation does to the links**: it keeps them, or it initiates a payment. -/
theorem CommerceOp.step_links (env : Env) (d : Db) (o : CommerceOp) :
    d.SameLinks (o.step env d) ∨
      ∃ p, (∃ v, d.invoice.get? p.invoiceId = some v) ∧
        d.referenceTaken p.providerReference = false ∧ o.step env d = d.insertRow .payment p := by
  cases o with
  | initiatePayment actor i n checkout =>
    rcases initiatePayment_exec d actor i n checkout with
      heq | ⟨detail, hdetail, -, -, hfree, heq⟩ <;> rw [CommerceOp.step, heq]
    · exact Or.inl (.refl d)
    · simp only [Db.invoiceDetail, Option.bind_eq_bind, Option.bind_eq_some_iff] at hdetail
      obtain ⟨v, hv, -⟩ := hdetail
      exact Or.inr ⟨_, ⟨v, hv⟩, hfree, rfl⟩
  | chargeSuccess r a => exact Or.inl (.chargeSuccess d r a)
  | chargeFailed r => exact Or.inl (.chargeFailed d r)
  | resolveReconciliation actor i dto =>
    left
    rw [CommerceOp.step, resolveReconciliation_exec]
    cases d.paymentDetail i with
    | none => exact .refl d
    | some x =>
      dsimp only
      split_ifs
      · exact .of_modify (d.reconcilePayment_payment x dto actor.id) fun _ => by rfl
      · exact .refl d
  | paymentExpirySweep =>
    left
    exact runPaymentExpirySweep_keeps d .refl (fun _ _ _ => .trans) env
      fun p _ d' => .of_modify (d'.modifyRow_payment _ _) fun _ => by rfl
  | paymentVerificationSweep verify =>
    left
    rw [CommerceOp.step, runPaymentVerificationSweep_exec]
    exact (invariant (I := fun d' => d.SameLinks d')
      (fun d' p hd' => hd'.trans (.verifyPayment d' verify p)) (.refl d) _).last
  | refundPayment actor i dto answer =>
    left
    rcases refundPayment_exec d env actor i dto answer with
      heq | ⟨x, requested, -, -, -, -, -, ⟨-, heq⟩ | ⟨-, -, heq⟩⟩ <;> rw [CommerceOp.step, heq]
    · exact .refl d
    · exact .of_payment rfl
    · exact .of_modify (d.refundPayment_payment _ _ _ _) fun _ => by rfl
  | approveRefundRequest actor i note answer =>
    left
    rcases approveRefundRequest_exec d actor i note answer with
      heq | ⟨y, -, -, -, -, -, -, -, heq⟩ <;> rw [CommerceOp.step, heq]
    · exact .refl d
    · exact .of_modify ((Db.decideRequest_payment ..).trans (d.refundPayment_payment ..))
        fun _ => by rfl
  | acceptQuote | rejectRefundRequest | holdCase | resumeCase | elapse =>
    exact Or.inl (.of_payment (CommerceOp.step_payment_eq env d rfl))

/-- References stay unique as long as the links of the payments stay. -/
lemma Db.ReferencesUnique.of_sameLinks {a b : Db} (h : a.ReferencesUnique) (hab : a.SameLinks b) :
    b.ReferencesUnique := by
  intro i j p q hi hj hpq
  obtain ⟨p', hp', href, -⟩ := hab.exists_of_get? hi
  obtain ⟨q', hq', hqref, -⟩ := hab.exists_of_get? hj
  exact h i j p' q' hp' hq' (by rw [href, hqref, hpq])

/-- **References stay unique**, whatever is done. -/
theorem Db.ReferencesUnique.step (env : Env) {d : Db} (h : d.ReferencesUnique)
    (o : CommerceOp) : (o.step env d).ReferencesUnique := by
  rcases CommerceOp.step_links env d o with hlinks | ⟨p, -, hfree, heq⟩
  · exact h.of_sameLinks hlinks
  · -- The new payment has a reference that was not taken.
    have hne : ∀ j q, d.payment.get? j = some q →
        q.providerReference ≠ p.providerReference := by
      intro j q hq
      have hmem := (Table.mem_values_iff _).mpr ⟨j, hq⟩
      simpa using List.any_eq_false.mp hfree q hmem
    rw [heq]
    intro i j q r hi hj hqr
    have hi' : (d.payment.insert p).get? i = some q := hi
    have hj' : (d.payment.insert p).get? j = some r := hj
    rw [Table.get?_insert] at hi' hj'
    split at hi' <;> split at hj'
    · omega
    · cases hi'
      exact absurd hqr.symm (hne j r hj')
    · cases hj'
      exact absurd hqr (hne i q hi')
    · exact h i j q r hi' hj' hqr

/-! ## Invoices and cases are never removed -/

/-- Every invoice of `a` is in `b` unchanged, and every case of `a` is in `b` still. -/
structure Db.Grows (a b : Db) : Prop where
  invoice : ∀ i v, a.invoice.get? i = some v → b.invoice.get? i = some v
  serviceCase : ∀ i c, a.serviceCase.get? i = some c → ∃ c', b.serviceCase.get? i = some c'

namespace Db.Grows

lemma of_tables {a b : Db} (hinv : b.invoice = a.invoice) (hcase : b.serviceCase = a.serviceCase) :
    a.Grows b :=
  ⟨fun i v h => by rw [hinv, h], fun i c h => ⟨c, by rw [hcase, h]⟩⟩

lemma refl (d : Db) : d.Grows d := of_tables rfl rfl

lemma trans {a b c : Db} (hab : a.Grows b) (hbc : b.Grows c) : a.Grows c where
  invoice i v h := hbc.invoice i v (hab.invoice i v h)
  serviceCase i v h :=
    let ⟨v', h'⟩ := hab.serviceCase i v h
    hbc.serviceCase i v' h'

lemma of_modify {a b : Db} {i : Id} {f : ServiceCase → ServiceCase}
    (hinv : b.invoice = a.invoice) (hcase : b.serviceCase = a.serviceCase.modify i f) :
    a.Grows b where
  invoice j v h := by rw [hinv, h]
  serviceCase j c h := by
    rw [hcase, Table.get?_modify, h]
    split
    · exact ⟨f c, rfl⟩
    · exact ⟨c, rfl⟩

lemma moveCase (d : Db) (i : Id) (c : ServiceCase) (s : CaseStatus) (held : Option CaseStatus)
    (a : Option Id) (r : Option String) : d.Grows (d.moveCase i c s held a r) :=
  of_modify rfl (f := fun c => { c with status := s, heldFromStatus := held }) rfl

lemma acceptWrites (d : Db) (i : Id) (q : Quote) (r : MembershipService.CommitResult) :
    d.Grows (CommerceService.acceptWrites i q r d) where
  invoice _ _ h := Table.get?_insert_of_some h _
  serviceCase _ c h := ⟨c, h⟩

lemma verifyPayment (d : Db) (x : PaymentDetail) : d.Grows (d.verifyPayment x) := by
  have hpaid : d.Grows (d.markPaid x) :=
    of_modify rfl (f := fun c => { c with paymentStatus := .paid }) rfl
  rw [Db.verifyPayment]
  split
  · split
    · exact hpaid.trans (moveCase _ _ _ _ _ _ _)
    · exact hpaid
  · exact hpaid

lemma chargeSuccess (d : Db) (reference : Reference) (amountKobo : ℚ) :
    d.Grows ((handleVerifiedCasePayment reference amountKobo).exec d) := by
  rw [handleVerifiedCasePayment_exec]
  cases d.paymentByReference reference with
  | none => exact refl d
  | some x =>
    dsimp only
    split_ifs
    · exact refl d
    · exact of_modify rfl (f := fun c => { c with paymentStatus := .reconciliationRequired }) rfl
    · exact verifyPayment d x

lemma chargeFailed (d : Db) (reference : Reference) :
    d.Grows ((handleFailedCasePayment reference).exec d) := by
  rw [handleFailedCasePayment_exec]
  cases d.paymentByReference reference with
  | none => exact refl d
  | some x =>
    dsimp only
    split_ifs
    · exact refl d
    · exact of_tables rfl rfl

lemma verifyRound (d : Db) (verify : Reference → Except String VerifyTransactionResult)
    (p : Id × Payment) : d.Grows ((CommerceService.verifyPayment verify p.1 p.2).exec d) := by
  rcases verifyPayment_exec d verify p.1 p.2 with heq | ⟨a, -, heq⟩ | heq | heq <;> rw [heq]
  · exact refl d
  · exact chargeSuccess d _ a
  · exact chargeFailed d _
  · exact of_tables rfl rfl

lemma reconcilePayment (d : Db) (x : PaymentDetail) (dto : ResolveReconciliationDto)
    (actorId : Id) : d.Grows (d.reconcilePayment x dto actorId) :=
  of_modify rfl (f := fun c => { c with paymentStatus := dto.newPaymentStatus }) rfl

lemma refundPayment (d : Db) (x : PaymentDetail) (actorId : Id) (requested : ℚ)
    (reason : Option String) : d.Grows (d.refundPayment x actorId requested reason) :=
  of_modify rfl (f := fun c => { c with paymentStatus := d.statusAfterRefund x requested }) rfl

lemma decideRequest (d : Db) (i : Id) (status : RefundRequestStatus) (actorId : Id)
    (note : Option String) : d.Grows (d.decideRequest i status actorId note) := of_tables rfl rfl

/-- **No operation removes an invoice or a case.** -/
theorem step (env : Env) (d : Db) (o : CommerceOp) : d.Grows (o.step env d) := by
  cases o with
  | acceptQuote actor q =>
    rcases acceptQuote_exec d actor q with
      heq | ⟨x, r, d₁, -, hd₁, ⟨-, heq⟩ | ⟨-, heq⟩⟩ <;> rw [CommerceOp.step, heq]
    · exact refl d
    all_goals
      have hgrows : d.Grows (CommerceService.acceptWrites q x.quote r d₁) := by
        rcases hd₁ with rfl | ⟨e, rfl⟩
        · exact acceptWrites _ _ _ _
        · exact trans (b := d.insertRow .scLedgerEntry e) (of_tables rfl rfl) (acceptWrites _ _ _ _)
    · exact hgrows.trans (moveCase _ _ _ _ _ _ _)
    · exact hgrows
  | initiatePayment actor i n checkout =>
    rcases initiatePayment_exec d actor i n checkout with
      heq | ⟨detail, -, -, -, -, heq⟩ <;> rw [CommerceOp.step, heq]
    · exact refl d
    · exact of_tables rfl rfl
  | chargeSuccess r a => exact chargeSuccess d r a
  | chargeFailed r => exact chargeFailed d r
  | resolveReconciliation actor i dto =>
    rw [CommerceOp.step, resolveReconciliation_exec]
    cases d.paymentDetail i with
    | none => exact refl d
    | some x =>
      dsimp only
      split_ifs
      · exact reconcilePayment d x dto actor.id
      · exact refl d
  | paymentExpirySweep =>
    exact runPaymentExpirySweep_keeps d refl (fun _ _ _ => trans) env
      fun p _ d' => of_tables rfl rfl
  | paymentVerificationSweep verify =>
    rw [CommerceOp.step, runPaymentVerificationSweep_exec]
    exact (invariant (I := fun d' => d.Grows d')
      (fun d' p hd' => hd'.trans (verifyRound d' verify p)) (refl d) _).last
  | refundPayment actor i dto answer =>
    rcases refundPayment_exec d env actor i dto answer with
      heq | ⟨x, requested, -, -, -, -, -, ⟨-, heq⟩ | ⟨-, -, heq⟩⟩ <;> rw [CommerceOp.step, heq]
    · exact refl d
    · exact of_tables rfl rfl
    · exact refundPayment d x _ _ _
  | approveRefundRequest actor i note answer =>
    rcases approveRefundRequest_exec d actor i note answer with
      heq | ⟨y, -, -, -, -, -, -, -, heq⟩ <;> rw [CommerceOp.step, heq]
    · exact refl d
    · exact (refundPayment d y.detail _ _ _).trans (decideRequest ..)
  | rejectRefundRequest actor i note =>
    rcases rejectRefundRequest_exec d actor i note with heq | ⟨y, -, -, -, heq⟩ <;>
      rw [CommerceOp.step, heq]
    · exact refl d
    · exact of_tables rfl rfl
  | holdCase actor i r =>
    rcases CasesService.holdCase_exec d i actor r with heq | ⟨c, -, -, -, -, heq⟩ <;>
      rw [CommerceOp.step, heq]
    · exact refl d
    · exact moveCase _ _ _ _ _ _ _
  | resumeCase actor i r =>
    rcases CasesService.resumeCase_exec d i actor r with heq | ⟨c, back, -, -, -, heq⟩ <;>
      rw [CommerceOp.step, heq]
    · exact refl d
    · exact moveCase _ _ _ _ _ _ _
  | elapse ms => exact of_tables rfl rfl

end Db.Grows

/-- **Payments stay invoiced**, whatever is done. -/
theorem Db.Invoiced.step (env : Env) {d : Db} (h : d.Invoiced) (o : CommerceOp) :
    (o.step env d).Invoiced := by
  have hgrows := Db.Grows.step env d o
  rcases CommerceOp.step_links env d o with hlinks | ⟨p, ⟨v, hv⟩, -, heq⟩
  · intro i p hp
    obtain ⟨q, hq, -, hinv⟩ := hlinks.exists_of_get? hp
    obtain ⟨v, hv⟩ := h i q hq
    exact ⟨v, hgrows.invoice _ _ (hinv ▸ hv)⟩
  · rw [heq]
    intro i q hq
    have hq' : (d.payment.insert p).get? i = some q := hq
    rw [Table.get?_insert] at hq'
    split at hq'
    · cases hq'
      exact ⟨v, hv⟩
    · exact h i q hq'

/-- A payment that keeps its invoice is still joined to its invoice and its case. -/
lemma Db.Joined.of_grows {a b : Db} {x : PaymentDetail} (h : a.Joined x) (hab : a.Grows b)
    {p : Payment} (hp : b.payment.get? x.id = some p)
    (hinv : p.invoiceId = x.payment.invoiceId) : b.Joined ⟨x.id, p, x.invoice⟩ where
  payment := hp
  invoice := by
    show b.invoice.get? p.invoiceId = some x.invoice
    rw [hinv]
    exact hab.invoice _ _ h.invoice
  serviceCase :=
    let ⟨c, hc⟩ := h.serviceCase
    hab.serviceCase _ c hc

/-- The joined rows after a change of one payment, of this one or of another one. -/
lemma Db.Joined.of_modify {a b : Db} {x : PaymentDetail} (h : a.Joined x) (hab : a.Grows b)
    {i : Id} {f : Payment → Payment} (hpayment : b.payment = a.payment.modify i f)
    (hinv : ∀ p, (f p).invoiceId = p.invoiceId) :
    (i ≠ x.id ∧ b.Joined x) ∨ (i = x.id ∧ b.Joined ⟨x.id, f x.payment, x.invoice⟩) := by
  by_cases hi : i = x.id
  · refine Or.inr ⟨hi, h.of_grows hab ?_ (hinv _)⟩
    rw [hpayment, hi, Table.get?_modify_self, h.payment, Option.map_some]
  · refine Or.inl ⟨hi, h.of_grows hab ?_ rfl⟩
    rw [hpayment, Table.get?_modify_of_ne _ (Ne.symm hi), h.payment]

/-- The key of a payment determines the joined rows. -/
lemma Db.Joined.eq_of_id {d : Db} {x y : PaymentDetail} (hx : d.Joined x) (hy : d.Joined y)
    (h : x.id = y.id) : x = y := by
  have hx' := d.paymentDetail_eq_some_iff.mpr ⟨rfl, hx⟩
  have hy' := d.paymentDetail_eq_some_iff.mpr ⟨rfl, hy⟩
  rw [h, hy'] at hx'
  exact (Option.some.inj hx').symm

/-! ## The moves of a payment -/

/-- What the operation makes of the payment `x`, as it is in `d`. -/
inductive PaymentMove (env : Env) (d : Db) (x : PaymentDetail) : CommerceOp → Payment → Prop
  | verified (hs : x.payment.status ≠ .paid) :
      PaymentMove env d x
        (.chargeSuccess x.payment.providerReference x.payment.expectedKobo)
        { x.payment with status := .paid, providerWebhookVerifiedAt := some d.clock }
  | flagged {a : ℚ} (hs : x.payment.status ≠ .paid) (ha : (x.payment.expectedKobo : ℚ) ≠ a) :
      PaymentMove env d x (.chargeSuccess x.payment.providerReference a)
        { x.payment with status := .reconciliationRequired }
  | failed (hs : x.payment.status ≠ .paid) (hf : x.payment.status ≠ .failed) :
      PaymentMove env d x (.chargeFailed x.payment.providerReference)
        { x.payment with status := .failed }
  | expired (hopen : isOpen x.payment) (s : PaymentStatus) (t : Option Time) :
      PaymentMove env d x .paymentExpirySweep
        { x.payment with status := s, providerWebhookVerifiedAt := t }
  | polled (hopen : isOpen x.payment) (s : PaymentStatus) (t : Option Time)
      (verify : Reference → Except String VerifyTransactionResult) :
      PaymentMove env d x (.paymentVerificationSweep verify)
        { x.payment with status := s, providerWebhookVerifiedAt := t }
  | resolved (actor : AuthenticatedUser) (dto : ResolveReconciliationDto)
      (hs : x.payment.status = .reconciliationRequired) :
      PaymentMove env d x (.resolveReconciliation actor x.id dto)
        (reconciled dto d.clock x.payment)
  | refunded {actor : AuthenticatedUser} {dto : RefundPaymentDto} {answer : Except String Unit}
      {requested : ℚ} (h : RefundsNow d env x.id dto answer x requested) :
      PaymentMove env d x (.refundPayment actor x.id dto answer)
        { x.payment with status := d.statusAfterRefund x requested }
  | approved {actor : AuthenticatedUser} {i : Id} {note : Option String}
      {answer : Except String Unit} {y : RefundRequestDetail} (hy : y.detail = x)
      (h : ApprovesNow d actor i answer y) :
      PaymentMove env d x (.approveRefundRequest actor i note answer)
        { x.payment with status := d.statusAfterRefund x y.request.amount.toRat }

/-- The payment is there before and after.  If the sweep has it among its candidates
(`swept`), its status and the time of its verification may be others. -/
def Db.Carries (x : PaymentDetail) (swept : Prop) (a b : Db) : Prop :=
  ∀ p, a.Joined ⟨x.id, p, x.invoice⟩ → ∃ p', b.Joined ⟨x.id, p', x.invoice⟩ ∧
    (p' = p ∨ (swept ∧ ∃ s t, p' = { p with status := s, providerWebhookVerifiedAt := t }))

namespace Db.Carries

variable {x : PaymentDetail} {swept : Prop}

lemma refl (d : Db) : d.Carries x swept d := fun p hp => ⟨p, hp, Or.inl rfl⟩

lemma trans {a b c : Db} (hab : a.Carries x swept b) (hbc : b.Carries x swept c) :
    a.Carries x swept c := by
  intro p hp
  obtain ⟨p', hp', h⟩ := hab p hp
  obtain ⟨p'', hp'', h'⟩ := hbc p' hp'
  refine ⟨p'', hp'', ?_⟩
  rcases h' with rfl | ⟨hs, s', t', rfl⟩
  · exact h
  · rcases h with rfl | ⟨-, s, t, rfl⟩
    · exact Or.inr ⟨hs, s', t', rfl⟩
    · exact Or.inr ⟨hs, s', t', rfl⟩

/-- A change of status of one payment, which is not this one or is among the candidates. -/
lemma of_modify {a b : Db} (hab : a.Grows b) {i : Id} {f : Payment → Payment}
    (hpayment : b.payment = a.payment.modify i f)
    (hf : ∀ p, ∃ s t, f p = { p with status := s, providerWebhookVerifiedAt := t })
    (hi : i = x.id → swept) : a.Carries x swept b := by
  intro p hp
  have hinv : ∀ p, (f p).invoiceId = p.invoiceId := by
    intro p
    obtain ⟨s, t, hp⟩ := hf p
    rw [hp]
  rcases hp.of_modify hab hpayment hinv with ⟨-, hp'⟩ | ⟨hid, hp'⟩
  · exact ⟨p, hp', Or.inl rfl⟩
  · exact ⟨f p, hp', Or.inr ⟨hi hid, hf p⟩⟩

end Db.Carries

/-- A round of the verification sweep touches no payment but its own, as long as that has
kept its reference. -/
lemma Db.Carries.verifyPayment {d : Db} {x : PaymentDetail} {swept : Prop}
    (verify : Reference → Except String VerifyTransactionResult) (i : Id) (p : Payment)
    (hx : ∀ p', d.Joined ⟨x.id, p', x.invoice⟩ →
      i = x.id ∨ p'.providerReference = p.providerReference → swept) :
    d.Carries x swept ((CommerceService.verifyPayment verify i p).exec d) := by
  intro q hq
  -- A payment found by the reference of the candidate is not this one, or this one is swept.
  have hfound : ∀ y, d.paymentByReference p.providerReference = some y → y.id = x.id → swept := by
    intro y hy hid
    obtain ⟨hyj, href⟩ := d.joined_of_paymentByReference hy
    have hrow := hyj.payment
    rw [hid] at hrow
    obtain rfl : q = y.payment := Option.some.inj (hq.payment.symm.trans hrow)
    exact hx _ hq (Or.inr href)
  rcases verifyPayment_exec d verify i p with heq | ⟨a, -, heq⟩ | heq | heq <;> rw [heq]
  · exact Db.Carries.refl d q hq
  · have hgrows := Db.Grows.chargeSuccess d p.providerReference a
    rw [handleVerifiedCasePayment_exec] at hgrows ⊢
    cases hy : d.paymentByReference p.providerReference with
    | none => exact Db.Carries.refl d q hq
    | some y =>
      rw [hy] at hgrows
      dsimp only at hgrows ⊢
      split_ifs at hgrows ⊢
      · exact Db.Carries.refl d q hq
      · exact Db.Carries.of_modify hgrows (d.flagPayment_payment y)
          (fun p => ⟨.reconciliationRequired, p.providerWebhookVerifiedAt, rfl⟩)
          (hfound y hy) q hq
      · exact Db.Carries.of_modify hgrows (d.verifyPayment_payment y)
          (fun p => ⟨.paid, some d.clock, rfl⟩) (hfound y hy) q hq
  · have hgrows := Db.Grows.chargeFailed d p.providerReference
    rw [handleFailedCasePayment_exec] at hgrows ⊢
    cases hy : d.paymentByReference p.providerReference with
    | none => exact Db.Carries.refl d q hq
    | some y =>
      rw [hy] at hgrows
      dsimp only at hgrows ⊢
      split_ifs at hgrows ⊢
      · exact Db.Carries.refl d q hq
      · exact Db.Carries.of_modify hgrows (d.modifyRow_payment _ _)
          (fun p => ⟨.failed, p.providerWebhookVerifiedAt, rfl⟩) (hfound y hy) q hq
  · have hgrows : d.Grows (d.modifyRow .payment i fun p => { p with status := .processing }) :=
      .of_tables rfl rfl
    exact Db.Carries.of_modify hgrows (d.modifyRow_payment _ _)
      (fun p => ⟨.processing, p.providerWebhookVerifiedAt, rfl⟩)
      (fun hi => hx q hq (Or.inl hi)) q hq

/-- A candidate of a sweep that is this payment, or has its reference, shows it to be open. -/
lemma isOpen_of_candidate {d : Db} (h : d.ReferencesUnique) {x : PaymentDetail} (hx : d.Joined x)
    {row : Id × Payment} (hrow : row ∈ d.payment.rows) (hopen : isOpen row.2)
    (hsame : row.1 = x.id ∨ x.payment.providerReference = row.2.providerReference) :
    isOpen x.payment := by
  have hget := d.payment.mem_rows_iff.mp hrow
  have hid : row.1 = x.id := by
    rcases hsame with hid | href
    · exact hid
    · exact (h x.id row.1 x.payment row.2 hx.payment hget href).symm
  rw [hid, hx.payment, Option.some.injEq] at hget
  rwa [hget]

/-- The expiry sweep touches open payments only. -/
lemma Db.Carries.expirySweep (env : Env) {d : Db} (h : d.ReferencesUnique) {x : PaymentDetail}
    (hx : d.Joined x) :
    d.Carries x (isOpen x.payment) ((runPaymentExpirySweep env).exec d) := by
  refine runPaymentExpirySweep_keeps d .refl (fun _ _ _ => .trans) env fun row hrow d' => ?_
  rw [stalePayments, List.mem_filter, decide_eq_true_eq] at hrow
  refine Db.Carries.of_modify (a := d') (.of_tables rfl rfl) (d'.modifyRow_payment _ _)
    (fun p => ⟨.expired, p.providerWebhookVerifiedAt, rfl⟩) fun hid => ?_
  exact isOpen_of_candidate h hx hrow.1 hrow.2.1 (Or.inl hid)

/-- So does the verification sweep. -/
lemma Db.Carries.verificationSweep (env : Env)
    (verify : Reference → Except String VerifyTransactionResult) {d : Db}
    (h : d.ReferencesUnique) {x : PaymentDetail} (hx : d.Joined x) :
    d.Carries x (isOpen x.payment) ((runPaymentVerificationSweep env verify).exec d) := by
  rw [runPaymentVerificationSweep_exec]
  refine (AllSteps.invariant (I := fun d' => d.Carries x (isOpen x.payment) d')
    (P := fun _ row => row ∈ verificationCandidates env d.clock d) (fun d' row hd' hrow => ?_)
    (Db.Carries.refl d) (AllSteps.of_forall_mem (fun _ _ hrow => hrow) d)).last
  rw [verificationCandidates, List.mem_filter, decide_eq_true_eq] at hrow
  refine hd'.trans (Db.Carries.verifyPayment verify row.1 row.2 fun p' hp' hsame => ?_)
  refine isOpen_of_candidate h hx hrow.1 hrow.2.1 (hsame.imp_right fun href => ?_)
  -- The payment has kept its reference so far.
  obtain ⟨p'', hp'', hsame''⟩ := hd' x.payment hx
  obtain rfl : p' = p'' := Option.some.inj (hp'.payment.symm.trans hp''.payment)
  rcases hsame'' with rfl | ⟨-, s, t, rfl⟩ <;> exact href

/-- **What one operation can make of one payment.** -/
theorem CommerceOp.step_payment (env : Env) {d : Db} (h : d.ReferencesUnique)
    {x : PaymentDetail} (hx : d.Joined x) (o : CommerceOp) :
    ∃ p, (o.step env d).Joined ⟨x.id, p, x.invoice⟩ ∧
      (p = x.payment ∨ PaymentMove env d x o p) := by
  -- An operation that touches no payment, or another one.
  have hsame : ∀ {d' : Db}, d'.Joined x → ∃ p, d'.Joined ⟨x.id, p, x.invoice⟩ ∧
      (p = x.payment ∨ PaymentMove env d x o p) := fun hx' => ⟨x.payment, hx', Or.inl rfl⟩
  cases o with
  | chargeSuccess r a =>
    have hgrows := Db.Grows.chargeSuccess d r a
    rw [CommerceOp.step]
    rw [handleVerifiedCasePayment_exec] at hgrows ⊢
    cases hy : d.paymentByReference r with
    | none => exact hsame hx
    | some y =>
      obtain ⟨hyj, rfl⟩ := d.joined_of_paymentByReference hy
      rw [hy] at hgrows
      dsimp only at hgrows ⊢
      split_ifs at hgrows ⊢ with hs ha
      · exact hsame hx
      · rcases hx.of_modify hgrows (d.flagPayment_payment y) (fun _ => by rfl) with
          ⟨-, hx'⟩ | ⟨hid, hx'⟩
        · exact hsame hx'
        · obtain rfl := hyj.eq_of_id hx hid
          exact ⟨_, hx', Or.inr (.flagged hs ha)⟩
      · rcases hx.of_modify hgrows (d.verifyPayment_payment y) (fun _ => by rfl) with
          ⟨-, hx'⟩ | ⟨hid, hx'⟩
        · exact hsame hx'
        · obtain rfl := hyj.eq_of_id hx hid
          obtain rfl := not_not.mp ha
          exact ⟨_, hx', Or.inr (.verified hs)⟩
  | chargeFailed r =>
    have hgrows := Db.Grows.chargeFailed d r
    rw [CommerceOp.step]
    rw [handleFailedCasePayment_exec] at hgrows ⊢
    cases hy : d.paymentByReference r with
    | none => exact hsame hx
    | some y =>
      obtain ⟨hyj, rfl⟩ := d.joined_of_paymentByReference hy
      rw [hy] at hgrows
      dsimp only at hgrows ⊢
      split_ifs at hgrows ⊢ with hs
      · exact hsame hx
      · rcases hx.of_modify hgrows (d.modifyRow_payment _ _) (fun _ => by rfl) with
          ⟨-, hx'⟩ | ⟨hid, hx'⟩
        · exact hsame hx'
        · obtain rfl := hyj.eq_of_id hx hid
          rw [not_or] at hs
          exact ⟨_, hx', Or.inr (.failed hs.1 hs.2)⟩
  | resolveReconciliation actor i dto =>
    rw [CommerceOp.step, resolveReconciliation_exec]
    cases hy : d.paymentDetail i with
    | none => exact hsame hx
    | some y =>
      obtain ⟨rfl, hyj⟩ := d.paymentDetail_eq_some_iff.mp hy
      dsimp only
      split_ifs with hs
      · rcases hx.of_modify (Db.Grows.reconcilePayment d y dto actor.id)
          (d.reconcilePayment_payment y dto actor.id) (fun _ => by rfl) with
          ⟨-, hx'⟩ | ⟨hid, hx'⟩
        · exact hsame hx'
        · obtain rfl := hyj.eq_of_id hx hid
          exact ⟨_, hx', Or.inr (.resolved actor dto hs)⟩
      · exact hsame hx
  | paymentExpirySweep =>
    obtain ⟨p, hp, rfl | ⟨hopen, s, t, rfl⟩⟩ := Db.Carries.expirySweep env h hx x.payment hx
    · exact hsame hp
    · exact ⟨_, hp, Or.inr (.expired hopen s t)⟩
  | paymentVerificationSweep verify =>
    obtain ⟨p, hp, rfl | ⟨hopen, s, t, rfl⟩⟩ :=
      Db.Carries.verificationSweep env verify h hx x.payment hx
    · exact hsame hp
    · exact ⟨_, hp, Or.inr (.polled hopen s t verify)⟩
  | refundPayment actor i dto answer =>
    rcases refundPayment_exec d env actor i dto answer with
      heq | ⟨y, requested, hy, hs, hreq, hpos, hle, ⟨-, heq⟩ | ⟨hsmall, hanswer, heq⟩⟩ <;>
      rw [CommerceOp.step, heq]
    · exact hsame hx
    · exact hsame (hx.of_grows (b := d.insertRow .refundRequest _) (.of_tables rfl rfl)
        hx.payment rfl)
    · obtain ⟨rfl, hyj⟩ := d.paymentDetail_eq_some_iff.mp hy
      rcases hx.of_modify (Db.Grows.refundPayment d y actor.id requested (some dto.reason))
        (d.refundPayment_payment _ _ _ _) (fun _ => by rfl) with ⟨-, hx'⟩ | ⟨hid, hx'⟩
      · exact hsame hx'
      · obtain rfl := hyj.eq_of_id hx hid
        exact ⟨_, hx', Or.inr (.refunded ⟨hy, hs, hreq, hpos, hle, hsmall, hanswer⟩)⟩
  | approveRefundRequest actor i note answer =>
    rcases approveRefundRequest_exec d actor i note answer with
      heq | ⟨y, hy, hp, hown, hs, hpos, hle, hanswer, heq⟩ <;> rw [CommerceOp.step, heq]
    · exact hsame hx
    · have hyj := (refundRequestDetail_eq_some d hy).2.2
      have hgrows : d.Grows ((d.refundPayment y.detail actor.id y.request.amount.toRat
          (some y.request.reason)).decideRequest i .approved actor.id note) :=
        (Db.Grows.refundPayment d _ _ _ _).trans (.decideRequest ..)
      rcases hx.of_modify hgrows
        ((Db.decideRequest_payment ..).trans
          (d.refundPayment_payment y.detail actor.id y.request.amount.toRat _))
        (fun _ => by rfl) with ⟨-, hx'⟩ | ⟨hid, hx'⟩
      · exact hsame hx'
      · obtain rfl := hyj.eq_of_id hx hid
        exact ⟨_, hx', Or.inr (.approved rfl ⟨hy, hp, hown, hs, hpos, hle, hanswer⟩)⟩
  | initiatePayment actor i n checkout =>
    rcases initiatePayment_exec d actor i n checkout with
      heq | ⟨detail, -, -, -, -, heq⟩ <;> rw [CommerceOp.step, heq]
    · exact hsame hx
    · exact hsame (hx.of_grows (b := d.insertRow .payment _) (.of_tables rfl rfl)
        (Table.get?_insert_of_some hx.payment _) rfl)
  | acceptQuote | rejectRefundRequest | holdCase | resumeCase | elapse =>
    refine hsame (hx.of_grows (Db.Grows.step env d _) ?_ rfl)
    rw [CommerceOp.step_payment_eq env d rfl, hx.payment]

end Asoju
