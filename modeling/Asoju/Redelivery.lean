/-
Redelivery: when an event of the provider can come twice.

The handlers of the provider's events recognise a redelivery by the status of the payment:
PAID, and for a failure also FAILED.  `isHarmless_iff` shows for which states this is enough,
and `redelivery_harmless_iff` for which runs.
-/
import Asoju.PaymentMoves

namespace Asoju

open Lib CommerceService

/-- A verified event of the provider about the payment of an invoice. -/
inductive ProviderEvent
  | success (reference : Reference) (amountKobo : ℚ)
  | failure (reference : Reference)
deriving DecidableEq, Repr

namespace ProviderEvent

def reference : ProviderEvent → Reference
  | success r _ => r
  | failure r => r

/-- The handler of the event. -/
def handle : ProviderEvent → Svc Payment
  | success r a => handleVerifiedCasePayment r a
  | failure r => handleFailedCasePayment r

/-- Handling the event leaves every payment, every refund and every case as it was. -/
def Harmless (e : ProviderEvent) (d : Db) : Prop :=
  (e.handle.exec d).payment = d.payment ∧ (e.handle.exec d).refund = d.refund ∧
    (e.handle.exec d).serviceCase = d.serviceCase

/-- The payment is in a state in which the event no longer changes anything. -/
def Settled (d : Db) (x : PaymentDetail) : ProviderEvent → Prop
  | success _ a =>
      x.payment.status = .paid ∨
        ((x.payment.expectedKobo : ℚ) ≠ a ∧ x.payment.status = .reconciliationRequired ∧
          ∃ c, d.serviceCase.get? x.invoice.caseId = some c ∧
            c.paymentStatus = .reconciliationRequired)
  | failure _ => x.payment.status = .paid ∨ x.payment.status = .failed

/-! ## One event in one state -/

lemma harmless_success_iff (d : Db) (r : Reference) (a : ℚ) :
    (success r a).Harmless d ↔
      ∀ x, d.paymentByReference r = some x → (success r a).Settled d x := by
  rw [Harmless, handle, handleVerifiedCasePayment_exec]
  cases hx : d.paymentByReference r with
  | none => simp
  | some x =>
    obtain ⟨hp, hinv, c, hc⟩ := (d.joined_of_paymentByReference hx).1
    simp only [Option.some.injEq, forall_eq', Settled]
    by_cases hs : x.payment.status = .paid
    · simp [hs]
    · rw [if_neg hs]
      by_cases ha : (x.payment.expectedKobo : ℚ) = a
      · -- The payment would become PAID, which it is not.
        rw [if_neg (not_not.mpr ha), d.verifyPayment_payment, Table.modify_eq_self_iff hp]
        refine iff_of_false (fun h => hs ?_) fun h => h.elim hs fun h => h.1 ha
        exact congrArg Payment.status h.1.symm
      · have hcase : (d.flagPayment x).serviceCase =
            d.serviceCase.modify x.invoice.caseId
              fun c => { c with paymentStatus := .reconciliationRequired } := rfl
        rw [if_pos ha, d.flagPayment_payment, hcase, Table.modify_eq_self_iff hp,
          Table.modify_eq_self_iff hc]
        constructor
        · rintro ⟨hpay, -, hcase⟩
          exact Or.inr ⟨ha, congrArg Payment.status hpay.symm, c, hc,
            congrArg ServiceCase.paymentStatus hcase.symm⟩
        · rintro (h | ⟨-, hr, c', hc', hcr⟩)
          · exact absurd h hs
          · obtain rfl : c = c' := Option.some.inj (hc.symm.trans hc')
            exact ⟨by rw [← hr], rfl, by rw [← hcr]⟩

lemma harmless_failure_iff (d : Db) (r : Reference) :
    (failure r).Harmless d ↔
      ∀ x, d.paymentByReference r = some x → (failure r).Settled d x := by
  rw [Harmless, handle, handleFailedCasePayment_exec]
  cases hx : d.paymentByReference r with
  | none => simp
  | some x =>
    have hp := (d.joined_of_paymentByReference hx).1.payment
    simp only [Option.some.injEq, forall_eq', Settled]
    by_cases hs : x.payment.status = .paid ∨ x.payment.status = .failed
    · simp [hs]
    · rw [if_neg hs, d.modifyRow_payment, Table.modify_eq_self_iff hp]
      refine iff_of_false (fun h => hs (Or.inr ?_)) hs
      exact congrArg Payment.status h.1.symm

/-- **When handling an event changes nothing**: exactly when the payment it is about, if
there is one, is settled. -/
theorem isHarmless_iff (d : Db) (e : ProviderEvent) :
    e.Harmless d ↔ ∀ x, d.paymentByReference e.reference = some x → e.Settled d x := by
  cases e with
  | success r a => exact harmless_success_iff d r a
  | failure r => exact harmless_failure_iff d r

/-- The status that the payment of a processed event keeps, as long as nothing but events
and polls comes. -/
def Final : ProviderEvent → PaymentStatus → Prop
  | success .., s => s = .paid
  | failure _, s => s = .paid ∨ s = .failed

lemma Final.settled {e : ProviderEvent} {x : PaymentDetail} (h : e.Final x.payment.status)
    (d : Db) : e.Settled d x := by
  cases e with
  | success r a => exact Or.inl h
  | failure r => exact h

lemma Final.eq {e : ProviderEvent} {s : PaymentStatus} (h : e.Final s) :
    s = .paid ∨ s = .failed := by
  cases e with
  | success r a => exact Or.inl h
  | failure r => exact h

lemma Final.not_isOpen {e : ProviderEvent} {p : Payment} (h : e.Final p.status) :
    ¬ isOpen p := by
  rcases h.eq with hs | hs <;> simp [isOpen, hs]

/-- An event that is processed without an error has found its payment, and a success has
brought the amount of it. -/
lemma exists_of_isOk {d : Db} {e : ProviderEvent} (h : (e.handle.run d).1.isOk = true) :
    ∃ x, d.paymentByReference e.reference = some x ∧
      ∀ r a, e = success r a → (x.payment.expectedKobo : ℚ) = a := by
  cases e with
  | success r a =>
    rw [handle, handleVerifiedCasePayment] at h
    cases hx : d.paymentByReference r with
    | none => simp [Prog.run_bind, hx, Except.isOk, Except.toBool] at h
    | some x =>
      refine ⟨x, hx, fun r' a' heq => ?_⟩
      cases heq
      by_contra ha
      obtain ⟨hp, -, c, hc⟩ := (d.joined_of_paymentByReference hx).1
      by_cases hs : x.payment.status = .paid
      · simp [Prog.run_bind, hx, ha, hs, Except.isOk, Except.toBool] at h
      · simp [Prog.run_bind, hx, ha, hs, hp, hc, Db.modifyRow, Db.tick, Except.isOk,
          Except.toBool] at h
  | failure r =>
    rw [handle, handleFailedCasePayment] at h
    cases hx : d.paymentByReference r with
    | none => simp [Prog.run_bind, hx, Except.isOk, Except.toBool] at h
    | some x =>
      refine ⟨x, hx, fun r' a' heq => ?_⟩
      cases heq

/-- Processing an event without an error brings its payment into a final status. -/
lemma final_of_isOk {d : Db} {e : ProviderEvent} (h : (e.handle.run d).1.isOk = true) :
    ∃ x, (e.handle.exec d).Joined x ∧ x.payment.providerReference = e.reference ∧
      e.Final x.payment.status := by
  obtain ⟨x, hx, hamount⟩ := exists_of_isOk h
  obtain ⟨hxj, href⟩ := d.joined_of_paymentByReference hx
  cases e with
  | success r a =>
    have hx : d.paymentByReference r = some x := hx
    have ha : ¬ (x.payment.expectedKobo : ℚ) ≠ a := not_not.mpr (hamount r a rfl)
    rw [handle, handleVerifiedCasePayment_exec, hx]
    dsimp only
    rw [if_neg ha]
    split_ifs with hs
    · exact ⟨x, hxj, href, hs⟩
    · rcases hxj.of_modify (Db.Grows.verifyPayment d x) (d.verifyPayment_payment x)
        (fun _ => by rfl) with ⟨hne, -⟩ | ⟨-, hx'⟩
      · exact absurd rfl hne
      · exact ⟨_, hx', href, rfl⟩
  | failure r =>
    have hx : d.paymentByReference r = some x := hx
    rw [handle, handleFailedCasePayment_exec, hx]
    dsimp only
    split_ifs with hs
    · exact ⟨x, hxj, href, hs⟩
    · have hgrows : d.Grows (d.modifyRow .payment x.id fun p => { p with status := .failed }) :=
        .of_tables rfl rfl
      rcases hxj.of_modify hgrows (d.modifyRow_payment _ _) (fun _ => by rfl) with
        ⟨hne, -⟩ | ⟨-, hx'⟩
      · exact absurd rfl hne
      · exact ⟨_, hx', href, Or.inr rfl⟩

end ProviderEvent

/-! ## Runs -/

/-- The event that an operation delivers. -/
def CommerceOp.event? : CommerceOp → Option ProviderEvent
  | .chargeSuccess r a => some (.success r a)
  | .chargeFailed r => some (.failure r)
  | _ => none

/-- The database, and the events that have been processed without an error. -/
structure Deliveries where
  db : Db
  processed : List ProviderEvent

namespace Deliveries

/-- One operation, with the record of the event it may have processed. -/
def step (env : Env) (s : Deliveries) (o : CommerceOp) : Deliveries where
  db := o.step env s.db
  processed := match o.event? with
    | some e => if (e.handle.run s.db).1.isOk then e :: s.processed else s.processed
    | none => s.processed

/-- Every event that has been processed can come again without changing anything. -/
def RedeliveryHarmless (s : Deliveries) : Prop := ∀ e ∈ s.processed, e.Harmless s.db

/-- The operation refunds no payment one of whose events has been processed, and brings no
success with another amount about a payment whose processed failure stands. -/
def KeepsSettled (env : Env) (s : Deliveries) : CommerceOp → Prop
  | .refundPayment _ i dto answer =>
      ∀ e ∈ s.processed, ∀ x requested, x.payment.providerReference = e.reference →
        ¬ RefundsNow s.db env i dto answer x requested
  | .approveRefundRequest actor i _ answer =>
      ∀ e ∈ s.processed, ∀ y, y.detail.payment.providerReference = e.reference →
        ¬ ApprovesNow s.db actor i answer y
  | .chargeSuccess r a =>
      ∀ x, s.db.paymentByReference r = some x → x.payment.status = .failed →
        (x.payment.expectedKobo : ℚ) ≠ a → .failure r ∉ s.processed
  | _ => True

/-- References are unique, and the payment of every processed event is in a final status. -/
structure Invariant (s : Deliveries) : Prop where
  unique : s.db.ReferencesUnique
  final : ∀ e ∈ s.processed, ∃ x, s.db.Joined x ∧
    x.payment.providerReference = e.reference ∧ e.Final x.payment.status

lemma Invariant.redeliveryHarmless {s : Deliveries} (h : s.Invariant) : s.RedeliveryHarmless := by
  intro e he
  obtain ⟨x, hx, href, hfinal⟩ := h.final e he
  rw [e.isHarmless_iff]
  intro y hy
  rw [h.unique.paymentByReference_eq_some_iff.mpr ⟨hx, href⟩, Option.some.injEq] at hy
  rw [← hy]
  exact hfinal.settled s.db

/-- A processed event stays final across an operation that meets the condition. -/
lemma Invariant.final_step {env : Env} {s : Deliveries} (h : s.Invariant) {o : CommerceOp}
    (ho : s.KeepsSettled env o) {e : ProviderEvent} (he : e ∈ s.processed) :
    ∃ x, (o.step env s.db).Joined x ∧ x.payment.providerReference = e.reference ∧
      e.Final x.payment.status := by
  obtain ⟨x, hx, href, hfinal⟩ := h.final e he
  obtain ⟨p, hp, rfl | hmove⟩ := CommerceOp.step_payment env h.unique hx o
  · exact ⟨x, hp, href, hfinal⟩
  · have hstatus := hfinal.eq
    cases hmove with
    | verified hs =>
      refine ⟨_, hp, href, ?_⟩
      cases e with
      | success r a => rfl
      | failure r => exact Or.inl rfl
    | flagged hs ha =>
      -- Only a failure can have left the payment in a status other than PAID.
      cases e with
      | success r a => exact absurd hfinal hs
      | failure r =>
        obtain rfl : x.payment.providerReference = r := href
        have hfound := h.unique.paymentByReference_eq_some_iff.mpr ⟨hx, rfl⟩
        exact absurd he (ho x hfound (hstatus.resolve_left hs) ha)
    | failed hs hf => exact absurd hstatus (not_or.mpr ⟨hs, hf⟩)
    | expired hopen s t => exact absurd hopen hfinal.not_isOpen
    | polled hopen s t verify => exact absurd hopen hfinal.not_isOpen
    | resolved actor dto hs => rw [hs] at hstatus; simp at hstatus
    | refunded hnow => exact absurd hnow (ho e he x _ href)
    | approved hy hnow => exact absurd hnow (ho e he _ (by rw [hy, href]))

/-- The events that have been processed after an operation. -/
lemma mem_processed_step {env : Env} {s : Deliveries} {o : CommerceOp} {e : ProviderEvent}
    (he : e ∈ (s.step env o).processed) :
    e ∈ s.processed ∨ (o.event? = some e ∧ (e.handle.run s.db).1.isOk = true) := by
  rw [step] at he
  cases ho : o.event? with
  | none =>
    rw [ho] at he
    exact Or.inl he
  | some e' =>
    simp only [ho] at he
    split_ifs at he with hok
    · rcases List.mem_cons.mp he with rfl | he
      · exact Or.inr ⟨rfl, hok⟩
      · exact Or.inl he
    · exact Or.inl he

lemma mem_step_of_mem {env : Env} {s : Deliveries} (o : CommerceOp) {e : ProviderEvent}
    (he : e ∈ s.processed) : e ∈ (s.step env o).processed := by
  rw [step]
  cases o.event? with
  | none => exact he
  | some e' =>
    dsimp only
    split_ifs
    · exact List.mem_cons_of_mem _ he
    · exact he

/-- The operation that delivers an event runs its handler. -/
lemma step_of_event {env : Env} {d : Db} {o : CommerceOp} {e : ProviderEvent}
    (h : o.event? = some e) : o.step env d = e.handle.exec d := by
  cases o <;> cases h <;> rfl

lemma Invariant.step {env : Env} {s : Deliveries} (h : s.Invariant) {o : CommerceOp}
    (ho : s.KeepsSettled env o) : (s.step env o).Invariant where
  unique := h.unique.step env o
  final := by
    intro e he
    show ∃ x, (o.step env s.db).Joined x ∧ _
    rcases mem_processed_step he with he | ⟨hevent, hok⟩
    · exact h.final_step ho he
    · rw [step_of_event hevent]
      exact ProviderEvent.final_of_isOk hok

/-- A payment that is no longer PAID or FAILED, and not flagged for reconciliation, is not
settled for any event. -/
lemma not_harmless_of_refunded {d : Db} (h : d.ReferencesUnique) {x : PaymentDetail}
    (hx : d.Joined x) {e : ProviderEvent} (href : x.payment.providerReference = e.reference)
    (hs : x.payment.status = .refunded ∨ x.payment.status = .partiallyRefunded) :
    ¬ e.Harmless d := by
  rw [e.isHarmless_iff]
  intro hharmless
  have hsettled := hharmless x (h.paymentByReference_eq_some_iff.mpr ⟨hx, href⟩)
  cases e with
  | success r a => rcases hs with hs | hs <;> simp [ProviderEvent.Settled, hs] at hsettled
  | failure r => rcases hs with hs | hs <;> simp [ProviderEvent.Settled, hs] at hsettled

/-- The payment after a refund. -/
lemma joined_refundPayment {d : Db} {x : PaymentDetail} (hx : d.Joined x) (actorId : Id)
    (requested : ℚ) (reason : Option String) :
    ∃ y, (d.refundPayment x actorId requested reason).Joined y ∧
      y.payment.providerReference = x.payment.providerReference ∧
      (y.payment.status = .refunded ∨ y.payment.status = .partiallyRefunded) := by
  rcases hx.of_modify (Db.Grows.refundPayment d x actorId requested reason)
    (d.refundPayment_payment _ _ _ _) (fun _ => by rfl) with ⟨hne, -⟩ | ⟨-, hx'⟩
  · exact absurd rfl hne
  · refine ⟨_, hx', rfl, ?_⟩
    show d.statusAfterRefund x requested = _ ∨ d.statusAfterRefund x requested = _
    rw [Db.statusAfterRefund]
    split_ifs
    · exact Or.inl rfl
    · exact Or.inr rfl

/-- An operation that does not meet the condition leaves an event behind whose redelivery
does harm. -/
lemma Invariant.keepsSettled {env : Env} {s : Deliveries} (h : s.Invariant) {o : CommerceOp}
    (hnext : (s.step env o).RedeliveryHarmless) : s.KeepsSettled env o := by
  have hunique := h.unique.step env o
  have hharmless : ∀ e ∈ s.processed, e.Harmless (o.step env s.db) :=
    fun e he => hnext e (mem_step_of_mem o he)
  cases o with
  | refundPayment actor i dto answer =>
    intro e he x requested href hnow
    have hx := (s.db.paymentDetail_eq_some_iff.mp hnow.found).2
    have hstep := hharmless e he
    rw [CommerceOp.step, hnow.exec] at hunique hstep
    obtain ⟨y, hy, hyref, hys⟩ := joined_refundPayment hx actor.id requested (some dto.reason)
    exact not_harmless_of_refunded hunique hy (hyref.trans href) hys hstep
  | approveRefundRequest actor i note answer =>
    intro e he y href hnow
    have hx := (refundRequestDetail_eq_some s.db hnow.found).2.2
    have hstep := hharmless e he
    rw [CommerceOp.step, hnow.exec] at hunique hstep
    obtain ⟨z, hz, hzref, hzs⟩ := joined_refundPayment hx actor.id y.request.amount.toRat
      (some y.request.reason)
    generalize s.db.refundPayment y.detail actor.id y.request.amount.toRat
      (some y.request.reason) = d at hz hunique hstep
    have hgrows : d.Grows (d.decideRequest i .approved actor.id note) := .of_tables rfl rfl
    have hz' : (d.decideRequest i .approved actor.id note).Joined z :=
      hz.of_grows hgrows hz.payment rfl
    exact not_harmless_of_refunded hunique hz' (hzref.trans href) hzs hstep
  | chargeSuccess r a =>
    intro x hx hs ha he
    obtain ⟨hxj, href⟩ := s.db.joined_of_paymentByReference hx
    have hstep := hharmless _ he
    have hpaid : x.payment.status ≠ .paid := by
      rw [hs]
      decide
    have hgrows := Db.Grows.chargeSuccess s.db r a
    rw [handleVerifiedCasePayment_exec, hx] at hgrows
    rw [CommerceOp.step, handleVerifiedCasePayment_exec, hx] at hunique hstep
    dsimp only at hgrows hunique hstep
    rw [if_neg hpaid, if_pos ha] at hgrows hunique hstep
    rcases hxj.of_modify hgrows (s.db.flagPayment_payment x) (fun _ => by rfl) with
      ⟨hne, -⟩ | ⟨-, hx'⟩
    · exact absurd rfl hne
    · rw [ProviderEvent.isHarmless_iff] at hstep
      have hsettled := hstep _ (hunique.paymentByReference_eq_some_iff.mpr ⟨hx', href⟩)
      simp [ProviderEvent.Settled] at hsettled
  | _ => trivial

end Deliveries

open Deliveries in
/-- **When redelivery is harmless.**  In every run that starts before any event has come,
every event that has been processed can come again in every later state without changing a
payment, a refund or a case, exactly when no payment of a processed event is refunded and no
processed failure is overtaken by a success with another amount. -/
theorem redelivery_harmless_iff (env : Env) (d : Db) (h : d.ReferencesUnique)
    (os : List CommerceOp) :
    AllStates (Deliveries.step env) RedeliveryHarmless ⟨d, []⟩ os ↔
      AllSteps (Deliveries.step env) (KeepsSettled env) ⟨d, []⟩ os :=
  allStates_iff_allSteps_of_invariant (I := Deliveries.Invariant)
    (fun _ hs => hs.redeliveryHarmless) (fun _ _ hs ho => hs.step ho)
    (fun _ _ hs hnext => hs.keepsSettled hnext) ⟨h, by simp⟩ os

theorem redelivery_harmless_iff_invoicedDb :
    AllStates (Deliveries.step {}) Deliveries.RedeliveryHarmless ⟨invoicedDb, []⟩
        [.initiatePayment ⟨7, .customer⟩ 0 0 (.ok ()), .chargeSuccess (.caseInvoice 0 0) 100000,
         .chargeSuccess (.caseInvoice 0 0) 100000] ↔
      AllSteps (Deliveries.step {}) (Deliveries.KeepsSettled {}) ⟨invoicedDb, []⟩
        [.initiatePayment ⟨7, .customer⟩ 0 0 (.ok ()), .chargeSuccess (.caseInvoice 0 0) 100000,
         .chargeSuccess (.caseInvoice 0 0) 100000] := by
  refine redelivery_harmless_iff {} invoicedDb ?_ _
  intro i j p q hp
  cases hp

/-- A payment that is made and then refunded in full. -/
def refundedRun : List CommerceOp :=
  [.initiatePayment ⟨7, .customer⟩ 0 0 (.ok ()), .chargeSuccess (.caseInvoice 0 0) 100000,
   .refundPayment ⟨1, .finance⟩ 0 ⟨none, "Visit cancelled"⟩ (.ok ())]

/-- When the success comes again after that, the refunded payment is PAID. -/
theorem redelivery_revives_refunded :
    ¬ AllStates (Deliveries.step {}) Deliveries.RedeliveryHarmless ⟨invoicedDb, []⟩
        refundedRun ∧
      (let d := (runFrom (Deliveries.step {}) ⟨invoicedDb, []⟩ refundedRun).db
       (d.payment.get? 0).map (·.status) = some .refunded ∧
        (((ProviderEvent.success (.caseInvoice 0 0) 100000).handle.exec d).payment.get? 0).map
          (·.status) = some .paid) := by
  refine ⟨fun h => ?_, by decide +kernel⟩
  have hmem : .success (.caseInvoice 0 0) 100000 ∈
      (runFrom (Deliveries.step {}) ⟨invoicedDb, []⟩ refundedRun).processed := by
    decide +kernel
  have hpayment := (h.last _ hmem).1
  have hstatus := congrArg (fun t => (t.get? 0).map Payment.status) hpayment
  exact absurd hstatus (by decide +kernel)

end Asoju
