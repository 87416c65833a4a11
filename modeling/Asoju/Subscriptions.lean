/-
Subscriptions: signing up, the provider's events about their invoices, and the billing sweep.

A customer signs up for a plan and is handed a checkout; the subscription becomes ACTIVE with
the first verified payment, and from then on the daily sweep opens one invoice for each period.
Every checkout is an invoice of its own, so that a subscription can have several open ones: the
handlers look at the invoice of the event and at its subscription, and the sweep looks at the
newest invoice only.

The methods are given with all of their steps, the audit events and notifications included: what
a failure between two of them leaves behind is part of what is asked about them.  What the
provider answers and the random digits of a reference are inputs.
-/
import Asoju.Cases
import Asoju.Membership
import Mathlib.Data.List.MinMax

namespace Asoju

open Lib

/-! ## Joined reads -/

/-- What a checkout needs to know about the subscription it is for. -/
structure BillableSubscription where
  id : Id
  amount : Money
  currency : String
deriving DecidableEq, Repr

def Subscription.billable (s : Subscription) (i : Id) : BillableSubscription :=
  ⟨i, s.amount, s.currency⟩

/-- An invoice of a subscription, with its key and the subscription. -/
structure SubscriptionInvoiceDetail where
  id : Id
  invoice : SubscriptionInvoice
  subscription : Subscription
deriving DecidableEq, Repr

/-- A subscription whose period has ended, with its newest invoice. -/
structure DueSubscription where
  id : Id
  subscription : Subscription
  lastInvoice : Option SubscriptionInvoice
deriving DecidableEq, Repr

/-- The newest invoice was never paid. -/
def DueSubscription.lapses (x : DueSubscription) : Bool :=
  x.lastInvoice.any fun v => v.status ≠ .paid

/-- The number of kobo that the provider is expected to report for the invoice. -/
def SubscriptionInvoice.expectedKobo (v : SubscriptionInvoice) : ℤ :=
  roundHalfUp (v.amount.toRat * 100)

namespace Db

variable (d : Db)

/-- The provider reference belongs to an invoice of a subscription already. -/
def subscriptionReferenceTaken (reference : Reference) : Bool :=
  d.subscriptionInvoice.values.any fun v => v.paystackReference = reference

/-- The invoice under the given key, with its subscription. -/
def subscriptionInvoiceDetail (i : Id) : Option SubscriptionInvoiceDetail := do
  let invoice ← d.subscriptionInvoice.get? i
  let subscription ← d.subscription.get? invoice.subscriptionId
  return ⟨i, invoice, subscription⟩

/-- The invoice with the given provider reference, which is unique. -/
def subscriptionInvoiceByReference (reference : Reference) :
    Option SubscriptionInvoiceDetail := do
  let (i, _) ← d.subscriptionInvoice.rows.find? fun p => p.2.paystackReference = reference
  d.subscriptionInvoiceDetail i

/-- The order of the integers, which the newest row goes by. -/
local instance timePreorder : Preorder Time := Int.instLinearOrder.toPreorder

/-- The newest subscription of the customer that is ACTIVE or PENDING. -/
def newestSubscription (customerId : Id) : Option (Id × Subscription) :=
  (d.subscription.rows.filter fun p =>
    p.2.customerId = customerId ∧ (p.2.status = .active ∨ p.2.status = .pending)).argmax
      fun p => p.2.startedAt

/-- The newest invoice of the subscription. -/
def lastInvoice (subscriptionId : Id) : Option SubscriptionInvoice :=
  (d.subscriptionInvoice.values.filter fun v => v.subscriptionId = subscriptionId).argmax
    SubscriptionInvoice.createdAt

/-- The ACTIVE subscriptions that are to be renewed by now. -/
def dueSubscriptions (now : Time) : List DueSubscription :=
  (d.subscription.rows.filter fun p =>
    p.2.status = .active ∧ ∃ renewsAt, p.2.renewsAt = some renewsAt ∧ renewsAt ≤ now).map
      fun p => ⟨p.1, p.2, d.lastInvoice p.1⟩

end Db

/-! ## The billing service -/

namespace SubscriptionBillingService

/-- What the opening of an invoice gives back to its callers. -/
structure PeriodPayment where
  invoiceId : Id
  periodEnd : Time
deriving DecidableEq, Repr

/-- The invoice of the period that starts at `periodStart`, created at `createdAt`. -/
def periodInvoice (b : BillableSubscription) (nonce : Fin (2 ^ 32))
    (periodStart createdAt : Time) : SubscriptionInvoice :=
  { subscriptionId := b.id, periodStart
    periodEnd := periodStart + MembershipService.billingPeriodMs
    amount := b.amount, currency := b.currency
    paystackReference := .subscriptionInvoice b.id nonce, createdAt }

/-- Opens the invoice of a period.  The provider is called before the invoice is written. -/
def initiatePeriodPayment (b : BillableSubscription) (nonce : Fin (2 ^ 32))
    (checkout : Except String Unit) : Svc PeriodPayment := do
  let periodStart ← Prisma.now
  let _ ← Prisma.callProvider checkout
  let invoiceId ← Prisma.createUnique .subscriptionInvoice
    (·.subscriptionReferenceTaken (.subscriptionInvoice b.id nonce))
    (periodInvoice b nonce periodStart)
  return ⟨invoiceId, periodStart + MembershipService.billingPeriodMs⟩

/-- Opens the invoice of the next period of an ACTIVE subscription. -/
def billPeriod (b : BillableSubscription) (nonce : Fin (2 ^ 32))
    (checkout : Except String Unit) : Svc Unit := do
  let payment ← initiatePeriodPayment b nonce checkout
  let _ ← Prisma.update .subscription b.id fun _ s =>
    { s with renewsAt := some payment.periodEnd }
  Prisma.audit
  Prisma.notify

/-- What the sweep does about one subscription, as it was when the sweep read it. -/
def renewOrLapse (x : DueSubscription) (nonce : Fin (2 ^ 32)) (checkout : Except String Unit) :
    Svc Unit :=
  if x.lapses then do
    let _ ← Prisma.update .subscription x.id fun t s =>
      { s with status := .expired, cancelledAt := some t }
    Prisma.audit
    Prisma.notify
  else billPeriod (x.subscription.billable x.id) nonce checkout

structure SweepResult where
  billed : ℕ
  lapsed : ℕ
deriving DecidableEq, Repr

/-- The daily sweep.  A call of the provider that fails ends it. -/
def runBillingSweep (nonce : Id → Fin (2 ^ 32)) (checkout : Id → Except String Unit) :
    Svc SweepResult := do
  let now ← Prisma.now
  let due ← Prisma.query .subscription (·.dueSubscriptions now)
  due.forM fun x => renewOrLapse x (nonce x.id) (checkout x.id)
  return ⟨due.countP fun x => !x.lapses, due.countP DueSubscription.lapses⟩

/-- The first payment of a subscription activates it. -/
def activate (x : SubscriptionInvoiceDetail) : Svc Unit :=
  if x.subscription.status = .pending then do
    let _ ← Prisma.update .subscription x.invoice.subscriptionId fun _ s =>
      { s with status := .active, renewsAt := some x.invoice.periodEnd }
    Prisma.audit
  else return ()

/-- The monthly grant, with the event that `ScLedgerService.grant` leaves out. -/
def grantPeriod (subscriptionId : Id) (plan : MembershipPlan) : Svc Unit := do
  let planConfig ← MembershipService.getConfig plan
  let _ ← ScLedgerService.grant subscriptionId planConfig.scGrantUsd.toRat
  Prisma.audit

/-- A verified `charge.success` event. -/
def handleVerifiedSubscriptionPayment (reference : Reference) (amountKobo : ℚ) :
    Svc SubscriptionInvoice := do
  let some x ← Prisma.query .subscriptionInvoice (·.subscriptionInvoiceByReference reference)
    | throw (.notFound s!"No subscription invoice pending for reference {reference.text}")
  if (x.invoice.expectedKobo : ℚ) ≠ amountKobo then
    throw (.badRequest "Payment amount does not match subscription invoice")
  if x.invoice.status = .paid then return x.invoice
  let updated ← Prisma.update .subscriptionInvoice x.id fun t v =>
    { v with status := .paid, paidAt := some t }
  activate x
  grantPeriod x.invoice.subscriptionId x.subscription.plan
  Prisma.audit
  Prisma.notify
  return updated

/-- A failed first payment cancels the subscription, so that the customer can sign up again. -/
def cancelPending (x : SubscriptionInvoiceDetail) : Svc Unit :=
  if x.subscription.status = .pending then do
    let _ ← Prisma.update .subscription x.invoice.subscriptionId fun t s =>
      { s with status := .cancelled, cancelledAt := some t }
  else return ()

/-- A verified `charge.failed` event. -/
def handleFailedSubscriptionPayment (reference : Reference) : Svc SubscriptionInvoice := do
  let some x ← Prisma.query .subscriptionInvoice (·.subscriptionInvoiceByReference reference)
    | throw (.notFound s!"No subscription invoice pending for reference {reference.text}")
  if x.invoice.status = .paid ∨ x.invoice.status = .failed then return x.invoice
  let updated ← Prisma.update .subscriptionInvoice x.id fun _ v => { v with status := .failed }
  cancelPending x
  Prisma.audit
  Prisma.notify
  return updated

end SubscriptionBillingService

/-! ## Signing up and cancelling -/

namespace ConciergeService

/-- The price of a plan in naira, at the rate of the day. -/
def planAmount (priceUsd : Money) (fxRate : ℚ) : Money :=
  money (roundHalfUp (priceUsd.toRat * fxRate))

/-- The row of a customer who signs up for a plan. -/
def pendingSubscription (customerId : Id) (plan : MembershipPlan) (priceUsd : Money) (fxRate : ℚ)
    (startedAt : Time) : Subscription :=
  { customerId, tier := .concierge, plan, status := .pending, startedAt, priceUsd
    fxRate := Decimal.store 4 fxRate, amount := planAmount priceUsd fxRate }

/-- A new subscription, which is PENDING until it is paid. -/
def createSubscription (env : Env) (customerId : Id) (plan : MembershipPlan) :
    Svc BillableSubscription := do
  let planConfig ← MembershipService.getConfig plan
  let fxRate := usdToNgnRate env
  let subscriptionId ← Prisma.create .subscription
    (pendingSubscription customerId plan planConfig.priceUsd fxRate)
  Prisma.audit
  return ⟨subscriptionId, planAmount planConfig.priceUsd fxRate, "NGN"⟩

/-- The PENDING subscription that a customer who asks for its plan again goes on with. -/
def resumable (plan : MembershipPlan) (existing : Option (Id × Subscription)) :
    Option BillableSubscription :=
  (existing.filter fun p => p.2.status = .pending ∧ p.2.plan = plan).map
    fun p => p.2.billable p.1

/-- Signs up for a plan: a new subscription, or a new checkout for the one that is PENDING. -/
def subscribe (env : Env) (user : AuthenticatedUser) (plan : MembershipPlan)
    (nonce : Fin (2 ^ 32)) (checkout : Except String Unit) : Svc Id := do
  let customerId ← CasesService.requireCustomerProfile user.id
  let existing ← Prisma.query .subscription (·.newestSubscription customerId)
  if existing.any fun p => p.2.status = .active then
    throw (.badRequest "Already subscribed to Concierge")
  let b ← match resumable plan existing with
    | some b => pure b
    | none => createSubscription env customerId plan
  let _ ← SubscriptionBillingService.initiatePeriodPayment b nonce checkout
  return b.id

/-- Cancels the newest subscription of the customer that is ACTIVE or PENDING. -/
def cancelSubscription (user : AuthenticatedUser) : Svc Subscription := do
  let customerId ← CasesService.requireCustomerProfile user.id
  let some (subscriptionId, _) ← Prisma.query .subscription (·.newestSubscription customerId)
    | throw (.notFound "No active Concierge subscription")
  let cancelled ← Prisma.update .subscription subscriptionId fun t s =>
    { s with status := .cancelled, cancelledAt := some t }
  Prisma.audit
  return cancelled

end ConciergeService

/-! ## The methods in closed form -/

/-- The invoice and its subscription are in the database. -/
structure Db.Bills (d : Db) (x : SubscriptionInvoiceDetail) : Prop where
  invoice : d.subscriptionInvoice.get? x.id = some x.invoice
  subscription : d.subscription.get? x.invoice.subscriptionId = some x.subscription

namespace Db

open SubscriptionBillingService

variable (d : Db)

lemma subscriptionInvoiceDetail_eq_some_iff {i : Id} {x : SubscriptionInvoiceDetail} :
    d.subscriptionInvoiceDetail i = some x ↔ x.id = i ∧ d.Bills x := by
  obtain ⟨j, v, s⟩ := x
  constructor
  · intro h
    simp only [subscriptionInvoiceDetail, Option.bind_eq_bind, Option.bind_eq_some_iff] at h
    obtain ⟨v', hv, s', hs, h⟩ := h
    cases h
    exact ⟨rfl, hv, hs⟩
  · rintro ⟨rfl, hv, hs⟩
    have hv : d.subscriptionInvoice.get? j = some v := hv
    have hs : d.subscription.get? v.subscriptionId = some s := hs
    simp [subscriptionInvoiceDetail, hv, hs]

lemma bills_of_byReference {reference : Reference} {x : SubscriptionInvoiceDetail}
    (h : d.subscriptionInvoiceByReference reference = some x) :
    d.Bills x ∧ x.invoice.paystackReference = reference := by
  simp only [subscriptionInvoiceByReference, Option.bind_eq_bind, Option.bind_eq_some_iff] at h
  obtain ⟨⟨i, v⟩, hfind, hdetail⟩ := h
  obtain ⟨rfl, hx⟩ := d.subscriptionInvoiceDetail_eq_some_iff.mp hdetail
  have hv := d.subscriptionInvoice.mem_rows_iff.mp (List.mem_of_find?_eq_some hfind)
  obtain rfl : v = x.invoice := Option.some.inj (hv.symm.trans hx.invoice)
  exact ⟨hx, by simpa using List.find?_some hfind⟩

lemma newestSubscription_eq_some {customerId i : Id} {s : Subscription}
    (h : d.newestSubscription customerId = some (i, s)) :
    d.subscription.get? i = some s ∧ s.customerId = customerId ∧
      (s.status = .active ∨ s.status = .pending) := by
  have hmem := List.argmax_mem h
  simp only [List.mem_filter, decide_eq_true_eq] at hmem
  exact ⟨d.subscription.mem_rows_iff.mp hmem.1, hmem.2.1, hmem.2.2⟩

lemma mem_dueSubscriptions_iff {now : Time} {x : DueSubscription} :
    x ∈ d.dueSubscriptions now ↔
      d.subscription.get? x.id = some x.subscription ∧ x.subscription.status = .active ∧
        (∃ t, x.subscription.renewsAt = some t ∧ t ≤ now) ∧ x.lastInvoice = d.lastInvoice x.id := by
  obtain ⟨i, s, v⟩ := x
  simp only [dueSubscriptions, List.mem_map, List.mem_filter, decide_eq_true_eq]
  constructor
  · rintro ⟨⟨j, s'⟩, ⟨hmem, hactive, hdue⟩, h⟩
    cases h
    exact ⟨d.subscription.mem_rows_iff.mp hmem, hactive, hdue, rfl⟩
  · rintro ⟨hs, hactive, hdue, rfl⟩
    exact ⟨(i, s), ⟨d.subscription.mem_rows_iff.mpr hs, hactive, hdue⟩, rfl⟩

/-- Each subscription is due once. -/
lemma nodup_dueSubscriptions (now : Time) :
    ((d.dueSubscriptions now).map DueSubscription.id).Nodup := by
  have hmap : (d.dueSubscriptions now).map DueSubscription.id =
      (d.subscription.rows.filter fun p => p.2.status = .active ∧
        ∃ renewsAt, p.2.renewsAt = some renewsAt ∧ renewsAt ≤ now).map Prod.fst := by
    simp [dueSubscriptions, Function.comp_def]
  rw [hmap]
  exact d.subscription.nodup.sublist (List.filter_sublist.map Prod.fst)

/-! ### What the methods do to the database -/

/-- A checkout can be opened: the provider answers, and the reference is free. -/
def opens (b : BillableSubscription) (nonce : Fin (2 ^ 32)) (checkout : Except String Unit) :
    Bool :=
  checkout.isOk && !d.subscriptionReferenceTaken (.subscriptionInvoice b.id nonce)

/-- The invoice of the period that starts now is opened. -/
def openInvoice (b : BillableSubscription) (nonce : Fin (2 ^ 32)) : Db :=
  d.insertRow .subscriptionInvoice (periodInvoice b nonce d.clock d.clock)

/-- The next period of a subscription is billed. -/
def billPeriod (b : BillableSubscription) (nonce : Fin (2 ^ 32)) : Db :=
  (d.openInvoice b nonce).modifyRow .subscription b.id fun s =>
    { s with renewsAt := some (d.clock + MembershipService.billingPeriodMs) }

/-- A subscription lapses. -/
def lapse (i : Id) : Db :=
  d.modifyRow .subscription i fun s => { s with status := .expired, cancelledAt := some d.clock }

/-- A subscription is cancelled. -/
def cancelSubscription (i : Id) : Db :=
  d.modifyRow .subscription i fun s =>
    { s with status := .cancelled, cancelledAt := some d.clock }

/-- The customer signs up for a plan. -/
def signUp (customerId : Id) (plan : MembershipPlan) (priceUsd : Money) (fxRate : ℚ) : Db :=
  d.insertRow .subscription
    (ConciergeService.pendingSubscription customerId plan priceUsd fxRate d.clock)

/-- An invoice is marked as paid. -/
def payInvoice (x : SubscriptionInvoiceDetail) : Db :=
  d.modifyRow .subscriptionInvoice x.id fun v => { v with status := .paid, paidAt := some d.clock }

/-- An invoice is marked as failed. -/
def failInvoice (x : SubscriptionInvoiceDetail) : Db :=
  d.modifyRow .subscriptionInvoice x.id fun v => { v with status := .failed }

/-- The subscription of the invoice becomes ACTIVE if it is PENDING. -/
def activate (x : SubscriptionInvoiceDetail) : Db :=
  if x.subscription.status = .pending then
    d.modifyRow .subscription x.invoice.subscriptionId fun s =>
      { s with status := .active, renewsAt := some x.invoice.periodEnd }
  else d

/-- The entry of a grant. -/
def grantEntry (i : Id) (planConfig : MembershipPlanConfig) : ScLedgerEntry :=
  { subscriptionId := i, type := .grant, amountUsd := money |planConfig.scGrantUsd.toRat| }

/-- What the plan grants is granted, if the plan is configured. -/
def grantPeriod (i : Id) (plan : MembershipPlan) : Db :=
  match d.planConfig plan with
  | some planConfig => d.insertRow .scLedgerEntry (grantEntry i planConfig)
  | none => d

/-- The effect of a verified payment. -/
def settle (x : SubscriptionInvoiceDetail) : Db :=
  ((d.payInvoice x).activate x).grantPeriod x.invoice.subscriptionId x.subscription.plan

/-- The effect of a failed payment. -/
def reject (x : SubscriptionInvoiceDetail) : Db :=
  if x.subscription.status = .pending then
    (d.failInvoice x).cancelSubscription x.invoice.subscriptionId
  else d.failInvoice x

/-! ### What these changes do to the two tables -/

lemma settle_subscription (x : SubscriptionInvoiceDetail) :
    (d.settle x).subscription =
      if x.subscription.status = .pending then
        d.subscription.modify x.invoice.subscriptionId fun s =>
          { s with status := .active, renewsAt := some x.invoice.periodEnd }
      else d.subscription := by
  rw [settle, grantPeriod, activate]
  split <;> split_ifs <;> rfl

lemma settle_subscriptionInvoice (x : SubscriptionInvoiceDetail) :
    (d.settle x).subscriptionInvoice = d.subscriptionInvoice.modify x.id fun v =>
      { v with status := .paid, paidAt := some d.clock } := by
  rw [settle, grantPeriod, activate]
  split <;> split_ifs <;> rfl

lemma activate_clock (x : SubscriptionInvoiceDetail) : d.clock ≤ (d.activate x).clock := by
  rw [activate]
  split_ifs
  · exact Int.le_of_lt (Int.lt_succ d.clock)
  · exact le_refl d.clock

lemma grantPeriod_clock (i : Id) (plan : MembershipPlan) :
    d.clock ≤ (d.grantPeriod i plan).clock := by
  rw [grantPeriod]
  split
  · exact Int.le_of_lt (Int.lt_succ d.clock)
  · exact le_refl d.clock

lemma settle_clock (x : SubscriptionInvoiceDetail) : d.clock ≤ (d.settle x).clock :=
  calc d.clock ≤ (d.payInvoice x).clock := Int.le_of_lt (Int.lt_succ d.clock)
    _ ≤ ((d.payInvoice x).activate x).clock := activate_clock _ x
    _ ≤ (d.settle x).clock := grantPeriod_clock _ _ _

lemma reject_subscription (x : SubscriptionInvoiceDetail) :
    (d.reject x).subscription =
      if x.subscription.status = .pending then
        ((d.failInvoice x).cancelSubscription x.invoice.subscriptionId).subscription
      else d.subscription := by
  rw [reject]
  split_ifs <;> rfl

lemma reject_clock (x : SubscriptionInvoiceDetail) : d.clock ≤ (d.reject x).clock := by
  have hfail : d.clock ≤ (d.failInvoice x).clock := Int.le_of_lt (Int.lt_succ d.clock)
  rw [reject]
  split_ifs
  · exact hfail.trans (Int.le_of_lt (Int.lt_succ _))
  · exact hfail

lemma reject_subscriptionInvoice (x : SubscriptionInvoiceDetail) :
    (d.reject x).subscriptionInvoice = d.subscriptionInvoice.modify x.id fun v =>
      { v with status := .failed } := by
  rw [reject]
  split_ifs <;> rfl

end Db

/-! ### The billing service -/

namespace SubscriptionBillingService

variable {d : Db}

lemma initiatePeriodPayment_run {b : BillableSubscription} {nonce : Fin (2 ^ 32)}
    {checkout : Except String Unit} (h : d.opens b nonce checkout = true) :
    (initiatePeriodPayment b nonce checkout).run d =
      (.ok ⟨d.subscriptionInvoice.next, d.clock + MembershipService.billingPeriodMs⟩,
        d.openInvoice b nonce) := by
  rw [Db.opens, Bool.and_eq_true, Bool.not_eq_true'] at h
  cases checkout with
  | error e => cases h.1
  | ok u =>
    rw [initiatePeriodPayment, Prog.run_bind_ok (Prisma.run_now d),
      Prog.run_bind_ok (Prisma.run_callProvider d _)]
    rw [Prog.run_bind, Prisma.run_createUnique, if_neg (by simp [h.2])]
    rfl

lemma initiatePeriodPayment_fails {b : BillableSubscription} {nonce : Fin (2 ^ 32)}
    {checkout : Except String Unit} (h : d.opens b nonce checkout = false) :
    ∃ e, (initiatePeriodPayment b nonce checkout).run d = (.error e, d) := by
  rw [initiatePeriodPayment, Prog.run_bind_ok (Prisma.run_now d), Prog.run_bind,
    Prisma.run_callProvider]
  cases checkout with
  | error e => exact ⟨_, rfl⟩
  | ok u =>
    have htaken : d.subscriptionReferenceTaken (.subscriptionInvoice b.id nonce) = true := by
      simpa [Db.opens, Except.isOk, Except.toBool] using h
    refine ⟨Prisma.uniqueViolation, ?_⟩
    show Prog.run (_ >>= _) d = _
    rw [Prog.run_bind, Prisma.run_createUnique, if_pos htaken]

/-- What one round of the sweep makes of the database; none when the round fails. -/
def sweepRound (d : Db) (nonce : Id → Fin (2 ^ 32)) (checkout : Id → Except String Unit)
    (x : DueSubscription) : Option Db :=
  if x.lapses then some (d.lapse x.id)
  else if d.opens (x.subscription.billable x.id) (nonce x.id) (checkout x.id) then
    some (d.billPeriod (x.subscription.billable x.id) (nonce x.id))
  else none

lemma renewOrLapse_run {x : DueSubscription} {s : Subscription}
    (hs : d.subscription.get? x.id = some s) (nonce : Id → Fin (2 ^ 32))
    (checkout : Id → Except String Unit) :
    match sweepRound d nonce checkout x with
    | some d' => (renewOrLapse x (nonce x.id) (checkout x.id)).run d = (.ok (), d')
    | none => ∃ e, (renewOrLapse x (nonce x.id) (checkout x.id)).run d = (.error e, d) := by
  rw [sweepRound, renewOrLapse]
  split_ifs with hlapses hopens
  · show Prog.run (_ >>= _) d = _
    rw [Prog.run_bind_ok (Prisma.run_update_of_some hs _)]
    rfl
  · show Prog.run (billPeriod _ _ _) d = _
    have hs' : (d.openInvoice (x.subscription.billable x.id) (nonce x.id)).subscription.get?
        x.id = some s := hs
    rw [billPeriod, Prog.run_bind_ok (initiatePeriodPayment_run hopens),
      Prog.run_bind_ok (Prisma.run_update_of_some hs' _)]
    rfl
  · obtain ⟨e, he⟩ := initiatePeriodPayment_fails (Bool.not_eq_true _ ▸ hopens)
    refine ⟨e, ?_⟩
    show Prog.run (billPeriod _ _ _) d = _
    rw [billPeriod, Prog.run_bind, he]

/-- The rounds of the sweep, up to the first one that fails. -/
def sweepRounds (nonce : Id → Fin (2 ^ 32)) (checkout : Id → Except String Unit) :
    List DueSubscription → Db → Db
  | [], d => d
  | x :: xs, d =>
      match sweepRound d nonce checkout x with
      | some d' => sweepRounds nonce checkout xs d'
      | none => d

/-- What a round does to the table of the subscriptions. -/
lemma sweepRound_subscription {d' : Db} {nonce : Id → Fin (2 ^ 32)}
    {checkout : Id → Except String Unit} {x : DueSubscription}
    (h : sweepRound d nonce checkout x = some d') :
    (x.lapses = true ∧ d'.subscription = (d.lapse x.id).subscription) ∨
      (x.lapses = false ∧ d'.subscription =
        (d.billPeriod (x.subscription.billable x.id) (nonce x.id)).subscription) := by
  rw [sweepRound] at h
  split_ifs at h with hlapses hopens
  · cases h
    exact Or.inl ⟨hlapses, rfl⟩
  · cases h
    exact Or.inr ⟨Bool.not_eq_true _ ▸ hlapses, rfl⟩

lemma sweepRound_next {d' : Db} {nonce : Id → Fin (2 ^ 32)} {checkout : Id → Except String Unit}
    {x : DueSubscription} (h : sweepRound d nonce checkout x = some d') {i : Id} {s : Subscription}
    (hs : d.subscription.get? i = some s) : ∃ s', d'.subscription.get? i = some s' := by
  have hget : ∀ j f, ∃ s', (d.subscription.modify j f).get? i = some s' := by
    intro j f
    rw [Table.get?_modify, hs]
    split_ifs <;> exact ⟨_, rfl⟩
  rcases sweepRound_subscription h with ⟨-, heq⟩ | ⟨-, heq⟩ <;> rw [heq] <;> exact hget _ _

/-- The loop of the sweep runs its rounds. -/
lemma forM_renewOrLapse_exec (nonce : Id → Fin (2 ^ 32)) (checkout : Id → Except String Unit)
    (xs : List DueSubscription) (d : Db)
    (h : ∀ x ∈ xs, ∃ s, d.subscription.get? x.id = some s) :
    (xs.forM fun x => renewOrLapse x (nonce x.id) (checkout x.id)).exec d =
      sweepRounds nonce checkout xs d := by
  induction xs generalizing d with
  | nil => rfl
  | cons x xs ih =>
    obtain ⟨s, hs⟩ := h x (List.mem_cons_self ..)
    have hrun := renewOrLapse_run hs nonce checkout
    show (renewOrLapse x (nonce x.id) (checkout x.id) >>= fun _ =>
      xs.forM fun x => renewOrLapse x (nonce x.id) (checkout x.id)).exec d = _
    rw [sweepRounds]
    cases hround : sweepRound d nonce checkout x with
    | none =>
      rw [hround] at hrun
      obtain ⟨e, he⟩ := hrun
      rw [Prog.exec, Prog.run_bind, he]
    | some d' =>
      rw [hround] at hrun
      rw [Prog.exec, Prog.run_bind_ok hrun]
      refine ih d' fun y hy => ?_
      obtain ⟨s', hs'⟩ := h y (List.mem_cons_of_mem _ hy)
      exact sweepRound_next hround hs'

lemma runBillingSweep_exec (d : Db) (nonce : Id → Fin (2 ^ 32))
    (checkout : Id → Except String Unit) :
    (runBillingSweep nonce checkout).exec d =
      sweepRounds nonce checkout (d.dueSubscriptions d.clock) d := by
  have hloop := forM_renewOrLapse_exec nonce checkout (d.dueSubscriptions d.clock) d
    fun x hx => ⟨_, (d.mem_dueSubscriptions_iff.mp hx).1⟩
  rw [← hloop, Prog.exec, runBillingSweep, Prog.run_bind_ok (Prisma.run_now d),
    Prog.run_bind_ok (Prisma.run_query d _ _)]
  exact Prog.exec_bind_pure _ _ d

lemma handleVerifiedSubscriptionPayment_exec (d : Db) (reference : Reference) (amountKobo : ℚ) :
    (handleVerifiedSubscriptionPayment reference amountKobo).exec d =
      match d.subscriptionInvoiceByReference reference with
      | none => d
      | some x =>
          if (x.invoice.expectedKobo : ℚ) = amountKobo ∧ x.invoice.status ≠ .paid then d.settle x
          else d := by
  rw [Prog.exec, handleVerifiedSubscriptionPayment, Prog.run_bind_ok (Prisma.run_query d _ _)]
  cases hx : d.subscriptionInvoiceByReference reference with
  | none => rfl
  | some x =>
    obtain ⟨hv, hs⟩ := (d.bills_of_byReference hx).1
    dsimp only
    by_cases ha : (x.invoice.expectedKobo : ℚ) = amountKobo
    · by_cases hpaid : x.invoice.status = .paid
      · simp [ha, hpaid]
      · have hs' : (d.payInvoice x).subscription.get? x.invoice.subscriptionId =
            some x.subscription := hs
        have hactivate : (activate x).run (d.payInvoice x) =
            (.ok (), (d.payInvoice x).activate x) := by
          rw [activate, Db.activate]
          split_ifs
          · rw [Prog.run_bind_ok (Prisma.run_update_of_some hs' _)]
            rfl
          · rfl
        have hpay : (Prisma.update .subscriptionInvoice x.id fun t v =>
            { v with status := .paid, paidAt := some t }).run d =
            (.ok { x.invoice with status := .paid, paidAt := some d.clock }, d.payInvoice x) :=
          Prisma.run_update_of_some hv _
        rw [if_neg (not_not.mpr ha), if_neg hpaid, if_pos ⟨ha, hpaid⟩,
          Prog.run_bind_ok hpay, Prog.run_bind_ok hactivate,
          Db.settle, grantPeriod, Prog.bind_assoc, Prog.run_bind, getConfig_run,
          Db.grantPeriod]
        cases ((d.payInvoice x).activate x).planConfig x.subscription.plan <;> rfl
    · have hnot : ¬ ((x.invoice.expectedKobo : ℚ) = amountKobo ∧ x.invoice.status ≠ .paid) :=
        fun h => ha h.1
      rw [if_pos ha, if_neg hnot]
      rfl

lemma handleFailedSubscriptionPayment_exec (d : Db) (reference : Reference) :
    (handleFailedSubscriptionPayment reference).exec d =
      match d.subscriptionInvoiceByReference reference with
      | none => d
      | some x =>
          if x.invoice.status = .paid ∨ x.invoice.status = .failed then d else d.reject x := by
  rw [Prog.exec, handleFailedSubscriptionPayment, Prog.run_bind_ok (Prisma.run_query d _ _)]
  cases hx : d.subscriptionInvoiceByReference reference with
  | none => rfl
  | some x =>
    obtain ⟨hv, hs⟩ := (d.bills_of_byReference hx).1
    dsimp only
    split_ifs with hdone
    · rfl
    · have hs' : (d.failInvoice x).subscription.get? x.invoice.subscriptionId =
          some x.subscription := hs
      rw [Prog.run_bind_ok (Prisma.run_update_of_some hv _), cancelPending, Db.reject]
      split_ifs
      · show (Prog.run (_ >>= _ >>= _) _).2 = _
        rw [Prog.bind_assoc, Prog.run_bind_ok (Prisma.run_update_of_some hs' _)]
        rfl
      · rfl

end SubscriptionBillingService

/-! ### Signing up and cancelling -/

namespace ConciergeService

open SubscriptionBillingService

variable (d : Db) (env : Env) (user : AuthenticatedUser) (plan : MembershipPlan)

lemma createSubscription_run (customerId : Id) :
    (createSubscription env customerId plan).run d = match d.planConfig plan with
      | none => (.error (.notFound s!"No pricing configured for plan {plan.name}"), d)
      | some c =>
          (.ok ⟨d.subscription.next, planAmount c.priceUsd (usdToNgnRate env), "NGN"⟩,
            d.signUp customerId plan c.priceUsd (usdToNgnRate env)) := by
  rw [createSubscription, Prog.run_bind, getConfig_run]
  cases d.planConfig plan <;> rfl

/-- The customer has a subscription that is ACTIVE or PENDING and signs up again: nothing, or a
new checkout for the one that is PENDING.  Otherwise there is a new PENDING one, with a
checkout or without. -/
lemma subscribe_exec (nonce : Fin (2 ^ 32)) (checkout : Except String Unit) :
    (subscribe env user plan nonce checkout).exec d = d ∨
    (∃ i s, d.subscription.get? i = some s ∧ s.status = .pending ∧
      d.opens (s.billable i) nonce checkout = true ∧
      (subscribe env user plan nonce checkout).exec d = d.openInvoice (s.billable i) nonce) ∨
    ∃ customerId priceUsd,
      let d₁ := d.signUp customerId plan priceUsd (usdToNgnRate env)
      let b : BillableSubscription :=
        ⟨d.subscription.next, planAmount priceUsd (usdToNgnRate env), "NGN"⟩
      (subscribe env user plan nonce checkout).exec d = d₁ ∨
        (d₁.opens b nonce checkout = true ∧
          (subscribe env user plan nonce checkout).exec d = d₁.openInvoice b nonce) := by
  rw [Prog.exec, subscribe, CasesService.requireCustomerProfile, Prog.bind_assoc,
    Prog.run_bind_ok (Prisma.run_query d _ _)]
  cases hc : CasesService.customerProfile d user.id with
  | none => exact Or.inl rfl
  | some c =>
    obtain ⟨customerId, customer⟩ := c
    dsimp only
    rw [Prog.pure_bind, Prog.run_bind_ok (Prisma.run_query d _ _)]
    split_ifs with hactive
    · exact Or.inl rfl
    · cases hr : resumable plan (d.newestSubscription customerId) with
      | some b =>
        obtain ⟨⟨i, s⟩, hfilter, hb⟩ := Option.map_eq_some_iff.mp hr
        obtain rfl : s.billable i = b := hb
        obtain ⟨hnewest, hpending⟩ := Option.filter_eq_some_iff.mp hfilter
        dsimp only
        rw [Prog.pure_bind, Prog.run_bind]
        cases hopens : d.opens (s.billable i) nonce checkout with
        | true =>
          rw [initiatePeriodPayment_run hopens]
          exact Or.inr (Or.inl ⟨i, s, (d.newestSubscription_eq_some hnewest).1,
            (of_decide_eq_true hpending).1, hopens, rfl⟩)
        | false =>
          obtain ⟨e, he⟩ := initiatePeriodPayment_fails hopens
          rw [he]
          exact Or.inl rfl
      | none =>
        dsimp only
        rw [Prog.run_bind, createSubscription_run]
        cases d.planConfig plan with
        | none => exact Or.inl rfl
        | some config =>
          refine Or.inr (Or.inr ⟨customerId, config.priceUsd, ?_⟩)
          dsimp only
          rw [Prog.run_bind]
          cases hopens : (d.signUp customerId plan config.priceUsd (usdToNgnRate env)).opens
            ⟨d.subscription.next, planAmount config.priceUsd (usdToNgnRate env), "NGN"⟩ nonce
              checkout with
          | true =>
            rw [initiatePeriodPayment_run hopens]
            exact Or.inr ⟨rfl, rfl⟩
          | false =>
            obtain ⟨e, he⟩ := initiatePeriodPayment_fails hopens
            rw [he]
            exact Or.inl rfl

/-- The newest subscription is cancelled, if there is one. -/
lemma cancelSubscription_exec :
    (cancelSubscription user).exec d = d ∨
    ∃ i s, d.subscription.get? i = some s ∧ (s.status = .active ∨ s.status = .pending) ∧
      (cancelSubscription user).exec d = d.cancelSubscription i := by
  rw [Prog.exec, cancelSubscription, CasesService.requireCustomerProfile, Prog.bind_assoc,
    Prog.run_bind_ok (Prisma.run_query d _ _)]
  cases hc : CasesService.customerProfile d user.id with
  | none => exact Or.inl rfl
  | some c =>
    obtain ⟨customerId, customer⟩ := c
    dsimp only
    rw [Prog.pure_bind, Prog.run_bind_ok (Prisma.run_query d _ _)]
    cases hnewest : d.newestSubscription customerId with
    | none => exact Or.inl rfl
    | some p =>
      obtain ⟨i, s⟩ := p
      obtain ⟨hs, -, hstatus⟩ := d.newestSubscription_eq_some hnewest
      dsimp only
      rw [Prog.run_bind_ok (Prisma.run_update_of_some hs _)]
      exact Or.inr ⟨i, s, hs, hstatus, rfl⟩

end ConciergeService

end Asoju
