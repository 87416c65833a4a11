/-
The subscription operations, one at a time, and the changes they are made of.

`SubscriptionOp` lists the calls that change a subscription or one of its invoices, and
`SubscriptionOp.step` runs one of them alone.  An operation either settles an invoice, which is
what a verified payment does (`Settles`), or it is a chain of elementary changes, each made under
its checks (`SubscriptionChange`); this is `SubscriptionOp.step_cases`.
-/
import Asoju.Subscriptions
import Asoju.Lib.Run
import Mathlib.Logic.Relation

namespace Asoju

open Lib SubscriptionBillingService ConciergeService

/-- An operation with its arguments and, where the provider is called, the answer. -/
inductive SubscriptionOp
  | subscribe (user : AuthenticatedUser) (plan : MembershipPlan) (nonce : Fin (2 ^ 32))
      (checkout : Except String Unit)
  | chargeSuccess (reference : Reference) (amountKobo : ℚ)
  | chargeFailed (reference : Reference)
  | billingSweep (nonce : Id → Fin (2 ^ 32)) (checkout : Id → Except String Unit)
  | cancelSubscription (user : AuthenticatedUser)
  | elapse (ms : ℕ)

namespace SubscriptionOp

/-- The operation, run alone to its end: it returns, or it throws. -/
def step (env : Env) (d : Db) : SubscriptionOp → Db
  | subscribe user plan nonce checkout =>
      (ConciergeService.subscribe env user plan nonce checkout).exec d
  | chargeSuccess r a => (handleVerifiedSubscriptionPayment r a).exec d
  | chargeFailed r => (handleFailedSubscriptionPayment r).exec d
  | billingSweep nonce checkout => (runBillingSweep nonce checkout).exec d
  | cancelSubscription user => (ConciergeService.cancelSubscription user).exec d
  | elapse ms => { d with clock := d.clock + ms }

end SubscriptionOp

/-- Nobody has signed up yet. -/
structure Db.Unsubscribed (d : Db) : Prop where
  subscription : ∀ i, d.subscription.get? i = none
  invoice : ∀ j, d.subscriptionInvoice.get? j = none

/-! ## Elementary changes -/

/-- The verified event settles the invoice `x`: it is the one with the reference of the event, the
amounts agree, and it is not PAID yet. -/
structure Settles (d : Db) (reference : Reference) (amountKobo : ℚ)
    (x : SubscriptionInvoiceDetail) : Prop where
  found : d.subscriptionInvoiceByReference reference = some x
  amount : (x.invoice.expectedKobo : ℚ) = amountKobo
  unpaid : x.invoice.status ≠ .paid

lemma Settles.bills {d : Db} {reference : Reference} {amountKobo : ℚ}
    {x : SubscriptionInvoiceDetail} (h : Settles d reference amountKobo x) : d.Bills x :=
  (d.bills_of_byReference h.found).1

/-- A verified event settles an invoice, or it does nothing. -/
lemma SubscriptionOp.chargeSuccess_cases (env : Env) (d : Db) (reference : Reference)
    (amountKobo : ℚ) :
    (∃ x, Settles d reference amountKobo x ∧
      (chargeSuccess reference amountKobo).step env d = d.settle x) ∨
    ((∀ x, ¬ Settles d reference amountKobo x) ∧
      (chargeSuccess reference amountKobo).step env d = d) := by
  rw [step, handleVerifiedSubscriptionPayment_exec]
  cases hx : d.subscriptionInvoiceByReference reference with
  | none =>
    refine Or.inr ⟨fun x h => ?_, rfl⟩
    rw [h.found] at hx
    cases hx
  | some x =>
    dsimp only
    split_ifs with h
    · exact Or.inl ⟨x, ⟨hx, h.1, h.2⟩, rfl⟩
    · refine Or.inr ⟨fun y hy => h ?_, rfl⟩
      obtain rfl : y = x := Option.some.inj (hy.found.symm.trans hx)
      exact ⟨hy.amount, hy.unpaid⟩

/-- The subscription that a settlement activates. -/
def SubscriptionInvoiceDetail.activated (x : SubscriptionInvoiceDetail) : Subscription :=
  { x.subscription with status := .active, renewsAt := some x.invoice.periodEnd }

/-- **What a settlement does to the subscriptions**: each stays as it is, or it is the one of the
invoice and becomes ACTIVE. -/
lemma Db.Bills.settle_subscription_cases {d : Db} {x : SubscriptionInvoiceDetail} (hx : d.Bills x)
    {i : Id} {s' : Subscription} (hs' : (d.settle x).subscription.get? i = some s') :
    d.subscription.get? i = some s' ∨
    (i = x.invoice.subscriptionId ∧ x.subscription.status = .pending ∧ s' = x.activated) := by
  rw [d.settle_subscription] at hs'
  split_ifs at hs' with hpending
  · rcases Table.get?_modify_cases hx.subscription hs' with hs | ⟨rfl, rfl⟩
    · exact Or.inl hs
    · exact Or.inr ⟨rfl, hpending, rfl⟩
  · exact Or.inl hs'

lemma Db.Bills.exists_of_get? {d : Db} {x : SubscriptionInvoiceDetail} (hx : d.Bills x) {i : Id}
    {s : Subscription} (hs : d.subscription.get? i = some s) :
    ∃ s', (d.settle x).subscription.get? i = some s' ∧
      (s' = s ∨ (i = x.invoice.subscriptionId ∧ s' = x.activated)) := by
  rw [d.settle_subscription]
  split_ifs with hpending
  · rw [Table.get?_modify]
    split_ifs with hi
    · subst hi
      obtain rfl : s = x.subscription := Option.some.inj (hs.symm.trans hx.subscription)
      exact ⟨_, by rw [hs]; rfl, Or.inr ⟨rfl, rfl⟩⟩
    · exact ⟨s, hs, Or.inl rfl⟩
  · exact ⟨s, hs, Or.inl rfl⟩

/-- **What a settlement does to the invoices**: each stays as it is, or it is the one that is
settled and becomes PAID. -/
lemma Db.Bills.settle_invoice_cases {d : Db} {x : SubscriptionInvoiceDetail} (hx : d.Bills x)
    {j : Id} {v' : SubscriptionInvoice}
    (hv' : (d.settle x).subscriptionInvoice.get? j = some v') :
    d.subscriptionInvoice.get? j = some v' ∨
    (j = x.id ∧ v' = { x.invoice with status := .paid, paidAt := some d.clock }) := by
  rw [d.settle_subscriptionInvoice] at hv'
  exact Table.get?_modify_cases hx.invoice hv'

/-- One change of the subscriptions or of their invoices other than a verified payment, with the
checks it is made under. -/
inductive SubscriptionChange (d : Db) : Db → Prop
  | signUp (customerId : Id) (plan : MembershipPlan) (priceUsd : Money) (fxRate : ℚ) :
      SubscriptionChange d (d.signUp customerId plan priceUsd fxRate)
  | openInvoice {b : BillableSubscription} {s : Subscription} {nonce : Fin (2 ^ 32)}
      (hs : d.subscription.get? b.id = some s) (hpending : s.status = .pending)
      (hfree : d.subscriptionReferenceTaken (.subscriptionInvoice b.id nonce) = false) :
      SubscriptionChange d (d.openInvoice b nonce)
  | reject {x : SubscriptionInvoiceDetail} (hx : d.Bills x)
      (hopen : ¬ (x.invoice.status = .paid ∨ x.invoice.status = .failed)) :
      SubscriptionChange d (d.reject x)
  | cancel {i : Id} {s : Subscription} (hs : d.subscription.get? i = some s)
      (hopen : s.status = .active ∨ s.status = .pending) :
      SubscriptionChange d (d.cancelSubscription i)
  | lapse {i : Id} {s : Subscription} {t : Time} (hs : d.subscription.get? i = some s)
      (hactive : s.status = .active) (hdue : s.renewsAt = some t) :
      SubscriptionChange d (d.lapse i)
  | billPeriod {b : BillableSubscription} {s : Subscription} {t : Time} {nonce : Fin (2 ^ 32)}
      (hs : d.subscription.get? b.id = some s) (hactive : s.status = .active)
      (hdue : s.renewsAt = some t)
      (hfree : d.subscriptionReferenceTaken (.subscriptionInvoice b.id nonce) = false) :
      SubscriptionChange d (d.billPeriod b nonce)
  | elapse (ms : ℕ) : SubscriptionChange d { d with clock := d.clock + ms }

/-- What a change can make of one subscription. -/
inductive SubscriptionMove (s : Subscription) : Subscription → Prop
  | cancelled (hopen : s.status = .active ∨ s.status = .pending) (t : Time) :
      SubscriptionMove s { s with status := .cancelled, cancelledAt := some t }
  | lapsed (hactive : s.status = .active) (t : Time) :
      SubscriptionMove s { s with status := .expired, cancelledAt := some t }
  | renewed {t : Time} (hactive : s.status = .active) (hdue : s.renewsAt = some t) (t' : Time) :
      SubscriptionMove s { s with renewsAt := some t' }

/-- **What a change does to the subscriptions**: each stays as it is or makes a move, and a new one
is PENDING. -/
theorem SubscriptionChange.subscription_cases {d d' : Db} (h : SubscriptionChange d d') {i : Id}
    {s' : Subscription} (hs' : d'.subscription.get? i = some s') :
    d.subscription.get? i = some s' ∨
    (∃ s, d.subscription.get? i = some s ∧ SubscriptionMove s s') ∨
    (i = d.subscription.next ∧ s'.status = .pending ∧ s'.renewsAt = none) := by
  cases h with
  | signUp customerId plan priceUsd fxRate =>
    rcases Table.get?_insert_cases (t := d.subscription) hs' with hs | ⟨rfl, rfl⟩
    · exact Or.inl hs
    · exact Or.inr (Or.inr ⟨rfl, rfl, rfl⟩)
  | openInvoice => exact Or.inl hs'
  | reject hx hopen =>
    rw [d.reject_subscription] at hs'
    split_ifs at hs' with hpending
    · rcases Table.get?_modify_cases hx.subscription hs' with hs | ⟨rfl, rfl⟩
      · exact Or.inl hs
      · exact Or.inr (Or.inl ⟨_, hx.subscription, .cancelled (Or.inr hpending) _⟩)
    · exact Or.inl hs'
  | cancel hs hopen =>
    rcases Table.get?_modify_cases hs hs' with hs | ⟨rfl, rfl⟩
    · exact Or.inl hs
    · exact Or.inr (Or.inl ⟨_, hs, .cancelled hopen _⟩)
  | lapse hs hactive =>
    rcases Table.get?_modify_cases hs hs' with hs | ⟨rfl, rfl⟩
    · exact Or.inl hs
    · exact Or.inr (Or.inl ⟨_, hs, .lapsed hactive _⟩)
  | billPeriod hs hactive hdue =>
    rcases Table.get?_modify_cases hs hs' with hs | ⟨rfl, rfl⟩
    · exact Or.inl hs
    · exact Or.inr (Or.inl ⟨_, hs, .renewed hactive hdue _⟩)
  | elapse ms => exact Or.inl hs'

/-- A change keeps every subscription, as it is or after a move. -/
lemma SubscriptionChange.exists_of_get? {d d' : Db} (h : SubscriptionChange d d') {i : Id}
    {s : Subscription} (hs : d.subscription.get? i = some s) :
    ∃ s', d'.subscription.get? i = some s' ∧ (s' = s ∨ SubscriptionMove s s') := by
  have hmodify : ∀ j f, ∃ s', (d.subscription.modify j f).get? i = some s' := by
    intro j f
    rw [Table.get?_modify, hs]
    split_ifs <;> exact ⟨_, rfl⟩
  have hexists : ∃ s', d'.subscription.get? i = some s' := by
    cases h with
    | signUp => exact ⟨s, Table.get?_insert_of_some hs _⟩
    | openInvoice => exact ⟨s, hs⟩
    | reject hx hopen =>
      rw [d.reject_subscription]
      split_ifs
      · exact hmodify _ _
      · exact ⟨s, hs⟩
    | cancel => exact hmodify _ _
    | lapse => exact hmodify _ _
    | billPeriod => exact hmodify _ _
    | elapse => exact ⟨s, hs⟩
  obtain ⟨s', hs'⟩ := hexists
  refine ⟨s', hs', ?_⟩
  rcases h.subscription_cases hs' with hsame | ⟨s₀, hs₀, hmove⟩ | ⟨rfl, -, -⟩
  · exact Or.inl (Option.some.inj (hsame.symm.trans hs))
  · obtain rfl : s₀ = s := Option.some.inj (hs₀.symm.trans hs)
    exact Or.inr hmove
  · rw [Table.get?_next] at hs
    cases hs

/-- **What a change does to the invoices**: each stays as it is or fails while it is open, and a
new one is PENDING. -/
theorem SubscriptionChange.invoice_cases {d d' : Db} (h : SubscriptionChange d d') {j : Id}
    {v' : SubscriptionInvoice} (hv' : d'.subscriptionInvoice.get? j = some v') :
    d.subscriptionInvoice.get? j = some v' ∨
    (∃ v, d.subscriptionInvoice.get? j = some v ∧ v.status ≠ .paid ∧
      v' = { v with status := .failed }) ∨
    (j = d.subscriptionInvoice.next ∧
      ∃ b nonce, (∃ s, d.subscription.get? b.id = some s) ∧
        v' = periodInvoice b nonce d.clock d.clock) := by
  cases h with
  | openInvoice hs =>
    rcases Table.get?_insert_cases (t := d.subscriptionInvoice) hv' with hv | ⟨rfl, rfl⟩
    · exact Or.inl hv
    · exact Or.inr (Or.inr ⟨rfl, _, _, ⟨_, hs⟩, rfl⟩)
  | reject hx hopen =>
    rw [d.reject_subscriptionInvoice] at hv'
    rcases Table.get?_modify_cases hx.invoice hv' with hv | ⟨rfl, rfl⟩
    · exact Or.inl hv
    · exact Or.inr (Or.inl ⟨_, hx.invoice, fun h => hopen (Or.inl h), rfl⟩)
  | billPeriod hs =>
    rcases Table.get?_insert_cases (t := d.subscriptionInvoice) hv' with hv | ⟨rfl, rfl⟩
    · exact Or.inl hv
    · exact Or.inr (Or.inr ⟨rfl, _, _, ⟨_, hs⟩, rfl⟩)
  | _ => exact Or.inl hv'

lemma not_taken_of_opens {d : Db} {b : BillableSubscription} {nonce : Fin (2 ^ 32)}
    {checkout : Except String Unit} (h : d.opens b nonce checkout = true) :
    d.subscriptionReferenceTaken (.subscriptionInvoice b.id nonce) = false := by
  rw [Db.opens, Bool.and_eq_true, Bool.not_eq_true'] at h
  exact h.2

/-- What a round of the sweep has to find: the subscription as the sweep has read it. -/
def DueSubscription.IsDue (d : Db) (x : DueSubscription) : Prop :=
  d.subscription.get? x.id = some x.subscription ∧ x.subscription.status = .active ∧
    ∃ t, x.subscription.renewsAt = some t

/-- A round leaves the other subscriptions as they are. -/
lemma sweepRound_of_ne {d d' : Db} {nonce : Id → Fin (2 ^ 32)} {checkout : Id → Except String Unit}
    {x : DueSubscription} (h : sweepRound d nonce checkout x = some d') {i : Id} (hi : i ≠ x.id) :
    d'.subscription.get? i = d.subscription.get? i := by
  rcases sweepRound_subscription h with ⟨-, heq⟩ | ⟨-, heq⟩ <;> rw [heq] <;>
    exact Table.get?_modify_of_ne _ hi _

lemma sweepRound_change {d d' : Db} {nonce : Id → Fin (2 ^ 32)} {checkout : Id → Except String Unit}
    {x : DueSubscription} (hx : x.IsDue d) (h : sweepRound d nonce checkout x = some d') :
    SubscriptionChange d d' := by
  obtain ⟨hs, hactive, t, hdue⟩ := hx
  rw [sweepRound] at h
  split_ifs at h with hlapses hopens
  · cases h
    exact .lapse hs hactive hdue
  · cases h
    exact .billPeriod hs hactive hdue (not_taken_of_opens hopens)

/-- The rounds of a sweep are a chain of changes, as long as no subscription comes twice. -/
lemma sweepRounds_changes (nonce : Id → Fin (2 ^ 32)) (checkout : Id → Except String Unit)
    {xs : List DueSubscription} (hnodup : (xs.map DueSubscription.id).Nodup) {d : Db}
    (hdue : ∀ x ∈ xs, x.IsDue d) :
    Relation.ReflTransGen SubscriptionChange d (sweepRounds nonce checkout xs d) := by
  induction xs generalizing d with
  | nil => exact .refl
  | cons x xs ih =>
    rw [List.map_cons, List.nodup_cons] at hnodup
    rw [sweepRounds]
    cases hround : sweepRound d nonce checkout x with
    | none => exact .refl
    | some d' =>
      refine .head (sweepRound_change (hdue x (List.mem_cons_self ..)) hround) (ih hnodup.2 ?_)
      intro y hy
      have hne : y.id ≠ x.id := fun h => hnodup.1 (h ▸ List.mem_map_of_mem hy)
      rw [DueSubscription.IsDue, sweepRound_of_ne hround hne]
      exact hdue y (List.mem_cons_of_mem _ hy)

lemma isDue_of_mem {d : Db} {now : Time} {x : DueSubscription}
    (h : x ∈ d.dueSubscriptions now) : x.IsDue d := by
  obtain ⟨hs, hactive, ⟨t, hdue, -⟩, -⟩ := d.mem_dueSubscriptions_iff.mp h
  exact ⟨hs, hactive, t, hdue⟩

/-- **What an operation can be**: the settlement of an invoice, or a chain of elementary
changes. -/
theorem SubscriptionOp.step_cases (env : Env) (d : Db) (o : SubscriptionOp) :
    (∃ reference amountKobo x, o = .chargeSuccess reference amountKobo ∧
      Settles d reference amountKobo x ∧ o.step env d = d.settle x) ∨
    ((∀ reference amountKobo x, o = .chargeSuccess reference amountKobo →
        ¬ Settles d reference amountKobo x) ∧
      Relation.ReflTransGen SubscriptionChange d (o.step env d)) := by
  cases o with
  | chargeSuccess r a =>
    rcases chargeSuccess_cases env d r a with ⟨x, hx, heq⟩ | ⟨hnone, heq⟩
    · exact Or.inl ⟨r, a, x, rfl, hx, heq⟩
    · rw [heq]
      refine Or.inr ⟨fun r' a' x h => ?_, .refl⟩
      cases h
      exact hnone x
  | subscribe user plan nonce checkout =>
    refine Or.inr ⟨fun _ _ _ h => (by cases h), ?_⟩
    rcases subscribe_exec d env user plan nonce checkout with
      heq | ⟨i, s, hs, hpending, hopens, heq⟩ | ⟨customerId, priceUsd, heq | ⟨hopens, heq⟩⟩ <;>
      rw [step, heq]
    · exact .single (.openInvoice hs hpending (not_taken_of_opens hopens))
    · exact .single (.signUp ..)
    · refine .head (.signUp customerId plan priceUsd (usdToNgnRate env)) (.single ?_)
      have hnew : (d.signUp customerId plan priceUsd (usdToNgnRate env)).subscription.get?
          d.subscription.next = some (pendingSubscription customerId plan priceUsd
            (usdToNgnRate env) d.clock) := d.subscription.get?_insert_self _
      exact .openInvoice hnew rfl (not_taken_of_opens hopens)
  | chargeFailed r =>
    refine Or.inr ⟨fun _ _ _ h => (by cases h), ?_⟩
    rw [step, handleFailedSubscriptionPayment_exec]
    cases hx : d.subscriptionInvoiceByReference r with
    | none => exact .refl
    | some x =>
      dsimp only
      split_ifs with h
      · exact .refl
      · exact .single (.reject (d.bills_of_byReference hx).1 h)
  | billingSweep nonce checkout =>
    refine Or.inr ⟨fun _ _ _ h => (by cases h), ?_⟩
    rw [step, runBillingSweep_exec]
    exact sweepRounds_changes nonce checkout (d.nodup_dueSubscriptions d.clock)
      fun x hx => isDue_of_mem hx
  | cancelSubscription user =>
    refine Or.inr ⟨fun _ _ _ h => (by cases h), ?_⟩
    rcases cancelSubscription_exec d user with heq | ⟨i, s, hs, hopen, heq⟩ <;> rw [step, heq]
    exact .single (.cancel hs hopen)
  | elapse ms => exact Or.inr ⟨fun _ _ _ h => (by cases h), .single (.elapse ms)⟩

/-- What each change keeps, a chain of changes keeps. -/
theorem SubscriptionChange.chain {I : Db → Prop}
    (hI : ∀ d d', I d → SubscriptionChange d d' → I d') {d d' : Db} (hd : I d)
    (h : Relation.ReflTransGen SubscriptionChange d d') : I d' := by
  induction h with
  | refl => exact hd
  | tail _ hchange ih => exact hI _ _ ih hchange

/-- What the settlement of an invoice and each change keep, every operation keeps. -/
theorem SubscriptionOp.keeps {I : Db → Prop}
    (hsettle : ∀ d reference amountKobo x, I d → Settles d reference amountKobo x →
      I (d.settle x))
    (hI : ∀ d d', I d → SubscriptionChange d d' → I d') (env : Env) {d : Db} (hd : I d)
    (o : SubscriptionOp) : I (o.step env d) := by
  rcases step_cases env d o with ⟨r, a, x, -, hx, heq⟩ | ⟨-, hchain⟩
  · rw [heq]
    exact hsettle d r a x hd hx
  · exact SubscriptionChange.chain hI hd hchain

/-- A customer, and the two plans to choose from. -/
def plansDb : Db where
  clock := 100
  customer := Table.empty.insert { userId := 5 }
  membershipPlanConfig :=
    (Table.empty.insert ⟨.priority, ⟨9900⟩, ⟨5000⟩, ⟨1000⟩, 2⟩).insert
      ⟨.premium, ⟨29900⟩, ⟨15000⟩, ⟨1500⟩, 5⟩

lemma plansDb_unsubscribed : plansDb.Unsubscribed := ⟨fun _ => rfl, fun _ => rfl⟩

end Asoju
