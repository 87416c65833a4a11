/-
Paid first invoices: when they activate their subscription.

A PENDING subscription can have several open checkouts.  The failure of one of them cancels the
subscription, and another one that is paid afterwards finds it CANCELLED and leaves it so: the
invoice is PAID, and the subscription has never been ACTIVE.  `paid_invoices_activate_iff` says
that this is the only way.

A subscription is given its `renewsAt` when it becomes ACTIVE, and keeps one from then on, so that
the date records whether it has ever been ACTIVE.
-/
import Asoju.SubscriptionRuns

namespace Asoju

open Lib SubscriptionBillingService ConciergeService

namespace Db

variable (d : Db)

/-- The subscription is ACTIVE. -/
def ActiveAt (i : Id) : Prop := ∃ s, d.subscription.get? i = some s ∧ s.status = .active

/-- The subscription has been given the end of a period. -/
def Dated (i : Id) : Prop := ∃ s, d.subscription.get? i = some s ∧ s.renewsAt.isSome = true

/-- A subscription has a `renewsAt` while it is ACTIVE and when it has lapsed, and none while it is
PENDING; every invoice belongs to a subscription. -/
structure SubscriptionsShaped : Prop where
  pending : ∀ i s, d.subscription.get? i = some s → s.status = .pending → s.renewsAt = none
  started : ∀ i s, d.subscription.get? i = some s → s.status = .active ∨ s.status = .expired →
    s.renewsAt.isSome = true
  unpaused : ∀ i s, d.subscription.get? i = some s → s.status ≠ .paused
  billed : ∀ j v, d.subscriptionInvoice.get? j = some v →
    ∃ s, d.subscription.get? v.subscriptionId = some s

/-- The subscription of every PAID invoice has been given the end of a period. -/
def PaidDated : Prop :=
  ∀ j v, d.subscriptionInvoice.get? j = some v → v.status = .paid → d.Dated v.subscriptionId

end Db

/-- A verified payment does not settle an invoice of a subscription that was cancelled while it
was PENDING. -/
def SettlesLive (d : Db) : SubscriptionOp → Prop
  | .chargeSuccess reference amountKobo =>
      ∀ x, Settles d reference amountKobo x → x.subscription.status = .cancelled →
        x.subscription.renewsAt ≠ none
  | _ => True

/-! ## What the operations keep -/

lemma SubscriptionMove.renewsAt_isSome {s s' : Subscription} (h : SubscriptionMove s s') :
    s'.renewsAt.isSome = s.renewsAt.isSome := by
  cases h with
  | cancelled => rfl
  | lapsed => rfl
  | renewed hactive hdue => rw [hdue]; rfl

/-- No change dates a subscription or takes its date away. -/
lemma SubscriptionChange.dated_iff {d d' : Db} (h : SubscriptionChange d d') (i : Id) :
    d'.Dated i ↔ d.Dated i := by
  constructor
  · rintro ⟨s', hs', hdated⟩
    rcases h.subscription_cases hs' with hs | ⟨s, hs, hmove⟩ | ⟨-, -, hnone⟩
    · exact ⟨s', hs, hdated⟩
    · exact ⟨s, hs, by rw [← hmove.renewsAt_isSome, hdated]⟩
    · rw [hnone] at hdated
      cases hdated
  · rintro ⟨s, hs, hdated⟩
    obtain ⟨s', hs', rfl | hmove⟩ := h.exists_of_get? hs
    · exact ⟨s', hs', hdated⟩
    · exact ⟨s', hs', by rw [hmove.renewsAt_isSome, hdated]⟩

namespace Db.SubscriptionsShaped

variable {d d' : Db}

lemma of_unsubscribed (h : d.Unsubscribed) : d.SubscriptionsShaped where
  pending i s hs := absurd hs (by rw [h.subscription i]; simp)
  started i s hs := absurd hs (by rw [h.subscription i]; simp)
  unpaused i s hs := absurd hs (by rw [h.subscription i]; simp)
  billed j v hv := absurd hv (by rw [h.invoice j]; simp)

lemma change (h : d.SubscriptionsShaped) (hchange : SubscriptionChange d d') :
    d'.SubscriptionsShaped where
  pending := by
    intro i s' hs' hpending
    rcases hchange.subscription_cases hs' with hs | ⟨s, hs, hmove⟩ | ⟨-, -, hnone⟩
    · exact h.pending i s' hs hpending
    · cases hmove with
      | cancelled => cases hpending
      | lapsed => cases hpending
      | renewed hactive =>
        rw [show s.status = .pending from hpending] at hactive
        cases hactive
    · exact hnone
  started := by
    intro i s' hs' hstarted
    rcases hchange.subscription_cases hs' with hs | ⟨s, hs, hmove⟩ | ⟨-, hpending, -⟩
    · exact h.started i s' hs hstarted
    · rw [hmove.renewsAt_isSome]
      cases hmove with
      | cancelled => rcases hstarted with hs' | hs' <;> cases hs'
      | lapsed hactive => exact h.started i s hs (Or.inl hactive)
      | renewed hactive => exact h.started i s hs (Or.inl hactive)
    · rw [hpending] at hstarted
      rcases hstarted with hs | hs <;> cases hs
  unpaused := by
    intro i s' hs'
    rcases hchange.subscription_cases hs' with hs | ⟨s, hs, hmove⟩ | ⟨-, hpending, -⟩
    · exact h.unpaused i s' hs
    · cases hmove with
      | cancelled => simp
      | lapsed => simp
      | renewed => exact h.unpaused i s hs
    · simp [hpending]
  billed := by
    intro j v' hv'
    have hkept : ∀ i, (∃ s, d.subscription.get? i = some s) →
        ∃ s', d'.subscription.get? i = some s' := by
      rintro i ⟨s, hs⟩
      obtain ⟨s', hs', -⟩ := hchange.exists_of_get? hs
      exact ⟨s', hs'⟩
    rcases hchange.invoice_cases hv' with hv | ⟨v, hv, -, rfl⟩ | ⟨-, b, nonce, hb, rfl⟩
    · exact hkept _ (h.billed j v' hv)
    · exact hkept _ (h.billed j v hv)
    · exact hkept _ hb

lemma settle (h : d.SubscriptionsShaped) {x : SubscriptionInvoiceDetail} (hx : d.Bills x) :
    (d.settle x).SubscriptionsShaped where
  pending := by
    intro i s' hs' hpending
    rcases hx.settle_subscription_cases hs' with hs | ⟨-, -, rfl⟩
    · exact h.pending i s' hs hpending
    · cases hpending
  started := by
    intro i s' hs' hstarted
    rcases hx.settle_subscription_cases hs' with hs | ⟨-, -, rfl⟩
    · exact h.started i s' hs hstarted
    · rfl
  unpaused := by
    intro i s' hs'
    rcases hx.settle_subscription_cases hs' with hs | ⟨-, -, rfl⟩
    · exact h.unpaused i s' hs
    · simp [SubscriptionInvoiceDetail.activated]
  billed := by
    intro j v' hv'
    have hv : ∃ s, d.subscription.get? v'.subscriptionId = some s := by
      rcases hx.settle_invoice_cases hv' with hv | ⟨rfl, rfl⟩
      · exact h.billed j v' hv
      · exact ⟨_, hx.subscription⟩
    obtain ⟨s, hs⟩ := hv
    obtain ⟨s', hs', -⟩ := hx.exists_of_get? hs
    exact ⟨s', hs'⟩

lemma step (env : Env) (h : d.SubscriptionsShaped) (o : SubscriptionOp) :
    (o.step env d).SubscriptionsShaped :=
  SubscriptionOp.keeps (I := Db.SubscriptionsShaped) (fun _ _ _ _ h hx => h.settle hx.bills)
    (fun _ _ h hchange => h.change hchange) env h o

/-- A subscription that is ACTIVE has been given the end of a period. -/
lemma dated_of_activeAt (h : d.SubscriptionsShaped) {i : Id} (hi : d.ActiveAt i) : d.Dated i := by
  obtain ⟨s, hs, hactive⟩ := hi
  exact ⟨s, hs, h.started i s hs (Or.inl hactive)⟩

end Db.SubscriptionsShaped

/-! ## The date as a record of the past -/

/-- A settlement dates a subscription when it activates it. -/
lemma dated_settle_iff {d : Db} (h : d.SubscriptionsShaped) {x : SubscriptionInvoiceDetail}
    (hx : d.Bills x) (i : Id) :
    (d.settle x).Dated i ↔ d.Dated i ∨ (d.settle x).ActiveAt i := by
  constructor
  · rintro ⟨s', hs', hdated⟩
    rcases hx.settle_subscription_cases hs' with hs | ⟨-, -, rfl⟩
    · exact Or.inl ⟨s', hs, hdated⟩
    · exact Or.inr ⟨_, hs', rfl⟩
  · rintro (⟨s, hs, hdated⟩ | hactive)
    · obtain ⟨s', hs', rfl | ⟨-, rfl⟩⟩ := hx.exists_of_get? hs
      · exact ⟨s', hs', hdated⟩
      · exact ⟨_, hs', rfl⟩
    · exact (h.settle hx).dated_of_activeAt hactive

lemma dated_step_iff (env : Env) {d : Db} (h : d.SubscriptionsShaped) (o : SubscriptionOp) (i : Id) :
    (o.step env d).Dated i ↔ d.Dated i ∨ (o.step env d).ActiveAt i := by
  rcases SubscriptionOp.step_cases env d o with ⟨r, a, x, -, hx, heq⟩ | ⟨-, hchain⟩
  · rw [heq]
    exact dated_settle_iff h hx.bills i
  · have hsame : (o.step env d).Dated i ↔ d.Dated i :=
      SubscriptionChange.chain (I := fun d' => d'.Dated i ↔ d.Dated i)
        (fun _ _ hiff hchange => (hchange.dated_iff i).trans hiff) Iff.rfl hchain
    rw [hsame]
    refine ⟨Or.inl, fun hi => hi.elim id fun hactive => ?_⟩
    exact hsame.mp ((h.step env o).dated_of_activeAt hactive)

/-- **The date of a subscription records its past**: it has one exactly when it has been
ACTIVE. -/
theorem dated_iff_once_active (env : Env) {d : Db} (h : d.Unsubscribed) (os : List SubscriptionOp)
    (i : Id) :
    (runFrom (SubscriptionOp.step env) d os).Dated i ↔
      Once (SubscriptionOp.step env) (fun d => d.ActiveAt i) d os := by
  refine record_iff_once (I := Db.SubscriptionsShaped) (R := fun d => d.Dated i)
    (fun _ o h => h.step env o) (fun d o h => dated_step_iff env h o i) (.of_unsubscribed h) ?_ os
  constructor
  · rintro ⟨s, hs, -⟩
    rw [h.subscription i] at hs
    cases hs
  · rintro ⟨s, hs, -⟩
    rw [h.subscription i] at hs
    cases hs

/-! ## The subscriptions of the paid invoices -/

lemma Db.PaidDated.change {d d' : Db} (h : d.PaidDated) (hchange : SubscriptionChange d d') :
    d'.PaidDated := by
  intro j v' hv' hpaid
  rw [hchange.dated_iff]
  rcases hchange.invoice_cases hv' with hv | ⟨v, -, -, rfl⟩ | ⟨-, b, nonce, -, rfl⟩
  · exact h j v' hv hpaid
  · cases hpaid
  · cases hpaid

/-- **A settlement**: the invoice becomes PAID, and its subscription has a date afterwards exactly
when it was not cancelled while it was PENDING. -/
lemma paidDated_settle_iff {d : Db} (hshape : d.SubscriptionsShaped) (h : d.PaidDated)
    {x : SubscriptionInvoiceDetail} (hx : d.Bills x) :
    (d.settle x).PaidDated ↔
      (x.subscription.status = .cancelled → x.subscription.renewsAt ≠ none) := by
  have hkept : ∀ i, d.Dated i → (d.settle x).Dated i := fun i hi =>
    (dated_settle_iff hshape hx i).mpr (Or.inl hi)
  constructor
  · intro hpaid hcancelled hnone
    have hv : (d.settle x).subscriptionInvoice.get? x.id =
        some { x.invoice with status := .paid, paidAt := some d.clock } := by
      rw [d.settle_subscriptionInvoice, Table.get?_modify_self, hx.invoice, Option.map_some]
    obtain ⟨s', hs', hdated⟩ := hpaid x.id _ hv rfl
    rcases hx.settle_subscription_cases hs' with hs | ⟨-, hpending, -⟩
    · obtain rfl : x.subscription = s' := Option.some.inj (hx.subscription.symm.trans hs)
      rw [hnone] at hdated
      cases hdated
    · rw [hcancelled] at hpending
      cases hpending
  · intro hlive j v' hv' hpaid
    rcases hx.settle_invoice_cases hv' with hv | ⟨rfl, rfl⟩
    · exact hkept _ (h j v' hv hpaid)
    · -- The subscription of the settled invoice, by its status.
      show (d.settle x).Dated x.invoice.subscriptionId
      have hold : x.subscription.renewsAt.isSome = true →
          (d.settle x).Dated x.invoice.subscriptionId := fun hdated =>
        hkept _ ⟨x.subscription, hx.subscription, hdated⟩
      cases hstatus : x.subscription.status with
      | pending =>
        refine (dated_settle_iff hshape hx _).mpr (Or.inr ⟨x.activated, ?_, rfl⟩)
        rw [d.settle_subscription, if_pos hstatus, Table.get?_modify_self, hx.subscription]
        rfl
      | active => exact hold (hshape.started _ _ hx.subscription (Or.inl hstatus))
      | expired => exact hold (hshape.started _ _ hx.subscription (Or.inr hstatus))
      | cancelled => exact hold (Option.isSome_iff_ne_none.mpr (hlive hstatus))
      | paused => exact absurd hstatus (hshape.unpaused _ _ hx.subscription)

lemma paidDated_step_iff (env : Env) {d : Db} (hshape : d.SubscriptionsShaped) (h : d.PaidDated)
    (o : SubscriptionOp) : (o.step env d).PaidDated ↔ SettlesLive d o := by
  rcases SubscriptionOp.step_cases env d o with ⟨r, a, x, rfl, hx, heq⟩ | ⟨hnone, hchain⟩
  · rw [heq, paidDated_settle_iff hshape h hx.bills]
    constructor
    · intro hlive y hy
      obtain rfl : x = y := Option.some.inj (hx.found.symm.trans hy.found)
      exact hlive
    · intro hlive
      exact hlive x hx
  · have hpaid : (o.step env d).PaidDated :=
      SubscriptionChange.chain (fun _ _ h hchange => h.change hchange) h hchain
    refine iff_of_true hpaid ?_
    cases o with
    | chargeSuccess r a => exact fun x hx => absurd hx (hnone r a x rfl)
    | _ => trivial

/-! ## Runs -/

/-- **Paid first invoices activate**: over a run, the subscription of every PAID invoice has been
ACTIVE at some point exactly when no verified payment settles an invoice of a subscription that
was cancelled while it was PENDING. -/
theorem paid_invoices_activate_iff (env : Env) {d : Db} (h : d.Unsubscribed)
    (os : List SubscriptionOp) :
    (∀ pre, pre <+: os → ∀ j v,
      (runFrom (SubscriptionOp.step env) d pre).subscriptionInvoice.get? j = some v →
      v.status = .paid →
      Once (SubscriptionOp.step env) (fun d => d.ActiveAt v.subscriptionId) d pre) ↔
    AllSteps (SubscriptionOp.step env) SettlesLive d os := by
  have hshape := Db.SubscriptionsShaped.of_unsubscribed h
  have hpaid : d.PaidDated := by
    intro j v hv
    rw [h.invoice j] at hv
    cases hv
  rw [← allStates_iff_allSteps_of_invariant (I := fun d => d.SubscriptionsShaped ∧ d.PaidDated)
    (Q := Db.PaidDated) (fun _ h => h.2)
    (fun d o h ho => ⟨h.1.step env o, (paidDated_step_iff env h.1 h.2 o).mpr ho⟩)
    (fun d o h => (paidDated_step_iff env h.1 h.2 o).mp) ⟨hshape, hpaid⟩ os,
    allStates_iff_prefix]
  constructor
  · intro honce pre hpre j v hv hstatus
    exact (dated_iff_once_active env h pre v.subscriptionId).mpr (honce pre hpre j v hv hstatus)
  · intro hdated pre hpre j v hv hstatus
    exact (dated_iff_once_active env h pre v.subscriptionId).mp (hdated pre hpre j v hv hstatus)

/-- Two checkouts for one subscription, the success of one and then the failure of the other. -/
def successFirst : List SubscriptionOp :=
  [.subscribe ⟨5, .customer⟩ .priority 0 (.ok ()),
   .subscribe ⟨5, .customer⟩ .priority 1 (.ok ()),
   .chargeSuccess (.subscriptionInvoice 0 0) 15840000,
   .chargeFailed (.subscriptionInvoice 0 1)]

theorem paid_invoices_activate_iff_successFirst :
    AllSteps (SubscriptionOp.step {}) SettlesLive plansDb successFirst ∧
      ∀ pre, pre <+: successFirst → ∀ j v,
        (runFrom (SubscriptionOp.step {}) plansDb pre).subscriptionInvoice.get? j = some v →
        v.status = .paid →
        Once (SubscriptionOp.step {}) (fun d => d.ActiveAt v.subscriptionId) plansDb pre := by
  have hlive : AllSteps (SubscriptionOp.step {}) SettlesLive plansDb successFirst := by
    refine ⟨trivial, trivial, ?_, trivial, trivial⟩
    intro x hx hcancelled
    have hnone : ((runFrom (SubscriptionOp.step {}) plansDb (successFirst.take 2)
        ).subscription.values.all fun s => s.status ≠ .cancelled) = true := by decide +kernel
    have hmem := (Table.mem_values_iff _).mpr ⟨_, hx.bills.subscription⟩
    exact absurd hcancelled (by simpa using List.all_eq_true.mp hnone _ hmem)
  exact ⟨hlive, (paid_invoices_activate_iff {} plansDb_unsubscribed successFirst).mpr hlive⟩

/-- The failure of one checkout comes before the success of the other. -/
def failureFirst : List SubscriptionOp :=
  [.subscribe ⟨5, .customer⟩ .priority 0 (.ok ()),
   .subscribe ⟨5, .customer⟩ .priority 1 (.ok ()),
   .chargeFailed (.subscriptionInvoice 0 0),
   .chargeSuccess (.subscriptionInvoice 0 1) 15840000]

/-- The second invoice is PAID, and the subscription has never been ACTIVE. -/
theorem paid_never_active :
    ¬ ∀ pre, pre <+: failureFirst → ∀ j v,
      (runFrom (SubscriptionOp.step {}) plansDb pre).subscriptionInvoice.get? j = some v →
      v.status = .paid →
      Once (SubscriptionOp.step {}) (fun d => d.ActiveAt v.subscriptionId) plansDb pre := by
  intro h
  have hinvoice : ((runFrom (SubscriptionOp.step {}) plansDb failureFirst
      ).subscriptionInvoice.get? 1).map (fun v => (v.status, v.subscriptionId)) =
        some (.paid, 0) := by decide +kernel
  have hsubscription : ((runFrom (SubscriptionOp.step {}) plansDb failureFirst
      ).subscription.get? 0).map Subscription.renewsAt = some none := by decide +kernel
  obtain ⟨v, hv, hvs⟩ := Option.map_eq_some_iff.mp hinvoice
  obtain ⟨hpaid, hsub⟩ := Prod.mk.inj hvs
  have honce := h failureFirst (List.prefix_refl _) 1 v hv hpaid
  rw [hsub, ← dated_iff_once_active {} plansDb_unsubscribed] at honce
  obtain ⟨s, hs, hdated⟩ := honce
  rw [hs, Option.map_some, Option.some.injEq] at hsubscription
  rw [hsubscription] at hdated
  cases hdated

end Asoju
