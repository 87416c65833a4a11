/-
One ACTIVE subscription for a customer: when there is at most one.

A customer who has a PENDING subscription can sign up for another plan, and then two checkouts
for two subscriptions are open.  The payment of either activates its own subscription without a
look at the other one.  `one_active_iff` gives the condition under which this does no harm.
-/
import Asoju.SubscriptionRuns

namespace Asoju

open Lib SubscriptionBillingService ConciergeService

/-- No customer has two ACTIVE subscriptions. -/
def OneActive (d : Db) : Prop :=
  ∀ i j s t, d.subscription.get? i = some s → d.subscription.get? j = some t →
    s.status = .active → t.status = .active → s.customerId = t.customerId → i = j

/-- A verified payment that activates a subscription finds no ACTIVE one of the customer. -/
def ActivatesAlone (d : Db) : SubscriptionOp → Prop
  | .chargeSuccess reference amountKobo =>
      ∀ x, Settles d reference amountKobo x → x.subscription.status = .pending →
        ∀ j t, d.subscription.get? j = some t → t.customerId = x.subscription.customerId →
          t.status ≠ .active
  | _ => True

/-! ## What changes the ACTIVE subscriptions -/

/-- Where no subscription becomes ACTIVE, no customer gets a second one. -/
lemma OneActive.mono {d d' : Db} (h : OneActive d)
    (hactive : ∀ i s, d'.subscription.get? i = some s → s.status = .active →
      ∃ s₀, d.subscription.get? i = some s₀ ∧ s₀.status = .active ∧
        s₀.customerId = s.customerId) : OneActive d' := by
  intro i j s t hs ht hsa hta hcustomer
  obtain ⟨s₀, hs₀, hsa₀, hsc⟩ := hactive i s hs hsa
  obtain ⟨t₀, ht₀, hta₀, htc⟩ := hactive j t ht hta
  exact h i j s₀ t₀ hs₀ ht₀ hsa₀ hta₀ (by rw [hsc, htc, hcustomer])

/-- A change other than a verified payment activates nothing. -/
lemma OneActive.change {d d' : Db} (h : OneActive d) (hchange : SubscriptionChange d d') :
    OneActive d' := by
  refine h.mono fun i s hs hactive => ?_
  rcases hchange.subscription_cases hs with hs | ⟨s₀, hs₀, hmove⟩ | ⟨-, hpending, -⟩
  · exact ⟨s, hs, hactive, rfl⟩
  · cases hmove with
    | cancelled => cases hactive
    | lapsed => cases hactive
    | renewed h => exact ⟨s₀, hs₀, h, rfl⟩
  · rw [hpending] at hactive
    cases hactive

/-- **A settlement**: it activates its subscription alone exactly when it leaves each customer
with one ACTIVE subscription at most. -/
lemma oneActive_settle_iff {d : Db} (h : OneActive d) {x : SubscriptionInvoiceDetail}
    (hx : d.Bills x) :
    OneActive (d.settle x) ↔ (x.subscription.status = .pending →
      ∀ j t, d.subscription.get? j = some t → t.customerId = x.subscription.customerId →
        t.status ≠ .active) := by
  by_cases hpending : x.subscription.status = .pending
  · have hsub : (d.settle x).subscription =
        d.subscription.modify x.invoice.subscriptionId fun s =>
          { s with status := .active, renewsAt := some x.invoice.periodEnd } := by
      rw [d.settle_subscription, if_pos hpending]
    have hself : (d.settle x).subscription.get? x.invoice.subscriptionId =
        some { x.subscription with status := .active, renewsAt := some x.invoice.periodEnd } := by
      rw [hsub, Table.get?_modify_self, hx.subscription, Option.map_some]
    constructor
    · intro hone _ j t ht hcustomer hactive
      have hne : j ≠ x.invoice.subscriptionId := by
        rintro rfl
        obtain rfl : x.subscription = t := Option.some.inj (hx.subscription.symm.trans ht)
        rw [hpending] at hactive
        cases hactive
      have ht' : (d.settle x).subscription.get? j = some t := by
        rw [hsub, Table.get?_modify_of_ne _ hne, ht]
      exact hne (hone j _ t _ ht' hself hactive rfl hcustomer)
    · intro halone i j s t hs ht hsa hta hcustomer
      rw [hsub] at hs ht
      rcases Table.get?_modify_cases hx.subscription hs with hs | ⟨rfl, rfl⟩ <;>
        rcases Table.get?_modify_cases hx.subscription ht with ht | ⟨rfl, rfl⟩
      · exact h i j s t hs ht hsa hta hcustomer
      · exact absurd hsa (halone hpending i s hs hcustomer)
      · exact absurd hta (halone hpending j t ht hcustomer.symm)
      · rfl
  · refine iff_of_true (h.mono fun i s hs hactive => ?_) fun hp => absurd hp hpending
    rw [d.settle_subscription, if_neg hpending] at hs
    exact ⟨s, hs, hactive, rfl⟩

lemma oneActive_step_iff (env : Env) {d : Db} (h : OneActive d) (o : SubscriptionOp) :
    OneActive (o.step env d) ↔ ActivatesAlone d o := by
  rcases SubscriptionOp.step_cases env d o with ⟨r, a, x, rfl, hx, heq⟩ | ⟨hnone, hchain⟩
  · rw [heq, oneActive_settle_iff h hx.bills]
    constructor
    · intro halone y hy
      obtain rfl : x = y := Option.some.inj (hx.found.symm.trans hy.found)
      exact halone
    · intro halone
      exact halone x hx
  · have hone : OneActive (o.step env d) :=
      SubscriptionChange.chain (fun _ _ hone hchange => hone.change hchange) h hchain
    refine iff_of_true hone ?_
    cases o with
    | chargeSuccess r a => exact fun x hx => absurd hx (hnone r a x rfl)
    | _ => trivial

/-! ## Runs -/

/-- **At most one ACTIVE subscription**: over a run, no customer ever has two of them exactly when
each verified payment that activates a subscription finds no other ACTIVE one. -/
theorem one_active_iff (env : Env) {d : Db} (h : OneActive d) (os : List SubscriptionOp) :
    AllStates (SubscriptionOp.step env) OneActive d os ↔
      AllSteps (SubscriptionOp.step env) ActivatesAlone d os :=
  allStates_iff_allSteps (Q := OneActive) (fun _ o h => oneActive_step_iff env h o) h os

/-- One plan, and its payment. -/
theorem one_active_iff_plansDb :
    AllStates (SubscriptionOp.step {}) OneActive plansDb
      [.subscribe ⟨5, .customer⟩ .priority 0 (.ok ()),
       .chargeSuccess (.subscriptionInvoice 0 0) 15840000] := by
  refine (one_active_iff {} ?_ _).mpr ⟨trivial, ?_, trivial⟩
  · intro i j s t hs
    cases hs
  · intro x _ _ j t ht _ hactive
    have hnone : ((SubscriptionOp.step {} plansDb
        (.subscribe ⟨5, .customer⟩ .priority 0 (.ok ()))).subscription.values.all
          fun s => s.status ≠ .active) = true := by decide +kernel
    have hmem := (Table.mem_values_iff _).mpr ⟨j, ht⟩
    exact absurd hactive (by simpa using List.all_eq_true.mp hnone t hmem)

/-- The customer signs up for one plan, then for the other, and pays both. -/
def bothPlans : List SubscriptionOp :=
  [.subscribe ⟨5, .customer⟩ .priority 0 (.ok ()),
   .subscribe ⟨5, .customer⟩ .premium 1 (.ok ()),
   .chargeSuccess (.subscriptionInvoice 0 0) 15840000,
   .chargeSuccess (.subscriptionInvoice 1 1) 47840000]

/-- The customer has two ACTIVE subscriptions. -/
theorem two_active : ¬ AllStates (SubscriptionOp.step {}) OneActive plansDb bothPlans := by
  intro h
  have hactive : ∀ i < 2,
      ((runFrom (SubscriptionOp.step {}) plansDb bothPlans).subscription.get? i).map
        (fun s => (s.status, s.customerId)) = some (.active, 0) := by decide +kernel
  obtain ⟨s, hs, hss⟩ := Option.map_eq_some_iff.mp (hactive 0 (by omega))
  obtain ⟨t, ht, hts⟩ := Option.map_eq_some_iff.mp (hactive 1 (by omega))
  obtain ⟨hs₁, hs₂⟩ := Prod.mk.inj hss
  obtain ⟨ht₁, ht₂⟩ := Prod.mk.inj hts
  exact absurd (h.last 0 1 s t hs ht hs₁ ht₁ (hs₂.trans ht₂.symm)) (by omega)

end Asoju
