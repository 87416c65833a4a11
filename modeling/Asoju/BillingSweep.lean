/-
The billing sweep: when it lapses a subscription that has been paid.

The sweep judges a subscription by its newest invoice, while `renewsAt` is the end of whichever
invoice activated it, or of the last period that was billed.  The two differ when an older one
of several checkouts is paid first.  `sweep_spares_paid_up_iff` says that a sweep lapses a
subscription whose period has been paid exactly in this case.

The argument rests on the times of the invoices: no two are created at the same time, each ends
one period after its creation, and `renewsAt` of an ACTIVE subscription is the end of an invoice
of it that is PAID or the newest one (`Db.Periods`).
-/
import Asoju.SubscriptionRuns

namespace Asoju

open Lib SubscriptionBillingService ConciergeService

/-! ## Periods -/

/-- The subscription of an invoice, and when it was created and ends. -/
def SubscriptionInvoice.period (v : SubscriptionInvoice) : Id × Time × Time :=
  (v.subscriptionId, v.createdAt, v.periodEnd)

namespace Db

variable (d : Db)

/-- The period of the subscription that ends at `t` is the one of an invoice that is PAID, or of
the newest invoice. -/
def Current (i : Id) (t : Time) : Prop :=
  ∃ j v, d.subscriptionInvoice.get? j = some v ∧ v.subscriptionId = i ∧ v.periodEnd = t ∧
    (v.status = .paid ∨ ∀ k w, d.subscriptionInvoice.get? k = some w → w.subscriptionId = i →
      w.createdAt ≤ v.createdAt)

/-- The invoices have been created one after the other, each for one period. -/
structure Stamped : Prop where
  created : ∀ j v, d.subscriptionInvoice.get? j = some v → v.createdAt < d.clock
  ends : ∀ j v, d.subscriptionInvoice.get? j = some v →
    v.periodEnd = v.createdAt + MembershipService.billingPeriodMs
  unique : ∀ j k v w, d.subscriptionInvoice.get? j = some v →
    d.subscriptionInvoice.get? k = some w → v.createdAt = w.createdAt → j = k

/-- The invoices are stamped, and an ACTIVE subscription renews at the end of its current
period. -/
structure Periods : Prop where
  stamped : d.Stamped
  current : ∀ i s, d.subscription.get? i = some s → s.status = .active →
    ∃ t, s.renewsAt = some t ∧ d.Current i t

/-- The period of the subscription that has just ended was paid. -/
def PaidUp (i : Id) : Prop :=
  ∃ s t, d.subscription.get? i = some s ∧ s.status = .active ∧ s.renewsAt = some t ∧ t ≤ d.clock ∧
    ∃ j v, d.subscriptionInvoice.get? j = some v ∧ v.subscriptionId = i ∧ v.status = .paid ∧
      v.periodEnd = t

lemma lastInvoice_spec {i : Id} {v : SubscriptionInvoice} (h : d.lastInvoice i = some v) :
    ∃ j, d.subscriptionInvoice.get? j = some v ∧ v.subscriptionId = i := by
  have hmem := List.argmax_mem h
  simp only [List.mem_filter, decide_eq_true_eq] at hmem
  obtain ⟨j, hj⟩ := d.subscriptionInvoice.mem_values_iff.mp hmem.1
  exact ⟨j, hj, hmem.2⟩

lemma lastInvoice_newest {i j : Id} {v w : SubscriptionInvoice} (h : d.lastInvoice i = some v)
    (hw : d.subscriptionInvoice.get? j = some w) (hi : w.subscriptionId = i) :
    w.createdAt ≤ v.createdAt := by
  refine List.le_of_mem_argmax ?_ h
  simp only [List.mem_filter, decide_eq_true_eq]
  exact ⟨d.subscriptionInvoice.mem_values_iff.mpr ⟨j, hw⟩, hi⟩

end Db

/-! ## What keeps the periods -/

/-- The invoices of the subscription `i` keep their periods, and the PAID ones stay PAID. -/
structure Db.KeepsPeriods (d d' : Db) (i : Id) : Prop where
  kept : ∀ j v, d.subscriptionInvoice.get? j = some v →
    ∃ v', d'.subscriptionInvoice.get? j = some v' ∧ v'.period = v.period ∧
      (v.status = .paid → v'.status = .paid)
  old : ∀ j v', d'.subscriptionInvoice.get? j = some v' → v'.subscriptionId = i →
    ∃ v, d.subscriptionInvoice.get? j = some v ∧ v.period = v'.period

lemma Db.Current.of_keepsPeriods {d d' : Db} {i : Id} {t : Time} (h : d.Current i t)
    (hkeeps : d.KeepsPeriods d' i) : d'.Current i t := by
  obtain ⟨j, v, hv, hi, ht, hcurrent⟩ := h
  obtain ⟨v', hv', hperiod, hpaid⟩ := hkeeps.kept j v hv
  obtain ⟨hsub, hcreated, hend⟩ : v'.subscriptionId = v.subscriptionId ∧
      v'.createdAt = v.createdAt ∧ v'.periodEnd = v.periodEnd := by
    simpa [SubscriptionInvoice.period] using hperiod
  refine ⟨j, v', hv', hsub.trans hi, hend.trans ht, hcurrent.imp hpaid fun hnewest => ?_⟩
  intro k w' hw' hwi
  obtain ⟨w, hw, hwperiod⟩ := hkeeps.old k w' hw' hwi
  obtain ⟨hwsub, hwcreated, -⟩ : w.subscriptionId = w'.subscriptionId ∧
      w.createdAt = w'.createdAt ∧ w.periodEnd = w'.periodEnd := by
    simpa [SubscriptionInvoice.period] using hwperiod
  rw [hcreated, ← hwcreated]
  exact hnewest k w hw (hwsub.trans hwi)

namespace Db.KeepsPeriods

variable {d d' : Db} {i : Id}

lemma of_eq (h : d'.subscriptionInvoice = d.subscriptionInvoice) : d.KeepsPeriods d' i where
  kept j v hv := ⟨v, by rw [h, hv], rfl, id⟩
  old j v' hv' _ := ⟨v', by rw [← h, hv'], rfl⟩

lemma of_insert {v : SubscriptionInvoice}
    (h : d'.subscriptionInvoice = d.subscriptionInvoice.insert v) (hi : v.subscriptionId ≠ i) :
    d.KeepsPeriods d' i where
  kept j w hw := ⟨w, by rw [h, Table.get?_insert_of_some hw], rfl, id⟩
  old j w hw hwi := by
    rw [h] at hw
    rcases Table.get?_insert_cases hw with hw | ⟨-, rfl⟩
    · exact ⟨w, hw, rfl⟩
    · exact absurd hwi hi

lemma of_modify {j : Id} {v : SubscriptionInvoice} {f : SubscriptionInvoice → SubscriptionInvoice}
    (h : d'.subscriptionInvoice = d.subscriptionInvoice.modify j f)
    (hv : d.subscriptionInvoice.get? j = some v) (hperiod : (f v).period = v.period)
    (hpaid : v.status = .paid → (f v).status = .paid) : d.KeepsPeriods d' i where
  kept k w hw := by
    rw [h, Table.get?_modify]
    split_ifs with hk
    · subst hk
      obtain rfl : v = w := Option.some.inj (hv.symm.trans hw)
      exact ⟨f v, by rw [hv]; rfl, hperiod, hpaid⟩
    · exact ⟨w, hw, rfl, id⟩
  old k w hw _ := by
    rw [h] at hw
    rcases Table.get?_modify_cases hv hw with hw | ⟨rfl, rfl⟩
    · exact ⟨w, hw, rfl⟩
    · exact ⟨v, hv, hperiod.symm⟩

end Db.KeepsPeriods

namespace Db.Stamped

variable {d d' : Db}

/-- An invoice is known by the end of its period. -/
lemma eq_of_periodEnd (h : d.Stamped) {j k : Id} {v w : SubscriptionInvoice}
    (hv : d.subscriptionInvoice.get? j = some v) (hw : d.subscriptionInvoice.get? k = some w)
    (hend : v.periodEnd = w.periodEnd) : v = w := by
  have hcreated : v.createdAt = w.createdAt :=
    add_right_cancel ((h.ends j v hv).symm.trans (hend.trans (h.ends k w hw)))
  obtain rfl := h.unique j k v w hv hw hcreated
  exact Option.some.inj (hv.symm.trans hw)

lemma of_eq (h : d.Stamped) (hinvoice : d'.subscriptionInvoice = d.subscriptionInvoice)
    (hclock : d.clock ≤ d'.clock) : d'.Stamped where
  created j v hv := by
    rw [hinvoice] at hv
    exact lt_of_lt_of_le (h.created j v hv) hclock
  ends j v hv := by
    rw [hinvoice] at hv
    exact h.ends j v hv
  unique j k v w hv hw := by
    rw [hinvoice] at hv hw
    exact h.unique j k v w hv hw

lemma of_modify (h : d.Stamped) {i : Id} {u : SubscriptionInvoice}
    {f : SubscriptionInvoice → SubscriptionInvoice}
    (hinvoice : d'.subscriptionInvoice = d.subscriptionInvoice.modify i f)
    (hu : d.subscriptionInvoice.get? i = some u) (hperiod : (f u).period = u.period)
    (hclock : d.clock ≤ d'.clock) : d'.Stamped := by
  -- An invoice after the change was there before it, with the same times.
  have hold : ∀ j v, d'.subscriptionInvoice.get? j = some v →
      ∃ v₀, d.subscriptionInvoice.get? j = some v₀ ∧ v.createdAt = v₀.createdAt ∧
        v.periodEnd = v₀.periodEnd := by
    intro j v hv
    rw [hinvoice] at hv
    rcases Table.get?_modify_cases hu hv with hv | ⟨rfl, rfl⟩
    · exact ⟨v, hv, rfl, rfl⟩
    · simp only [SubscriptionInvoice.period, Prod.mk.injEq] at hperiod
      exact ⟨u, hu, hperiod.2.1, hperiod.2.2⟩
  refine ⟨fun j v hv => ?_, fun j v hv => ?_, fun j k v w hv hw heq => ?_⟩
  · obtain ⟨v₀, hv₀, hcreated, -⟩ := hold j v hv
    rw [hcreated]
    exact lt_of_lt_of_le (h.created j v₀ hv₀) hclock
  · obtain ⟨v₀, hv₀, hcreated, hend⟩ := hold j v hv
    rw [hcreated, hend]
    exact h.ends j v₀ hv₀
  · obtain ⟨v₀, hv₀, hvc, -⟩ := hold j v hv
    obtain ⟨w₀, hw₀, hwc, -⟩ := hold k w hw
    exact h.unique j k v₀ w₀ hv₀ hw₀ (by rw [← hvc, ← hwc, heq])

/-- The invoice that is opened now is newer than all the others. -/
lemma openInvoice (h : d.Stamped) (b : BillableSubscription) (nonce : Fin (2 ^ 32)) :
    (d.openInvoice b nonce).Stamped := by
  have hcases : ∀ j v, (d.openInvoice b nonce).subscriptionInvoice.get? j = some v →
      d.subscriptionInvoice.get? j = some v ∨
        (j = d.subscriptionInvoice.next ∧ v = periodInvoice b nonce d.clock d.clock) :=
    fun j v hv => Table.get?_insert_cases (t := d.subscriptionInvoice) hv
  have hclock : (d.openInvoice b nonce).clock = d.clock + 1 := rfl
  refine ⟨fun j v hv => ?_, fun j v hv => ?_, fun j k v w hv hw heq => ?_⟩
  · rw [hclock]
    rcases hcases j v hv with hv | ⟨-, rfl⟩
    · exact lt_trans (h.created j v hv) (Int.lt_succ d.clock)
    · exact Int.lt_succ d.clock
  · rcases hcases j v hv with hv | ⟨-, rfl⟩
    · exact h.ends j v hv
    · rfl
  · rcases hcases j v hv with hv | ⟨rfl, rfl⟩ <;> rcases hcases k w hw with hw | ⟨rfl, rfl⟩
    · exact h.unique j k v w hv hw heq
    · exact absurd heq (ne_of_lt (h.created j v hv))
    · exact absurd heq.symm (ne_of_lt (h.created k w hw))
    · rfl

end Db.Stamped

namespace Db.Periods

variable {d d' : Db}

lemma of_unsubscribed (h : d.Unsubscribed) : d.Periods := by
  refine ⟨⟨fun j v hv => ?_, fun j v hv => ?_, fun j k v w hv => ?_⟩, fun i s hs => ?_⟩
  · rw [h.invoice j] at hv
    cases hv
  · rw [h.invoice j] at hv
    cases hv
  · rw [h.invoice j] at hv
    cases hv
  · rw [h.subscription i] at hs
    cases hs

/-- The subscriptions that were ACTIVE before and renew at the same time. -/
lemma current_of_same (h : d.Periods) {i : Id} {s : Subscription}
    (hs : d.subscription.get? i = some s) (hactive : s.status = .active)
    (hkeeps : d.KeepsPeriods d' i) : ∃ t, s.renewsAt = some t ∧ d'.Current i t := by
  obtain ⟨t, ht, hcurrent⟩ := h.current i s hs hactive
  exact ⟨t, ht, hcurrent.of_keepsPeriods hkeeps⟩

/-- A new invoice of a subscription that is not ACTIVE. -/
lemma openInvoice (h : d.Periods) {b : BillableSubscription} {s : Subscription}
    {nonce : Fin (2 ^ 32)} (hs : d.subscription.get? b.id = some s) (hpending : s.status = .pending) :
    (d.openInvoice b nonce).Periods := by
  refine ⟨h.stamped.openInvoice b nonce, fun i s' hs' hactive => ?_⟩
  have hs' : d.subscription.get? i = some s' := hs'
  refine h.current_of_same hs' hactive (.of_insert rfl ?_)
  rintro rfl
  obtain rfl : s = s' := Option.some.inj (hs.symm.trans hs')
  rw [hpending] at hactive
  cases hactive

/-- The next period of a subscription is the one of its newest invoice. -/
lemma billPeriod (h : d.Periods) {b : BillableSubscription} {s : Subscription}
    {nonce : Fin (2 ^ 32)} (hs : d.subscription.get? b.id = some s) :
    (d.billPeriod b nonce).Periods := by
  refine ⟨(h.stamped.openInvoice b nonce).of_eq rfl (Int.le_of_lt (Int.lt_succ _)),
    fun i s' hs' hactive => ?_⟩
  have hinvoice : (d.billPeriod b nonce).subscriptionInvoice =
      d.subscriptionInvoice.insert (periodInvoice b nonce d.clock d.clock) := rfl
  by_cases hi : i = b.id
  · subst hi
    have hself : (d.billPeriod b nonce).subscription.get? b.id =
        some { s with renewsAt := some (d.clock + MembershipService.billingPeriodMs) } := by
      have hmodify : (d.billPeriod b nonce).subscription = d.subscription.modify b.id fun s =>
          { s with renewsAt := some (d.clock + MembershipService.billingPeriodMs) } := rfl
      rw [hmodify, Table.get?_modify_self, hs, Option.map_some]
    obtain rfl := Option.some.inj (hself.symm.trans hs')
    refine ⟨_, rfl, d.subscriptionInvoice.next, periodInvoice b nonce d.clock d.clock, ?_, rfl,
      rfl, Or.inr fun k w hw _ => ?_⟩
    · rw [hinvoice, Table.get?_insert_self]
    · rw [hinvoice] at hw
      rcases Table.get?_insert_cases hw with hw | ⟨-, rfl⟩
      · exact Int.le_of_lt (h.stamped.created k w hw)
      · exact le_refl _
  · have hs₀ : d.subscription.get? i = some s' := by
      have hmodify : (d.billPeriod b nonce).subscription.get? i = d.subscription.get? i :=
        Table.get?_modify_of_ne _ hi _
      rwa [hmodify] at hs'
    exact h.current_of_same hs₀ hactive (.of_insert hinvoice (Ne.symm hi))

/-- A change of a subscription that is not ACTIVE afterwards. -/
lemma of_inactive (h : d.Periods) {i : Id} {s : Subscription} {f : Subscription → Subscription}
    (hs : d.subscription.get? i = some s) (hf : (f s).status ≠ .active)
    (hsub : d'.subscription = d.subscription.modify i f) (hstamped : d'.Stamped)
    (hkeeps : ∀ k, d.KeepsPeriods d' k) : d'.Periods := by
  refine ⟨hstamped, fun k s' hs' hactive => ?_⟩
  rw [hsub] at hs'
  rcases Table.get?_modify_cases hs hs' with hs' | ⟨rfl, rfl⟩
  · exact h.current_of_same hs' hactive (hkeeps k)
  · exact absurd hactive hf

/-- A failed payment: the invoice it fails is not PAID, and the subscription it cancels is not
ACTIVE. -/
lemma reject (h : d.Periods) {x : SubscriptionInvoiceDetail} (hx : d.Bills x)
    (hopen : ¬ (x.invoice.status = .paid ∨ x.invoice.status = .failed)) : (d.reject x).Periods := by
  have hkeeps : ∀ k, d.KeepsPeriods (d.reject x) k := fun k =>
    .of_modify (d.reject_subscriptionInvoice x) hx.invoice rfl fun hpaid =>
      absurd (Or.inl hpaid) hopen
  have hstamped : (d.reject x).Stamped :=
    h.stamped.of_modify (d.reject_subscriptionInvoice x) hx.invoice rfl (d.reject_clock x)
  by_cases hpending : x.subscription.status = .pending
  · refine h.of_inactive (f := fun s =>
      { s with status := .cancelled, cancelledAt := some (d.failInvoice x).clock })
      hx.subscription (by simp) ?_ hstamped hkeeps
    rw [d.reject_subscription, if_pos hpending]
    rfl
  · refine ⟨hstamped, fun i s hs hactive => ?_⟩
    rw [d.reject_subscription, if_neg hpending] at hs
    exact h.current_of_same hs hactive (hkeeps i)

/-- A verified payment: the period of a subscription that it activates is the one of the paid
invoice. -/
lemma settle (h : d.Periods) {x : SubscriptionInvoiceDetail} (hx : d.Bills x) :
    (d.settle x).Periods := by
  have hkeeps : ∀ k, d.KeepsPeriods (d.settle x) k := fun k =>
    .of_modify (d.settle_subscriptionInvoice x) hx.invoice rfl fun _ => rfl
  refine ⟨h.stamped.of_modify (d.settle_subscriptionInvoice x) hx.invoice rfl (d.settle_clock x),
    fun i s hs hactive => ?_⟩
  rcases hx.settle_subscription_cases hs with hs | ⟨rfl, -, rfl⟩
  · exact h.current_of_same hs hactive (hkeeps i)
  · refine ⟨x.invoice.periodEnd, rfl, x.id,
      { x.invoice with status := .paid, paidAt := some d.clock }, ?_, rfl, rfl, Or.inl rfl⟩
    rw [d.settle_subscriptionInvoice, Table.get?_modify_self, hx.invoice, Option.map_some]

lemma change (h : d.Periods) (hchange : SubscriptionChange d d') : d'.Periods := by
  have hlater : ∀ t : Time, t ≤ t + 1 := fun t => Int.le_of_lt (Int.lt_succ t)
  cases hchange with
  | signUp customerId plan priceUsd fxRate =>
    refine ⟨h.stamped.of_eq rfl (hlater _), fun i s hs hactive => ?_⟩
    rcases Table.get?_insert_cases (t := d.subscription) hs with hs | ⟨-, rfl⟩
    · exact h.current_of_same hs hactive (.of_eq rfl)
    · cases hactive
  | openInvoice hs hpending => exact h.openInvoice hs hpending
  | reject hx hopen => exact h.reject hx hopen
  | cancel hs hopen =>
    exact h.of_inactive (f := fun s => { s with status := .cancelled, cancelledAt := some d.clock })
      hs (by simp) rfl (h.stamped.of_eq rfl (hlater _)) fun _ => .of_eq rfl
  | lapse hs hactive hdue =>
    exact h.of_inactive (f := fun s => { s with status := .expired, cancelledAt := some d.clock })
      hs (by simp) rfl (h.stamped.of_eq rfl (hlater _)) fun _ => .of_eq rfl
  | billPeriod hs hactive hdue => exact h.billPeriod hs
  | elapse ms =>
    refine ⟨h.stamped.of_eq rfl (by simp), fun i s hs hactive => ?_⟩
    exact h.current_of_same hs hactive (.of_eq rfl)

lemma step (env : Env) (h : d.Periods) (o : SubscriptionOp) : (o.step env d).Periods :=
  SubscriptionOp.keeps (I := Db.Periods) (fun _ _ _ _ h hx => h.settle hx.bills)
    (fun _ _ h hchange => h.change hchange) env h o

end Db.Periods

/-! ## What a sweep does to one subscription -/

/-- The round of the subscription does not fail: it lapses, or its next period can be billed. -/
def DueSubscription.proceeds (d : Db) (nonce : Id → Fin (2 ^ 32))
    (checkout : Id → Except String Unit) (x : DueSubscription) : Bool :=
  x.lapses || d.opens (x.subscription.billable x.id) (nonce x.id) (checkout x.id)

section Rounds

variable {nonce : Id → Fin (2 ^ 32)} {checkout : Id → Except String Unit}

lemma sweepRound_eq_none_iff {d : Db} {x : DueSubscription} :
    sweepRound d nonce checkout x = none ↔ x.proceeds d nonce checkout = false := by
  rw [sweepRound, DueSubscription.proceeds]
  split_ifs with hlapses hopens
  · simp [hlapses]
  · simp [hopens]
  · simp [hlapses, hopens]

/-- A round takes no reference of another subscription. -/
lemma proceeds_of_sweepRound {d d' : Db} {x y : DueSubscription}
    (h : sweepRound d nonce checkout x = some d') (hy : y.id ≠ x.id) :
    y.proceeds d' nonce checkout = y.proceeds d nonce checkout := by
  rw [sweepRound] at h
  split_ifs at h with hlapses hopens
  · cases h
    rfl
  · cases h
    have htaken : (d.billPeriod (x.subscription.billable x.id) (nonce x.id)
        ).subscriptionReferenceTaken (.subscriptionInvoice y.id (nonce y.id)) =
          d.subscriptionReferenceTaken (.subscriptionInvoice y.id (nonce y.id)) := by
      have hvalues : (d.billPeriod (x.subscription.billable x.id) (nonce x.id)
          ).subscriptionInvoice.values = d.subscriptionInvoice.values ++
            [periodInvoice (x.subscription.billable x.id) (nonce x.id) d.clock d.clock] :=
        d.subscriptionInvoice.values_insert _
      rw [Db.subscriptionReferenceTaken, hvalues, List.any_append]
      simp [Db.subscriptionReferenceTaken, periodInvoice, Subscription.billable, Ne.symm hy]
    rw [DueSubscription.proceeds, DueSubscription.proceeds, Db.opens, Db.opens]
    exact congrArg (fun taken => y.lapses || ((checkout y.id).isOk && !taken)) htaken

lemma takeWhile_congr_of_mem {α : Type} {p q : α → Bool} {l : List α} (h : ∀ a ∈ l, p a = q a) :
    l.takeWhile p = l.takeWhile q := by
  induction l with
  | nil => rfl
  | cons a l ih =>
    have hrec := ih fun b hb => h b (List.mem_cons_of_mem a hb)
    rw [List.takeWhile_cons, List.takeWhile_cons, h a (List.mem_cons_self ..), hrec]

/-- The subscriptions that are not due are left alone. -/
lemma sweepRounds_of_not_mem {xs : List DueSubscription} {d : Db} {i : Id}
    (hi : i ∉ xs.map DueSubscription.id) :
    (sweepRounds nonce checkout xs d).subscription.get? i = d.subscription.get? i := by
  induction xs generalizing d with
  | nil => rfl
  | cons x xs ih =>
    rw [List.map_cons, List.mem_cons, not_or] at hi
    rw [sweepRounds]
    cases hround : sweepRound d nonce checkout x with
    | none => rfl
    | some d' => exact (ih hi.2).trans (sweepRound_of_ne hround hi.1)

/-- **Which subscriptions a sweep lapses**: those whose newest invoice was never paid, among the
ones it comes to before a round fails. -/
lemma sweepRounds_expired_iff {xs : List DueSubscription}
    (hnodup : (xs.map DueSubscription.id).Nodup) {d : Db} (hdue : ∀ x ∈ xs, x.IsDue d) {i : Id}
    {s : Subscription} (hs : d.subscription.get? i = some s) (hactive : s.status = .active) :
    (∃ s', (sweepRounds nonce checkout xs d).subscription.get? i = some s' ∧
      s'.status = .expired) ↔
    ∃ x ∈ xs.takeWhile (DueSubscription.proceeds d nonce checkout), x.id = i ∧ x.lapses = true := by
  induction xs generalizing d with
  | nil =>
    refine iff_of_false ?_ (by simp)
    rintro ⟨s', hs', hexpired⟩
    obtain rfl : s = s' := Option.some.inj (hs.symm.trans hs')
    rw [hactive] at hexpired
    cases hexpired
  | cons x xs ih =>
    rw [List.map_cons, List.nodup_cons] at hnodup
    rw [sweepRounds, List.takeWhile_cons]
    cases hround : sweepRound d nonce checkout x with
    | none =>
      rw [sweepRound_eq_none_iff.mp hround]
      refine iff_of_false ?_ (by simp)
      rintro ⟨s', hs', hexpired⟩
      obtain rfl : s = s' := Option.some.inj (hs.symm.trans hs')
      rw [hactive] at hexpired
      cases hexpired
    | some d' =>
      have hproceeds : x.proceeds d nonce checkout = true := by
        by_contra hnot
        rw [sweepRound_eq_none_iff.mpr (Bool.not_eq_true _ ▸ hnot)] at hround
        cases hround
      have hother : ∀ y ∈ xs, y.id ≠ x.id := fun y hy h => hnodup.1 (h ▸ List.mem_map_of_mem hy)
      have hrest : xs.takeWhile (DueSubscription.proceeds d' nonce checkout) =
          xs.takeWhile (DueSubscription.proceeds d nonce checkout) :=
        takeWhile_congr_of_mem fun y hy => proceeds_of_sweepRound hround (hother y hy)
      simp only [hproceeds, if_true, List.mem_cons, exists_eq_or_imp]
      by_cases hi : i = x.id
      · -- The rounds after this one leave the subscription alone.
        subst hi
        rw [sweepRounds_of_not_mem hnodup.1]
        have hnone : ¬ ∃ y ∈ xs.takeWhile (DueSubscription.proceeds d nonce checkout),
            y.id = x.id ∧ y.lapses = true := by
          rintro ⟨y, hy, hid, -⟩
          exact hother y (List.takeWhile_subset _ hy) hid
        simp only [hnone, or_false, true_and]
        rcases sweepRound_subscription hround with ⟨hlapses, heq⟩ | ⟨hlapses, heq⟩ <;>
          rw [heq, hlapses]
        · have hlapse : (d.lapse x.id).subscription.get? x.id =
              some { s with status := .expired, cancelledAt := some d.clock } :=
            (d.subscription.get?_modify_self x.id _).trans (by rw [hs]; rfl)
          exact iff_of_true ⟨_, hlapse, rfl⟩ rfl
        · have hbilled : (d.billPeriod (x.subscription.billable x.id) (nonce x.id)
              ).subscription.get? x.id =
                some { s with renewsAt := some (d.clock + MembershipService.billingPeriodMs) } :=
            (d.subscription.get?_modify_self x.id _).trans (by rw [hs]; rfl)
          refine iff_of_false ?_ (by simp)
          rintro ⟨s', hs', hexpired⟩
          obtain rfl := Option.some.inj (hbilled.symm.trans hs')
          rw [show s.status = .expired from hexpired] at hactive
          cases hactive
      · have hne : ¬ x.id = i := fun h => hi h.symm
        simp only [hne, false_and, false_or]
        rw [← hrest]
        refine ih hnodup.2 (fun y hy => ?_) ((sweepRound_of_ne hround hi).trans hs)
        rw [DueSubscription.IsDue, sweepRound_of_ne hround (hother y hy)]
        exact hdue y (List.mem_cons_of_mem _ hy)

end Rounds

/-! ## The sweep and the paid subscriptions -/

/-- The subscription is EXPIRED. -/
def Db.ExpiredAt (d : Db) (i : Id) : Prop :=
  ∃ s, d.subscription.get? i = some s ∧ s.status = .expired

/-- A sweep does not lapse a subscription whose period has been paid. -/
def SparesPaidUp (env : Env) (d : Db) (o : SubscriptionOp) : Prop :=
  match o with
  | .billingSweep .. => ∀ i, d.PaidUp i → ¬ (o.step env d).ExpiredAt i
  | _ => True

/-- The due subscriptions that a sweep comes to: it ends at the first whose billing fails. -/
def Db.reached (d : Db) (nonce : Id → Fin (2 ^ 32)) (checkout : Id → Except String Unit) :
    List DueSubscription :=
  (d.dueSubscriptions d.clock).takeWhile (DueSubscription.proceeds d nonce checkout)

/-- The newest invoice is PAID, or its period is the one that ends when the subscription renews. -/
def DueSubscription.JudgedByPeriod (x : DueSubscription) : Prop :=
  ∀ v, x.lastInvoice = some v → v.status = .paid ∨ x.subscription.renewsAt = some v.periodEnd

lemma DueSubscription.lapses_iff (x : DueSubscription) :
    x.lapses = true ↔ ∃ v, x.lastInvoice = some v ∧ v.status ≠ .paid := by
  rw [lapses]
  cases x.lastInvoice <;> simp

/-- A sweep judges each subscription that it comes to by the invoice of its period. -/
def JudgesByPeriod (d : Db) : SubscriptionOp → Prop
  | .billingSweep nonce checkout => ∀ x ∈ d.reached nonce checkout, x.JudgedByPeriod
  | _ => True

/-- An invoice that is not PAID lapses its subscription rightly only if the period it is for is
the one that has ended. -/
lemma judgedByPeriod_iff {d : Db} (h : d.Periods) {x : DueSubscription}
    (hx : x ∈ d.dueSubscriptions d.clock) :
    x.JudgedByPeriod ↔ (x.lapses = true → ¬ d.PaidUp x.id) := by
  obtain ⟨hs, hactive, ⟨t, ht, hle⟩, hlast⟩ := d.mem_dueSubscriptions_iff.mp hx
  constructor
  · rintro hjudged hlapses ⟨s, t', hs', -, ht', -, j, w, hw, hwi, hpaid, hend⟩
    obtain rfl : x.subscription = s := Option.some.inj (hs.symm.trans hs')
    obtain ⟨v, hv, hunpaid⟩ := x.lapses_iff.mp hlapses
    obtain ⟨k, hk, -⟩ := d.lastInvoice_spec (hlast.symm.trans hv)
    have hvend : v.periodEnd = w.periodEnd := by
      rw [hend]
      exact Option.some.inj (((hjudged v hv).resolve_left hunpaid).symm.trans ht')
    obtain rfl := h.stamped.eq_of_periodEnd hk hw hvend
    exact hunpaid hpaid
  · intro hspared v hv
    by_cases hpaid : v.status = .paid
    · exact Or.inl hpaid
    · right
      have hlapses : x.lapses = true := x.lapses_iff.mpr ⟨v, hv, hpaid⟩
      -- The current period is not paid, so that it is the one of the newest invoice.
      obtain ⟨t', ht', j, w, hw, hwi, hend, hcurrent⟩ := h.current x.id x.subscription hs hactive
      obtain rfl : t = t' := Option.some.inj (ht.symm.trans ht')
      have hlast' : d.lastInvoice x.id = some v := hlast.symm.trans hv
      obtain ⟨k, hk, hki⟩ := d.lastInvoice_spec hlast'
      have hnewest := hcurrent.resolve_left fun hwpaid => hspared hlapses
        ⟨x.subscription, t, hs, hactive, ht, hle, j, w, hw, hwi, hwpaid, hend⟩
      have hcreated : v.createdAt = w.createdAt :=
        le_antisymm (hnewest k v hk hki) (d.lastInvoice_newest hlast' hw hwi)
      obtain rfl := h.stamped.unique k j v w hk hw hcreated
      obtain rfl : v = w := Option.some.inj (hk.symm.trans hw)
      rw [ht, hend]

lemma sparesPaidUp_iff (env : Env) {d : Db} (h : d.Periods) (o : SubscriptionOp) :
    SparesPaidUp env d o ↔ JudgesByPeriod d o := by
  cases o with
  | billingSweep nonce checkout =>
    have hexpired : ∀ i s, d.subscription.get? i = some s → s.status = .active →
        (((SubscriptionOp.billingSweep nonce checkout).step env d).ExpiredAt i ↔
          ∃ x ∈ d.reached nonce checkout, x.id = i ∧ x.lapses = true) := by
      intro i s hs hactive
      rw [SubscriptionOp.step, runBillingSweep_exec]
      exact sweepRounds_expired_iff (d.nodup_dueSubscriptions d.clock)
        (fun x hx => isDue_of_mem hx) hs hactive
    constructor
    · intro hspares x hx
      have hmem := List.takeWhile_subset _ hx
      obtain ⟨hs, hactive, -⟩ := d.mem_dueSubscriptions_iff.mp hmem
      rw [judgedByPeriod_iff h hmem]
      intro hlapses hpaid
      exact hspares x.id hpaid ((hexpired x.id _ hs hactive).mpr ⟨x, hx, rfl, hlapses⟩)
    · intro hjudges i hpaid hi
      have hdue := hpaid
      obtain ⟨s, t, hs, hactive, -⟩ := hdue
      obtain ⟨x, hx, rfl, hlapses⟩ := (hexpired i s hs hactive).mp hi
      exact (judgedByPeriod_iff h (List.takeWhile_subset _ hx)).mp (hjudges x hx) hlapses hpaid
  | _ => exact Iff.rfl

/-! ## Runs -/

/-- **A sweep lapses no subscription whose period has been paid**, in a run, exactly when every
sweep of it judges the subscriptions that it comes to by the invoices of their periods. -/
theorem sweep_spares_paid_up_iff (env : Env) {d : Db} (h : d.Unsubscribed)
    (os : List SubscriptionOp) :
    AllSteps (SubscriptionOp.step env) (SparesPaidUp env) d os ↔
      AllSteps (SubscriptionOp.step env) JudgesByPeriod d os :=
  allSteps_congr_of_invariant (P := SparesPaidUp env) (I := Db.Periods) (fun _ o h => h.step env o) (fun _ o h => sparesPaidUp_iff env h o)
    (Db.Periods.of_unsubscribed h) os

/-- Two checkouts for one subscription; the newer one is paid, and the period ends. -/
def newerPaid : List SubscriptionOp :=
  [.subscribe ⟨5, .customer⟩ .priority 0 (.ok ()),
   .subscribe ⟨5, .customer⟩ .priority 1 (.ok ()),
   .chargeSuccess (.subscriptionInvoice 0 1) 15840000,
   .elapse 2592000000,
   .billingSweep (fun _ => 2) (fun _ => .ok ())]

theorem sweep_spares_paid_up_iff_newerPaid :
    AllSteps (SubscriptionOp.step {}) (SparesPaidUp {}) plansDb newerPaid := by
  refine (sweep_spares_paid_up_iff {} plansDb_unsubscribed newerPaid).mpr
    ⟨trivial, trivial, trivial, trivial, ?_, trivial⟩
  have hpaid : ((runFrom (SubscriptionOp.step {}) plansDb (newerPaid.take 4)).reached
      (fun _ => 2) (fun _ => .ok ())).all
        (fun x => x.lastInvoice.all fun v => v.status = .paid) = true := by decide +kernel
  intro x hx v hv
  have hall := List.all_eq_true.mp hpaid x hx
  rw [hv] at hall
  exact Or.inl (of_decide_eq_true hall)

/-- The older checkout is paid instead. -/
def olderPaid : List SubscriptionOp :=
  [.subscribe ⟨5, .customer⟩ .priority 0 (.ok ()),
   .subscribe ⟨5, .customer⟩ .priority 1 (.ok ()),
   .chargeSuccess (.subscriptionInvoice 0 0) 15840000,
   .elapse 2592000000,
   .billingSweep (fun _ => 2) (fun _ => .ok ())]

/-- The sweep lapses the subscription, whose period was paid. -/
theorem lapses_paid_up :
    ¬ AllSteps (SubscriptionOp.step {}) (SparesPaidUp {}) plansDb olderPaid := by
  rintro ⟨-, -, -, -, hspares, -⟩
  have hsub : ((runFrom (SubscriptionOp.step {}) plansDb (olderPaid.take 4)).subscription.get?
      0).map (fun s => (s.status, s.renewsAt)) = some (.active, some 2592000101) := by
    decide +kernel
  have hinvoice : ((runFrom (SubscriptionOp.step {}) plansDb (olderPaid.take 4)
      ).subscriptionInvoice.get? 0).map (fun v => (v.subscriptionId, v.status, v.periodEnd)) =
        some (0, .paid, 2592000101) := by decide +kernel
  have hclock : 2592000101 ≤
      (runFrom (SubscriptionOp.step {}) plansDb (olderPaid.take 4)).clock := by decide +kernel
  have hexpired : ((runFrom (SubscriptionOp.step {}) plansDb olderPaid).subscription.get? 0).map
      Subscription.status = some .expired := by decide +kernel
  obtain ⟨s, hs, hss⟩ := Option.map_eq_some_iff.mp hsub
  obtain ⟨hactive, hrenews⟩ := Prod.mk.inj hss
  obtain ⟨v, hv, hvs⟩ := Option.map_eq_some_iff.mp hinvoice
  simp only [Prod.mk.injEq] at hvs
  obtain ⟨s', hs', hse⟩ := Option.map_eq_some_iff.mp hexpired
  exact hspares 0 ⟨s, _, hs, hactive, hrenews, hclock, 0, v, hv, hvs.1, hvs.2.1, hvs.2.2⟩
    ⟨s', hs', hse⟩

end Asoju
