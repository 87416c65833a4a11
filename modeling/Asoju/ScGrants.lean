/-
Grants for paid invoices: when each is granted exactly once.

A verified payment marks its invoice as PAID first and grants the credit last, and it recognises a
redelivery by the invoice being PAID.  A delivery that fails in between loses the grant, since
every later one finds the invoice PAID; and two deliveries that have both read the invoice before
either marks it grant twice.  `grants_match` says that these are the only ways: otherwise each
subscription has as many grants as paid invoices whenever no delivery is in progress.

The account that is kept is of the grants made and the grants owed by the deliveries between the
two steps: together they are as many as the paid invoices.
-/
import Asoju.SubscriptionRuns
import Asoju.Lib.Faults

namespace Asoju

open Lib SubscriptionBillingService

/-- A delivery of a verified event, with the step at which it fails, if it does. -/
structure Delivery where
  reference : Reference
  amountKobo : ℚ
  fault : Option (ℕ × HttpError) := none
deriving DecidableEq, Repr

/-- The handler of the event, cut off at the fault. -/
def Delivery.code (c : Delivery) : Svc SubscriptionInvoice :=
  (handleVerifiedSubscriptionPayment c.reference c.amountKobo).withFault c.fault

abbrev DeliveryThread := Thread Db Act HttpError SubscriptionInvoice Delivery

abbrev DeliveryPool := Pool Db Act HttpError SubscriptionInvoice Delivery

/-! ## Grants and paid invoices -/

namespace Db

variable (d : Db)

/-- The number of grants of the subscription. -/
def grants (i : Id) : ℕ :=
  d.scLedgerEntry.values.countP fun e => e.subscriptionId = i ∧ e.type = .grant

/-- The number of paid invoices of the subscription. -/
def paidInvoices (i : Id) : ℕ :=
  d.subscriptionInvoice.values.countP fun v => v.subscriptionId = i ∧ v.status = .paid

variable {d} in
lemma grants_congr {d' : Db} (h : d'.scLedgerEntry = d.scLedgerEntry) (i : Id) :
    d'.grants i = d.grants i := by
  rw [grants, h, grants]

variable {d} in
lemma paidInvoices_congr {d' : Db} (h : d'.subscriptionInvoice = d.subscriptionInvoice) (i : Id) :
    d'.paidInvoices i = d.paidInvoices i := by
  rw [paidInvoices, h, paidInvoices]

/-- Each subscription has one grant for each of its paid invoices. -/
def GrantsMatch : Prop := ∀ i, d.grants i = d.paidInvoices i

end Db

/-! ## The stages of a delivery -/

/-- The number of the step that creates the grant: it comes after the activation, if there is
one.  The invoice is marked as paid in the step number 1. -/
def grantStep (x : SubscriptionInvoiceDetail) : ℕ :=
  if x.subscription.status = .pending then 5 else 3

/-- The invoice that the event is about, if the delivery goes on to settle it. -/
def Delivery.invoiceOf (c : Delivery) (s : Db) : Option SubscriptionInvoiceDetail :=
  (s.subscriptionInvoiceByReference c.reference).filter fun x =>
    (x.invoice.expectedKobo : ℚ) = c.amountKobo ∧ x.invoice.status ≠ .paid

/-- The delivery, having read the invoice `x`, does not fail before it has granted. -/
def Delivery.Outlasts (c : Delivery) (s : Db) (x : SubscriptionInvoiceDetail) : Prop :=
  (c.fault.all fun f => grantStep x < f.1) = true ∧
    (s.planConfig x.subscription.plan).isSome = true

instance outlastsDecidable (c : Delivery) (s : Db) (x : SubscriptionInvoiceDetail) :
    Decidable (c.Outlasts s x) := inferInstanceAs (Decidable (_ ∧ _))

/-- Where a delivery stands. -/
inductive GrantStage
  | start
  | found (x : SubscriptionInvoiceDetail)
  | owing (i : Id)
  /-- It owes a grant, and will not make it. -/
  | lost (i : Id)
  | finished
deriving DecidableEq

/-- The stage that an action leads to. -/
def GrantStage.next (c : Delivery) : GrantStage → Act → Db → GrantStage
  | .start, _, s =>
      match c.invoiceOf s with
      | some x => .found x
      | none => .finished
  | .found x, _, s =>
      if c.Outlasts s x then .owing x.invoice.subscriptionId else .lost x.invoice.subscriptionId
  | .owing i, l, _ => if l = .create .scLedgerEntry then .finished else .owing i
  | .lost i, l, _ => if l = .create .scLedgerEntry then .finished else .lost i
  | .finished, _, _ => .finished

/-- No action adds or removes an invoice or a subscription, or changes a plan. -/
structure SameRows (s s' : Db) : Prop where
  invoice : ∀ j, (s'.subscriptionInvoice.get? j).map SubscriptionInvoice.subscriptionId =
    (s.subscriptionInvoice.get? j).map SubscriptionInvoice.subscriptionId
  subscription : ∀ i, (s'.subscription.get? i).isSome = (s.subscription.get? i).isSome
  config : s'.membershipPlanConfig = s.membershipPlanConfig

lemma SameRows.refl (s : Db) : SameRows s s := ⟨fun _ => rfl, fun _ => rfl, rfl⟩

lemma SameRows.trans {a b c : Db} (hab : SameRows a b) (hbc : SameRows b c) : SameRows a c where
  invoice j := (hbc.invoice j).trans (hab.invoice j)
  subscription i := (hbc.subscription i).trans (hab.subscription i)
  config := hbc.config.trans hab.config

/-- The grants and the invoices are as they were. -/
def SameAccount (s s' : Db) : Prop :=
  s'.subscriptionInvoice = s.subscriptionInvoice ∧ s'.scLedgerEntry = s.scLedgerEntry

/-- What an action may do to the invoices and the grants, by the stage of the delivery. -/
def GrantStage.Allows (l : Act) (s s' : Db) : GrantStage → Prop
  | .found x =>
      s'.scLedgerEntry = s.scLedgerEntry ∧
      (∃ v, s.subscriptionInvoice.get? x.id = some v ∧
        v.subscriptionId = x.invoice.subscriptionId) ∧
      s'.subscriptionInvoice = s.subscriptionInvoice.modify x.id fun v =>
        { v with status := .paid, paidAt := some s.clock }
  | .owing i | .lost i =>
      if l = .create .scLedgerEntry then
        s'.subscriptionInvoice = s.subscriptionInvoice ∧
        ∃ e, e.subscriptionId = i ∧ e.type = .grant ∧ s'.scLedgerEntry = s.scLedgerEntry.insert e
      else SameAccount s s'
  | _ => SameAccount s s'

/-- The protocol of a delivery, over the rows of the database `base`.  It never ends while it owes
a grant. -/
def Delivery.protocol (base : Db) (c : Delivery) : Protocol Db Act GrantStage where
  relies s := SameRows base s
  init := .start
  next := GrantStage.next c
  allows st l s s' := SameRows s s' ∧ st.Allows l s s'
  final st := ∀ i, st ≠ .owing i

/-! ## The handler keeps to the protocol -/

section Follows

variable {base : Db} {c : Delivery} {plan : MembershipPlan} {i : Id} {st : GrantStage}
  {fault : Option (ℕ × HttpError)}

/-- An update of a row that is there, and what follows it. -/
lemma follows_update_bind {P : Protocol Db Act GrantStage} {β α : Type} {r : Rel β} {j : Id}
    {f : Time → β → β} {g : β → Svc α} (hnow : ∀ e, fault = some (0, e) → P.final st)
    (h : ∀ s, P.relies s → ∃ b, (r.get s).get? j = some b ∧
      P.allows st (.update r.model) s (s.modifyRow r j (f s.clock)) ∧
      P.Follows (P.next st (.update r.model) s)
        ((g (f s.clock b)).withFault (Prog.later fault))) :
    P.Follows st ((Prisma.update r j f >>= g).withFault fault) := by
  refine Prog.follows_withFault_atom hnow fun s hs => ?_
  obtain ⟨b, hb, hallows, hrest⟩ := h s hs
  refine ⟨hallows, ?_⟩
  dsimp only
  rw [hb]
  exact hrest

/-- Once it has granted, or has nothing to grant, a delivery leaves the account alone. -/
lemma follows_finished {m : Svc SubscriptionInvoice}
    (h : m.EachStep fun _ s s' => SameRows s s' ∧ SameAccount s s') :
    (c.protocol base).Follows .finished (m.withFault fault) := by
  have hfaulty := h.withFault fault
  generalize m.withFault fault = m' at hfaulty
  induction m' with
  | ret a => exact fun _ => by simp
  | fail e => exact fun _ => by simp
  | atom l w k ih => exact fun s _ => ⟨(hfaulty s).1, ih s (hfaulty s).2⟩

/-- The delivery has marked its invoice: it has lost the grant, or it owes it and its next `k`
steps do not fail. -/
def Bearing (base : Db) (plan : MembershipPlan) (i : Id) (k : ℕ)
    (fault : Option (ℕ × HttpError)) (st : GrantStage) : Prop :=
  st = .lost i ∨
    (st = .owing i ∧ Prog.Sparing k fault ∧ (base.planConfig plan).isSome = true)

lemma Bearing.now {k : ℕ} (h : Bearing base plan i (k + 1) fault st) (e : HttpError)
    (he : fault = some (0, e)) : (c.protocol base).final st := by
  rcases h with rfl | ⟨-, hsparing, -⟩
  · exact fun _ => by simp
  · exact absurd he (hsparing.not_now e)

lemma Bearing.later {k : ℕ} (h : Bearing base plan i (k + 1) fault st) {l : Act}
    (hl : l ≠ .create .scLedgerEntry) (s : Db) :
    Bearing base plan i k (Prog.later fault) (GrantStage.next c st l s) := by
  rcases h with rfl | ⟨rfl, hsparing, hplan⟩
  · exact Or.inl (if_neg hl)
  · exact Or.inr ⟨if_neg hl, hsparing.later, hplan⟩

lemma Bearing.allows {k : ℕ} (h : Bearing base plan i k fault st) {l : Act}
    (hl : l ≠ .create .scLedgerEntry) {s s' : Db} (hs : SameAccount s s') : st.Allows l s s' := by
  rcases h with rfl | ⟨rfl, -, -⟩ <;>
    · rw [GrantStage.Allows, if_neg hl]
      exact hs

lemma Bearing.grant {k : ℕ} (h : Bearing base plan i k fault st) (s : Db)
    (planConfig : MembershipPlanConfig) :
    st.Allows (.create .scLedgerEntry) s
        (s.insertRow .scLedgerEntry (Db.grantEntry i planConfig)) ∧
      GrantStage.next c st (.create .scLedgerEntry) s = .finished := by
  rcases h with rfl | ⟨rfl, -, -⟩ <;>
    exact ⟨⟨rfl, Db.grantEntry i planConfig, rfl, rfl, rfl⟩, rfl⟩

/-- The grant itself. -/
lemma follows_grant {m : Svc SubscriptionInvoice} (h : Bearing base plan i 2 fault st)
    (hm : m.EachStep fun _ s s' => SameRows s s' ∧ SameAccount s s') :
    (c.protocol base).Follows st ((grantPeriod i plan >>= fun _ => m).withFault fault) := by
  rw [grantPeriod, MembershipService.getConfig, Prog.bind_assoc, Prog.bind_assoc]
  refine Prog.follows_withFault_atom h.now fun s hs => ?_
  have hl : Act.find .membershipPlanConfig ≠ .create .scLedgerEntry := by simp
  refine ⟨⟨SameRows.refl s, h.allows hl ⟨rfl, rfl⟩⟩, ?_⟩
  have hlater : Bearing base plan i 1 (Prog.later fault)
    (GrantStage.next c st (.find .membershipPlanConfig) s) := h.later hl s
  have hconfig : (s.membershipPlanConfig.values.find? fun c => c.plan = plan) =
      base.planConfig plan := by
    rw [hs.config]
    rfl
  dsimp only
  rw [hconfig]
  change (c.protocol base).Follows (GrantStage.next c st (.find .membershipPlanConfig) s) _
  generalize GrantStage.next c st (.find .membershipPlanConfig) s = st' at hlater
  cases hplan : base.planConfig plan with
  | none =>
    -- A delivery that owes the grant has found the plan to be there.
    have hlost : st' = .lost i :=
      hlater.resolve_right fun howes => absurd howes.2.2 (by simp [hplan])
    change (c.protocol base).Follows st' ((Prog.fail _).withFault _)
    rw [Prog.withFault_fail, hlost]
    exact fun _ => by simp
  | some planConfig =>
    refine Prog.follows_withFault_atom hlater.now fun s' _ => ?_
    obtain ⟨hallows, hnext⟩ := hlater.grant (c := c) s' planConfig
    refine ⟨⟨⟨fun _ => rfl, fun _ => rfl, rfl⟩, hallows⟩, ?_⟩
    change (c.protocol base).Follows (GrantStage.next c st' (.create .scLedgerEntry) s') _
    rw [hnext]
    refine follows_finished (m := Prisma.audit >>= fun _ => m) ?_
    exact fun s => ⟨⟨SameRows.refl s, rfl, rfl⟩, hm⟩

/-- The subscription of an invoice that is in the database `base`. -/
lemma SameRows.exists_subscription {s s' : Db} {x : SubscriptionInvoiceDetail}
    (hs : SameRows base s) (hx : s.Bills x) (hs' : SameRows base s') :
    ∃ b, s'.subscription.get? x.invoice.subscriptionId = some b := by
  rw [← Option.isSome_iff_exists, hs'.subscription, ← hs.subscription, hx.subscription]
  rfl

/-- The invoice itself. -/
lemma SameRows.exists_invoice {s s' : Db} {x : SubscriptionInvoiceDetail}
    (hs : SameRows base s) (hx : s.Bills x) (hs' : SameRows base s') :
    ∃ v, s'.subscriptionInvoice.get? x.id = some v ∧
      v.subscriptionId = x.invoice.subscriptionId := by
  rw [← Option.map_eq_some_iff, hs'.invoice, ← hs.invoice, hx.invoice]
  rfl

/-- From the activation on. -/
lemma follows_activate {s₀ : Db} {x : SubscriptionInvoiceDetail} (hs₀ : SameRows base s₀)
    (hx : s₀.Bills x) {m : Svc SubscriptionInvoice}
    (h : Bearing base x.subscription.plan x.invoice.subscriptionId (grantStep x - 1) fault st)
    (hm : m.EachStep fun _ s s' => SameRows s s' ∧ SameAccount s s') :
    (c.protocol base).Follows st ((activate x >>= fun _ =>
      grantPeriod x.invoice.subscriptionId x.subscription.plan >>= fun _ => m).withFault fault) := by
  by_cases hpending : x.subscription.status = .pending
  · rw [grantStep, if_pos hpending] at h
    have hupdate : Act.update .subscription ≠ .create .scLedgerEntry := by simp
    have haudit : Act.create .auditEvent ≠ .create .scLedgerEntry := by simp
    rw [activate, if_pos hpending, Prog.bind_assoc]
    refine follows_update_bind h.now fun s hs => ?_
    obtain ⟨b, hb⟩ := hs₀.exists_subscription hx hs
    refine ⟨b, hb, ⟨⟨fun _ => rfl, fun j => ?_, rfl⟩, h.allows hupdate ⟨rfl, rfl⟩⟩, ?_⟩
    · show ((s.subscription.modify _ _).get? j).isSome = _
      rw [Table.get?_modify]
      split_ifs <;> simp
    · have hlater := h.later (c := c) hupdate s
      refine Prog.follows_withFault_atom hlater.now fun s' _ => ?_
      refine ⟨⟨SameRows.refl s', hlater.allows haudit ⟨rfl, rfl⟩⟩, ?_⟩
      exact follows_grant (hlater.later haudit s') hm
  · rw [grantStep, if_neg hpending] at h
    rw [activate, if_neg hpending]
    exact follows_grant h hm

/-- A delivery that outlasts its step number `grantStep x` has this many steps left after it has
marked the invoice. -/
lemma Delivery.Outlasts.sparing {s : Db} {x : SubscriptionInvoiceDetail} (h : c.Outlasts s x) :
    Prog.Sparing (grantStep x - 1) (Prog.later (Prog.later c.fault)) := by
  have hsparing : Prog.Sparing (grantStep x + 1) c.fault := fun n e hfault => by
    have hall := h.1
    rw [hfault] at hall
    exact Nat.succ_le_of_lt (by simpa using hall)
  have hk : grantStep x = grantStep x - 1 + 1 := by
    rw [grantStep]
    split_ifs <;> rfl
  rw [hk] at hsparing
  exact hsparing.later.later

/-- The delivery has marked the invoice `x`. -/
lemma bearing_found {s : Db} (hs : SameRows base s) (x : SubscriptionInvoiceDetail) :
    Bearing base x.subscription.plan x.invoice.subscriptionId (grantStep x - 1)
      (Prog.later (Prog.later c.fault))
      (GrantStage.next c (.found x) (.update .subscriptionInvoice) s) := by
  rw [GrantStage.next]
  split_ifs with houtlasts
  · refine Or.inr ⟨rfl, houtlasts.sparing, ?_⟩
    have hplan := houtlasts.2
    rw [Db.planConfig, hs.config] at hplan
    exact hplan
  · exact Or.inl rfl

/-- **The handler keeps to the protocol.** -/
theorem follows_code (base : Db) (c : Delivery) : (c.protocol base).Follows .start c.code := by
  rw [Delivery.code, handleVerifiedSubscriptionPayment]
  refine Prog.follows_withFault_atom (fun _ _ _ => by simp) fun s hs => ?_
  refine ⟨⟨SameRows.refl s, rfl, rfl⟩, ?_⟩
  change (c.protocol base).Follows
    (GrantStage.next c .start (.find .subscriptionInvoice) s) _
  dsimp only [GrantStage.next, Delivery.invoiceOf]
  cases hx : s.subscriptionInvoiceByReference c.reference with
  | none =>
    change (c.protocol base).Follows .finished ((Prog.fail _).withFault _)
    rw [Prog.withFault_fail]
    exact fun _ => by simp
  | some x =>
    have hbills := (s.bills_of_byReference hx).1
    change (c.protocol base).Follows _ (Prog.withFault _ (if _ then _ else _))
    by_cases hamount : (x.invoice.expectedKobo : ℚ) = c.amountKobo
    · by_cases hpaid : x.invoice.status = .paid
      · rw [Option.filter_some, if_neg (by simp [hpaid]), if_neg (not_not.mpr hamount), if_pos hpaid]
        change (c.protocol base).Follows .finished ((Prog.ret _).withFault _)
        rw [Prog.withFault_ret]
        exact fun _ => by simp
      · rw [Option.filter_some, if_pos (by simp [hpaid, hamount]), if_neg (not_not.mpr hamount),
          if_neg hpaid]
        refine follows_update_bind (fun _ _ _ => by simp) fun s₁ hs₁ => ?_
        obtain ⟨v, hv, hvs⟩ := hs.exists_invoice hbills hs₁
        refine ⟨v, hv, ⟨⟨fun j => ?_, fun _ => rfl, rfl⟩, rfl, ⟨v, hv, hvs⟩, rfl⟩, ?_⟩
        · refine Table.map_get?_modify _ _ ?_ j
          exact fun _ => rfl
        · exact follows_activate hs hbills (bearing_found hs₁ x) fun _ =>
            ⟨⟨SameRows.refl _, rfl, rfl⟩, fun _ => ⟨⟨SameRows.refl _, rfl, rfl⟩, trivial⟩⟩
    · rw [Option.filter_some, if_neg (by simp [hamount]), if_pos hamount]
      change (c.protocol base).Follows .finished ((Prog.fail _).withFault _)
      rw [Prog.withFault_fail]
      exact fun _ => by simp

end Follows

/-! ## The account -/

/-- The grants that a delivery at this stage owes the subscription. -/
def GrantStage.owes (st : GrantStage) (i : Id) : ℕ := if st = .owing i then 1 else 0

/-- The stage of a delivery. -/
def grantStage (t : DeliveryThread) : GrantStage :=
  t.done.foldl (fun st x => st.next t.call x.1 x.2) .start

/-- The invoice that the next step of the delivery marks as paid: the delivery has read it in the
state `s`, and has done nothing else yet. -/
def invoiceToPay (t : DeliveryThread) : Option SubscriptionInvoiceDetail :=
  match t.rest.next?, t.done with
  | some _, [(_, s)] => t.call.invoiceOf s
  | _, _ => none

/-- A delivery that marks an invoice as PAID now finds it not PAID, and does not fail before it
has granted. -/
def GrantsOnce (p : DeliveryPool) : Event Delivery → Prop
  | .start _ => True
  | .sched i => ∀ t ∈ p.threads[i]?, ∀ x ∈ invoiceToPay t,
      (∀ v ∈ p.shared.subscriptionInvoice.get? x.id, v.status ≠ .paid) ∧
        t.call.Outlasts p.shared x

instance grantsOnceDecidable (p : DeliveryPool) : ∀ e, Decidable (GrantsOnce p e)
  | .start _ => inferInstanceAs (Decidable True)
  | .sched i => inferInstanceAs (Decidable (∀ t ∈ p.threads[i]?, ∀ x ∈ invoiceToPay t,
      (∀ v ∈ p.shared.subscriptionInvoice.get? x.id, v.status ≠ .paid) ∧
        t.call.Outlasts p.shared x))

/-- What the stage of a delivery says once it has marked its invoice, or will not mark any. -/
def GrantStage.Settled : GrantStage → Prop
  | .start | .found _ => False
  | _ => True

lemma GrantStage.Settled.next {st : GrantStage} (h : st.Settled) (c : Delivery) (l : Act)
    (s : Db) : (st.next c l s).Settled := by
  cases st with
  | start => exact h.elim
  | found x => exact h.elim
  | owing i =>
    rw [GrantStage.next]
    split_ifs <;> trivial
  | lost i =>
    rw [GrantStage.next]
    split_ifs <;> trivial
  | finished => trivial

lemma GrantStage.Settled.foldl {c : Delivery} {st : GrantStage} (h : st.Settled)
    (done : List (Act × Db)) : (done.foldl (fun st x => st.next c x.1 x.2) st).Settled := by
  induction done generalizing st with
  | nil => exact h
  | cons x done ih => exact ih (h.next c x.1 x.2)

lemma GrantStage.settled_next_next (c : Delivery) (l₁ l₂ : Act) (s₁ s₂ : Db) :
    ((GrantStage.start.next c l₁ s₁).next c l₂ s₂).Settled := by
  rw [GrantStage.next]
  cases c.invoiceOf s₁ with
  | none => trivial
  | some x =>
    show (GrantStage.next c (.found x) l₂ s₂).Settled
    rw [GrantStage.next]
    split_ifs <;> trivial

/-- A delivery that is about to mark an invoice has done nothing but read it. -/
lemma invoiceToPay_of_stage {t : DeliveryThread} {x : SubscriptionInvoiceDetail}
    (hstage : grantStage t = .found x) {l : Act} (hnext : t.rest.next? = some l) :
    invoiceToPay t = some x := by
  obtain ⟨c, done, rest⟩ := t
  rcases done with _ | ⟨⟨l₁, s₁⟩, _ | ⟨⟨l₂, s₂⟩, done⟩⟩
  · cases hstage
  · have hfirst : GrantStage.start.next c l₁ s₁ = .found x := hstage
    rw [GrantStage.next] at hfirst
    rw [invoiceToPay, hnext]
    cases hx : c.invoiceOf s₁ with
    | none =>
      rw [hx] at hfirst
      cases hfirst
    | some y =>
      rw [hx] at hfirst
      cases hfirst
      exact hx
  · have hsettled : (grantStage ⟨c, (l₁, s₁) :: (l₂, s₂) :: done, rest⟩).Settled :=
      (GrantStage.settled_next_next c l₁ l₂ s₁ s₂).foldl done
    rw [hstage] at hsettled
    exact hsettled.elim

/-- **One action** changes the grants made, the grants owed and the paid invoices alike, unless it
marks an invoice that is PAID already or that will not be granted. -/
lemma owes_next {c : Delivery} {st : GrantStage} {l : Act} {s s' : Db} (h : st.Allows l s s')
    (hlost : ∀ i, st ≠ .lost i)
    (hfound : ∀ x, st = .found x →
      (∀ v ∈ s.subscriptionInvoice.get? x.id, v.status ≠ .paid) ∧ c.Outlasts s x) (i : Id) :
    s'.grants i + (st.next c l s).owes i + s.paidInvoices i =
      s.grants i + st.owes i + s'.paidInvoices i := by
  have hsame : SameAccount s s' → s'.grants i = s.grants i ∧
      s'.paidInvoices i = s.paidInvoices i := fun hs =>
    ⟨Db.grants_congr hs.2 i, Db.paidInvoices_congr hs.1 i⟩
  cases st with
  | start =>
    obtain ⟨hgrants, hpaid⟩ := hsame h
    have howes : (GrantStage.start.next c l s).owes i = 0 := by
      rw [GrantStage.next]
      cases c.invoiceOf s <;> rfl
    rw [hgrants, hpaid, howes, GrantStage.owes, if_neg (by simp)]
  | found x =>
    obtain ⟨hentry, ⟨v, hv, hvs⟩, hinvoice⟩ := h
    obtain ⟨hunpaid, houtlasts⟩ := hfound x rfl
    have hcount := Table.countP_values_modify hv
      (fun v => { v with status := .paid, paidAt := some s.clock })
      fun v => decide (v.subscriptionId = i ∧ v.status = .paid)
    rw [← hinvoice, if_neg (by simp [hunpaid v hv])] at hcount
    have hpaid : s'.paidInvoices i = s.paidInvoices i + if v.subscriptionId = i then 1 else 0 := by
      rw [Db.paidInvoices, Db.paidInvoices]
      simpa using hcount
    rw [Db.grants_congr hentry, hpaid, GrantStage.next, if_pos houtlasts, GrantStage.owes, GrantStage.owes,
      if_neg (by simp : GrantStage.found x ≠ .owing i), hvs]
    simp only [GrantStage.owing.injEq]
    omega
  | owing j =>
    rw [GrantStage.Allows] at h
    rw [GrantStage.next]
    split_ifs at h ⊢ with hl
    · obtain ⟨hinvoice, e, rfl, hgrant, hentry⟩ := h
      have hgrants : s'.grants i = s.grants i + if e.subscriptionId = i then 1 else 0 := by
        rw [Db.grants, hentry, Table.countP_values_insert, Db.grants]
        simp [hgrant]
      rw [hgrants, Db.paidInvoices_congr hinvoice, GrantStage.owes, GrantStage.owes]
      simp
    · obtain ⟨hgrants, hpaid⟩ := hsame h
      rw [hgrants, hpaid]
  | lost j => exact absurd rfl (hlost j)
  | finished =>
    obtain ⟨hgrants, hpaid⟩ := hsame h
    rw [hgrants, hpaid, GrantStage.next]

lemma next_ne_lost {c : Delivery} {st : GrantStage} {s : Db} (hlost : ∀ i, st ≠ .lost i)
    (hfound : ∀ x, st = .found x → c.Outlasts s x) (l : Act) (i : Id) :
    st.next c l s ≠ .lost i := by
  cases st with
  | start =>
    rw [GrantStage.next]
    cases c.invoiceOf s <;> simp
  | found x =>
    rw [GrantStage.next, if_pos (hfound x rfl)]
    simp
  | owing j =>
    rw [GrantStage.next]
    split_ifs <;> simp
  | lost j => exact absurd rfl (hlost j)
  | finished => simp [GrantStage.next]

/-- What every interleaving that meets the condition keeps: the grants made and the grants owed are
as many as the paid invoices, and no grant is lost. -/
structure Balanced (base : Db) (p : DeliveryPool) : Prop where
  tracked : Pool.Tracked (Delivery.protocol base) p
  rows : SameRows base p.shared
  not_lost : ∀ t ∈ p.threads, ∀ i, grantStage t ≠ .lost i
  account : ∀ i, p.shared.grants i + (p.threads.map fun t => (grantStage t).owes i).sum =
    p.shared.paidInvoices i

lemma Balanced.idle {d : Db} (hd : d.GrantsMatch) : Balanced d (Pool.idle d) where
  tracked := Pool.tracked_idle _ d
  rows := SameRows.refl d
  not_lost := fun _ ht => absurd ht List.not_mem_nil
  account := hd

lemma Balanced.step {base : Db} {p : DeliveryPool} (h : Balanced base p) (e : Event Delivery)
    (he : GrantsOnce p e) : Balanced base (p.step Delivery.code e) := by
  have hrely : ∀ c, (Delivery.protocol base c).relies p.shared := fun _ => h.rows
  have htracked := h.tracked.preserved Delivery.code (follows_code base) hrely e
  rcases h.tracked.step Delivery.code hrely e with
    ⟨i, -, -, heq⟩ | ⟨c, -, heq⟩ | ⟨i, t, l, w, k, rfl, ht, hrest, ⟨hrows, hallows⟩, heq⟩ <;>
    rw [heq] at htracked ⊢
  · exact h
  · refine ⟨htracked, h.rows, fun t ht => ?_, fun i => ?_⟩
    · rcases List.mem_append.mp ht with ht | ht
      · exact h.not_lost t ht
      · rw [List.mem_singleton.mp ht]
        exact fun _ => by simp [grantStage]
    · have howes : GrantStage.start.owes i = 0 := rfl
      rw [List.map_append, List.sum_append, ← h.account i]
      simp [grantStage, howes]
  · have hmem := List.mem_of_getElem? ht
    have hallows : (grantStage t).Allows l p.shared (w p.shared) := hallows
    have hnext : t.rest.next? = some l := by rw [hrest]; rfl
    have hstage : grantStage ⟨t.call, t.done ++ [(l, p.shared)], k p.shared⟩ =
        (grantStage t).next t.call l p.shared := by simp [grantStage]
    have hfound : ∀ x, grantStage t = .found x →
        (∀ v ∈ p.shared.subscriptionInvoice.get? x.id, v.status ≠ .paid) ∧
          t.call.Outlasts p.shared x := fun x hx =>
      he t ht x (invoiceToPay_of_stage hx hnext)
    refine ⟨htracked, h.rows.trans hrows, fun u hu => ?_, fun i => ?_⟩
    · rcases List.mem_or_eq_of_mem_set hu with hu | rfl
      · exact h.not_lost u hu
      · rw [hstage]
        exact next_ne_lost (h.not_lost t hmem) (fun x hx => (hfound x hx).2) l
    · have hsum := Pool.sum_map_set ht (fun t => (grantStage t).owes i)
        ⟨t.call, t.done ++ [(l, p.shared)], k p.shared⟩
      have hstep := owes_next hallows (h.not_lost t hmem) hfound i
      have haccount := h.account i
      rw [hstage] at hsum
      dsimp only at hsum ⊢
      generalize ((p.threads.set _ _).map fun t => (grantStage t).owes i).sum = owed' at hsum ⊢
      generalize (p.threads.map fun t => (grantStage t).owes i).sum = owed at hsum haccount
      omega

/-- **Each paid invoice is granted exactly once** in every interleaving of any number of
deliveries, failing ones and repeated ones, in which no delivery that marks an invoice as PAID
finds it PAID or fails before it has granted. -/
theorem grants_match (d : Db) (hd : d.GrantsMatch) (es : List (Event Delivery))
    (hes : AllSteps (Pool.step Delivery.code) GrantsOnce (Pool.idle d) es) :
    AllStates (Pool.step Delivery.code) (fun p => p.Quiet → p.shared.GrantsMatch)
      (Pool.idle d) es := by
  have hbalanced : AllStates (Pool.step Delivery.code) (Balanced d) (Pool.idle d) es :=
    AllSteps.invariant (fun _ e h he => h.step e he) (Balanced.idle hd) hes
  refine hbalanced.mono fun p h hquiet i => ?_
  -- A delivery that has ended owes nothing.
  have hsum : (p.threads.map fun t => (grantStage t).owes i).sum = 0 := by
    rw [List.sum_eq_zero_iff]
    intro n hn
    obtain ⟨t, ht, rfl⟩ := List.mem_map.mp hn
    exact if_neg (h.tracked.final ht (hquiet t ht) i)
  rw [← h.account i, hsum, Nat.add_zero]

/-! ## One event, delivered twice -/

/-- A customer has signed up, and the invoice of the first period is open. -/
def signedUpDb : Db :=
  (ConciergeService.subscribe {} ⟨5, .customer⟩ .priority 0 (.ok ())).exec plansDb

lemma signedUpDb_grantsMatch : signedUpDb.GrantsMatch := by
  intro i
  have hentries : signedUpDb.scLedgerEntry.values = [] := by decide +kernel
  have hunpaid : (signedUpDb.subscriptionInvoice.values.all fun v => v.status ≠ .paid) = true := by
    decide +kernel
  rw [Db.grants, hentries, List.countP_nil, eq_comm, Db.paidInvoices, List.countP_eq_zero]
  intro v hv
  have hstatus := List.all_eq_true.mp hunpaid v hv
  simp_all

/-- The delivery of the payment, with a fault or without. -/
def paymentEvent (fault : Option (ℕ × HttpError)) : Delivery :=
  ⟨.subscriptionInvoice 0 0, 15840000, fault⟩

/-- The first delivery fails after it has granted; the second finds the invoice PAID. -/
def failsLate : List (Event Delivery) :=
  .start (paymentEvent (some (6, .internal "Connection lost"))) ::
    List.replicate 6 (.sched 0) ++ [.start (paymentEvent none), .sched 1]

theorem grants_match_failsLate :
    AllStates (Pool.step Delivery.code) (fun p => p.Quiet → p.shared.GrantsMatch)
      (Pool.idle signedUpDb) failsLate :=
  grants_match signedUpDb signedUpDb_grantsMatch failsLate (by decide +kernel)

/-- The delivery has returned normally. -/
def returned (t : DeliveryThread) : Bool :=
  match t.rest with
  | .ret _ => true
  | _ => false

/-- Each event has been delivered until a delivery of it has returned normally. -/
def Redelivered (p : DeliveryPool) : Prop :=
  ∀ t ∈ p.threads, ∃ u ∈ p.threads, u.call.reference = t.call.reference ∧
    u.call.amountKobo = t.call.amountKobo ∧ returned u = true

instance redeliveredDecidable (p : DeliveryPool) : Decidable (Redelivered p) :=
  inferInstanceAs (Decidable (∀ t ∈ p.threads, ∃ u ∈ p.threads,
    u.call.reference = t.call.reference ∧ u.call.amountKobo = t.call.amountKobo ∧
      returned u = true))

/-- The first delivery fails when it is about to grant; the second finds the invoice PAID. -/
def lostGrant : List (Event Delivery) :=
  .start (paymentEvent (some (5, .internal "Connection lost"))) ::
    List.replicate 5 (.sched 0) ++ [.start (paymentEvent none), .sched 1]

/-- Both deliveries have read the invoice before either of them marks it. -/
def doubledGrant : List (Event Delivery) :=
  [.start (paymentEvent none), .start (paymentEvent none), .sched 0, .sched 1] ++
    List.replicate 8 (.sched 0) ++ List.replicate 8 (.sched 1)

/-- The state that the events lead to. -/
def deliveryRun (es : List (Event Delivery)) : DeliveryPool :=
  runFrom (Pool.step Delivery.code) (Pool.idle signedUpDb) es

/-- There is no grant for the paid invoice, or there are two. -/
theorem grants_mismatch :
    ((deliveryRun lostGrant).Quiet ∧ Redelivered (deliveryRun lostGrant) ∧
      ¬ (deliveryRun lostGrant).shared.GrantsMatch) ∧
    (deliveryRun doubledGrant).Quiet ∧ Redelivered (deliveryRun doubledGrant) ∧
      ¬ (deliveryRun doubledGrant).shared.GrantsMatch := by
  have hends : ∀ es ∈ [lostGrant, doubledGrant],
      (deliveryRun es).Quiet ∧ Redelivered (deliveryRun es) ∧
        (deliveryRun es).shared.grants 0 ≠ (deliveryRun es).shared.paidInvoices 0 := by
    decide +kernel
  have hmismatch : ∀ es ∈ [lostGrant, doubledGrant],
      (deliveryRun es).Quiet ∧ Redelivered (deliveryRun es) ∧
        ¬ (deliveryRun es).shared.GrantsMatch := by
    intro es hes
    obtain ⟨hquiet, hredelivered, hne⟩ := hends es hes
    exact ⟨hquiet, hredelivered, fun hmatch => hne (hmatch 0)⟩
  exact ⟨hmismatch _ (by simp), hmismatch _ (by simp)⟩

end Asoju
