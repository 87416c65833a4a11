/-
Membership benefits and the SC ledger.

The balance of a subscription is never stored: it is the sum of its ledger entries, each
with the sign of its type.  A debit reads the balance and then, in a second action, appends
an entry for what it takes, which is never more than the balance it has read.

The FX rate of a subscription is positive, being locked from `usdToNgnRate`; a division by
it is a division of rationals.
-/
import Asoju.Prisma
import Asoju.Config

namespace Asoju

open Lib

namespace ScLedgerService

/-! ## The ledger -/

def signedAmount (type : ScTransactionType) (amountUsd : Money) : ℚ :=
  match type with
  | .grant | .reversal => |amountUsd.toRat|
  | .debit | .expiry => -|amountUsd.toRat|
  | .adjustment => amountUsd.toRat

/-- The balance as the ledger gives it. -/
def balanceUsd (entries : List ScLedgerEntry) (subscriptionId : Id) : ℚ :=
  ((entries.filter fun e => e.subscriptionId = subscriptionId).map
    fun e => signedAmount e.type e.amountUsd).sum

def getBalanceUsd (subscriptionId : Id) : Svc ℚ :=
  Prisma.query .scLedgerEntry fun d => balanceUsd d.scLedgerEntry.values subscriptionId

/-- The monthly grant. -/
def grant (subscriptionId : Id) (amountUsd : ℚ) : Svc Id :=
  Prisma.create .scLedgerEntry fun _ =>
    { subscriptionId, type := .grant, amountUsd := money |amountUsd| }

/-- What a debit has applied, in both currencies. -/
structure DebitResult where
  appliedUsd : ℚ
  appliedNgn : ℤ
deriving DecidableEq, Repr

/-- What the debit takes and where it came from. -/
structure DebitOpts where
  caseId : Option Id := none
  quoteId : Option Id := none
  fxRate : Rate
deriving DecidableEq, Repr

/-- The entry of a debit of `appliedUsd`. -/
def debitEntry (subscriptionId : Id) (appliedUsd : ℚ) (opts : DebitOpts) : ScLedgerEntry :=
  { subscriptionId, type := .debit, amountUsd := money appliedUsd, caseId := opts.caseId
    quoteId := opts.quoteId, fxRateApplied := some opts.fxRate
    amountNgn := some (money (roundHalfUp (appliedUsd * opts.fxRate.toRat))) }

/-- What a debit takes of the balance it has read. -/
def appliedUsd (requestedUsd available : ℚ) : ℚ := max 0 (min requestedUsd available)

/-- Debits at most what is available. -/
def debit (subscriptionId : Id) (requestedUsd : ℚ) (opts : DebitOpts) : Svc DebitResult := do
  if requestedUsd ≤ 0 then return ⟨0, 0⟩
  let available ← getBalanceUsd subscriptionId
  let applied := appliedUsd requestedUsd available
  if applied ≤ 0 then return ⟨0, 0⟩
  let _ ← Prisma.create .scLedgerEntry fun _ => debitEntry subscriptionId applied opts
  return ⟨applied, roundHalfUp (applied * opts.fxRate.toRat)⟩

/-- Without a positive request nothing happens; with one, the debit is two actions, the
read of the balance and the entry. -/
lemma debit_run (subscriptionId : Id) (requestedUsd : ℚ) (opts : DebitOpts) (d : Db) :
    let applied := appliedUsd requestedUsd (balanceUsd d.scLedgerEntry.values subscriptionId)
    (debit subscriptionId requestedUsd opts).run d =
      if requestedUsd ≤ 0 ∨ applied ≤ 0 then (.ok ⟨0, 0⟩, d)
      else (.ok ⟨applied, roundHalfUp (applied * opts.fxRate.toRat)⟩,
        d.insertRow .scLedgerEntry (debitEntry subscriptionId applied opts)) := by
  intro applied
  rw [debit]
  by_cases h : requestedUsd ≤ 0
  · simp [h]
  · by_cases ha : applied ≤ 0
    · simp [Prog.run_bind, h, getBalanceUsd, applied, ha]
    · simp [Prog.run_bind, h, getBalanceUsd, applied, ha]

end ScLedgerService

namespace MembershipService

/-! ## Benefits -/

/-- One billing period, in milliseconds. -/
def billingPeriodMs : Time := 30 * 24 * 60 * 60 * 1000

/-- The benefit that a quote shows before it is accepted. -/
structure QuoteBenefitPreview where
  subscriptionId : Id
  discountPercent : ℚ
  discountAmount : ℤ
  scAppliedNgn : ℤ
  finalAmount : ℤ
deriving DecidableEq, Repr

def getActiveSubscription (customerId : Id) : Svc (Option (Id × Subscription)) :=
  Prisma.query .subscription fun d =>
    d.subscription.rows.find? fun p => p.2.customerId = customerId ∧ p.2.status = .active

def periodStart (s : Subscription) : Time :=
  match s.renewsAt with
  | some renewsAt => renewsAt - billingPeriodMs
  | none => s.startedAt

/-- The quotes that have used the allowance in the current period. -/
def getEligibleUsageThisPeriod (subscriptionId : Id) (s : Subscription) : Svc ℕ :=
  Prisma.query .quote fun d =>
    (d.quote.values.filter fun q =>
      q.subscriptionId = some subscriptionId ∧ periodStart s ≤ q.createdAt ∧
        q.discountAmount.isSome).length

/-- The configuration of a plan; a missing row is an error of the deployment. -/
def getConfig (plan : MembershipPlan) : Svc MembershipPlanConfig := do
  let some config ← Prisma.query .membershipPlanConfig fun d =>
      d.membershipPlanConfig.values.find? fun c => c.plan = plan
    | throw (.notFound s!"No pricing configured for plan {plan.name}")
  return config

/-- The benefit that would apply to a quote.  Nothing is written. -/
def previewBenefit (customerId : Id) (caseTier : CaseTier) (baseAmountNgn : ℚ)
    (zone : PricingZone) : Svc (Option QuoteBenefitPreview) := do
  if caseTier ≠ .concierge then return none
  let some (subscriptionId, subscription) ← getActiveSubscription customerId
    | return none
  let plan ← getConfig subscription.plan
  let used ← getEligibleUsageThisPeriod subscriptionId subscription
  if plan.eligibleRequestsPerMonth ≤ used then return none
  let discountPercent := plan.discountPercent.toRat
  let discountAmount := roundHalfUp (baseAmountNgn * (discountPercent / 100))
  let afterDiscount := baseAmountNgn - discountAmount
  let scAppliedNgn ←
    if zone ≠ .other then do
      let availableScUsd ← ScLedgerService.getBalanceUsd subscriptionId
      let availableScNgn := availableScUsd * subscription.fxRate.toRat
      pure (max 0 (min availableScNgn afterDiscount))
    else pure 0
  return some
    { subscriptionId, discountPercent, discountAmount
      scAppliedNgn := roundHalfUp scAppliedNgn
      finalAmount := max 0 (roundHalfUp (afterDiscount - scAppliedNgn)) }

/-- What a quote costs once its benefit has been committed. -/
structure CommitResult where
  finalAmount : ℚ
  adjusted : Bool
deriving DecidableEq, Repr

/-- The amount without the benefit, for a membership that has lapsed. -/
def lapsedAmount (quote : Quote) : ℚ :=
  roundHalfUp (quote.baseAmount.getD quote.amount).toRat +
    (quote.nonServiceFeeAmount.map Decimal.toRat).getD 0

/-- The amount after the discount and the credit that was really applied. -/
def benefitAmount (quote : Quote) (appliedNgn : ℤ) : ℚ :=
  (max 0 (roundHalfUp ((quote.baseAmount.getD quote.amount).toRat -
      (quote.discountAmount.map Decimal.toRat).getD 0 - appliedNgn)) : ℤ) +
    (quote.nonServiceFeeAmount.map Decimal.toRat).getD 0

/-- The payable amount differs from the one that was shown. -/
def isAdjusted (quote : Quote) (finalAmount : ℚ) : Bool :=
  finalAmount ≠ roundHalfUp quote.amount.toRat

/-- Commits the benefit of a quote: only here is credit debited. -/
def commitBenefit (quoteId : Id) (quote : Quote) : Svc CommitResult := do
  let some subscriptionId := quote.subscriptionId
    | return ⟨quote.amount.toRat, false⟩
  let found ← Prisma.findUnique .subscription subscriptionId
  match found.filter fun s => s.status = .active with
  | none =>
      let finalAmount := lapsedAmount quote
      return ⟨finalAmount, isAdjusted quote finalAmount⟩
  | some subscription =>
      let fxRate := subscription.fxRate
      let projectedScUsd := (quote.scAppliedNgn.map fun m => m.toRat / fxRate.toRat).getD 0
      let result ← ScLedgerService.debit subscriptionId projectedScUsd
        { caseId := some quote.caseId, quoteId := some quoteId, fxRate }
      let finalAmount := benefitAmount quote result.appliedNgn
      return ⟨finalAmount, isAdjusted quote finalAmount⟩

end MembershipService

/-! ## The preview in closed form -/

open MembershipService

/-- The credit that a preview takes, before it is rounded. -/
def creditNgn (availableNgn fee : ℚ) : ℚ := max 0 (min availableNgn fee)

/-- The active subscription of a customer. -/
def Db.activeSubscription (d : Db) (customerId : Id) : Option (Id × Subscription) :=
  d.subscription.rows.find? fun p => p.2.customerId = customerId ∧ p.2.status = .active

/-- The configuration of a plan. -/
def Db.planConfig (d : Db) (plan : MembershipPlan) : Option MembershipPlanConfig :=
  d.membershipPlanConfig.values.find? fun c => c.plan = plan

/-- How much of the allowance of the current period is used. -/
def Db.eligibleUsage (d : Db) (sub : Id) (s : Subscription) : ℕ :=
  (d.quote.values.filter fun q => q.subscriptionId = some sub ∧ periodStart s ≤ q.createdAt ∧
    q.discountAmount.isSome).length

/-- The membership that a quote of the customer benefits from: the active subscription, the
configuration of its plan, and an allowance that is not used up. -/
structure Db.Benefits (d : Db) (customerId sub : Id) (s : Subscription)
    (plan : MembershipPlanConfig) : Prop where
  active : d.activeSubscription customerId = some (sub, s)
  config : d.planConfig s.plan = some plan
  allowance : d.eligibleUsage sub s < plan.eligibleRequestsPerMonth

/-- The discount on the fee. -/
def discountOf (plan : MembershipPlanConfig) (fee : ℚ) : ℤ :=
  roundHalfUp (fee * (plan.discountPercent.toRat / 100))

/-- The balance of the subscription in naira. -/
def Db.availableNgn (d : Db) (sub : Id) (s : Subscription) : ℚ :=
  ScLedgerService.balanceUsd d.scLedgerEntry.values sub * s.fxRate.toRat

/-- The credit that the preview takes; none in a zone that has no fixed prices. -/
def Db.creditOf (d : Db) (sub : Id) (s : Subscription) (fee : ℚ) (zone : PricingZone) : ℚ :=
  if zone = .other then 0 else creditNgn (d.availableNgn sub s) fee

/-- The benefit that the preview computes. -/
def Db.benefitOf (d : Db) (sub : Id) (s : Subscription) (plan : MembershipPlanConfig) (fee : ℚ)
    (zone : PricingZone) : QuoteBenefitPreview :=
  let credit := d.creditOf sub s (fee - discountOf plan fee) zone
  { subscriptionId := sub, discountPercent := plan.discountPercent.toRat
    discountAmount := discountOf plan fee, scAppliedNgn := roundHalfUp credit
    finalAmount := max 0 (roundHalfUp (fee - discountOf plan fee - credit)) }

lemma getConfig_run (d : Db) (plan : MembershipPlan) :
    (getConfig plan).run d = match d.planConfig plan with
      | none => (.error (.notFound s!"No pricing configured for plan {plan.name}"), d)
      | some config => (.ok config, d) := by
  rw [getConfig, Prog.run_bind, Prisma.run_query]
  show Prog.run (match d.planConfig plan with | some config => _ | _ => _) d = _
  cases d.planConfig plan <;> rfl

/-- What the preview answers. -/
def Db.previewOf (d : Db) (customerId : Id) (fee : ℚ) (zone : PricingZone) :
    Except HttpError (Option QuoteBenefitPreview) :=
  match d.activeSubscription customerId with
  | none => .ok none
  | some (sub, s) =>
      match d.planConfig s.plan with
      | none => .error (.notFound s!"No pricing configured for plan {s.plan.name}")
      | some plan =>
          if plan.eligibleRequestsPerMonth ≤ d.eligibleUsage sub s then .ok none
          else .ok (some (d.benefitOf sub s plan fee zone))

lemma previewBenefit_run (d : Db) (customerId : Id) (fee : ℚ) (zone : PricingZone) :
    (previewBenefit customerId .concierge fee zone).run d =
      (d.previewOf customerId fee zone, d) := by
  have hactive : (getActiveSubscription customerId).run d =
      (.ok (d.activeSubscription customerId), d) := rfl
  rw [previewBenefit, if_neg (by decide), Prog.run_bind_ok hactive, Db.previewOf]
  cases d.activeSubscription customerId with
  | none => rfl
  | some p =>
    obtain ⟨sub, s⟩ := p
    have husage : (getEligibleUsageThisPeriod sub s).run d = (.ok (d.eligibleUsage sub s), d) :=
      rfl
    dsimp only
    rw [Prog.run_bind, getConfig_run]
    cases d.planConfig s.plan with
    | none => rfl
    | some plan =>
      dsimp only
      rw [Prog.run_bind_ok husage]
      split_ifs with hused hzone
      · rfl
      · rw [Db.benefitOf, Db.creditOf, if_neg hzone]
        rfl
      · rw [Db.benefitOf, Db.creditOf, if_pos (not_not.mp hzone)]
        rfl

/-- There is a benefit exactly when there is a membership to benefit from. -/
lemma Db.previewOf_eq_ok (d : Db) (customerId : Id) (fee : ℚ) (zone : PricingZone)
    {benefit : Option QuoteBenefitPreview} (h : d.previewOf customerId fee zone = .ok benefit) :
    (benefit = none ∧ ∀ sub s plan, ¬ d.Benefits customerId sub s plan) ∨
      ∃ sub s plan, d.Benefits customerId sub s plan ∧
        benefit = some (d.benefitOf sub s plan fee zone) := by
  rw [Db.previewOf] at h
  cases hactive : d.activeSubscription customerId with
  | none =>
    rw [hactive] at h
    cases h
    exact Or.inl ⟨rfl, fun sub s plan hb => by cases hactive.symm.trans hb.active⟩
  | some p =>
    obtain ⟨sub, s⟩ := p
    cases hconfig : d.planConfig s.plan with
    | none => simp [hactive, hconfig] at h
    | some plan =>
      simp only [hactive, hconfig] at h
      split_ifs at h with hused
      · cases h
        refine Or.inl ⟨rfl, fun sub' s' plan' hb => ?_⟩
        cases hactive.symm.trans hb.active
        cases hconfig.symm.trans hb.config
        exact absurd hb.allowance (not_lt.mpr hused)
      · cases h
        exact Or.inr ⟨sub, s, plan, ⟨hactive, hconfig, not_le.mp hused⟩, rfl⟩

end Asoju
