/-
The price that a quote shows and the price that its acceptance charges.

The preview takes the credit from the fee as a number of naira with decimals and rounds what
remains; the commitment rounds the credit first.  Both round halves upwards, so that the two
agree except where the credit ends in exactly half a naira: `commit_agrees_iff`.
-/
import Asoju.Quotes

namespace Asoju

open Lib

/-! ## The two computations -/

/-- The naira that a debit of the rounded credit takes from the balance. -/
def debitedNgn (balanceUsd fxRate : ℚ) (credit : ℤ) : ℤ :=
  if credit / fxRate ≤ 0 ∨ ScLedgerService.appliedUsd (credit / fxRate) balanceUsd ≤ 0 then 0
  else roundHalfUp (ScLedgerService.appliedUsd (credit / fxRate) balanceUsd * fxRate)

lemma creditNgn_cases (availableNgn fee : ℚ) :
    (creditNgn availableNgn fee = 0 ∧ (availableNgn ≤ 0 ∨ fee ≤ 0)) ∨
      (creditNgn availableNgn fee = availableNgn ∧ 0 < availableNgn ∧ availableNgn < fee) ∨
      (creditNgn availableNgn fee = fee ∧ 0 < fee ∧ fee ≤ availableNgn) := by
  rw [creditNgn]
  rcases le_or_gt availableNgn 0 with hv | hv
  · exact Or.inl ⟨max_eq_left ((min_le_left _ _).trans hv), Or.inl hv⟩
  · rcases le_or_gt fee 0 with hfee | hfee
    · exact Or.inl ⟨max_eq_left ((min_le_right _ _).trans hfee), Or.inr hfee⟩
    · rw [max_eq_right (le_min hv.le hfee.le)]
      rcases lt_or_ge availableNgn fee with hlt | hle
      · exact Or.inr (Or.inl ⟨min_eq_left hlt.le, hv, hlt⟩)
      · exact Or.inr (Or.inr ⟨min_eq_right hle, hfee, hle⟩)

lemma debitedNgn_zero (balanceUsd fxRate : ℚ) : debitedNgn balanceUsd fxRate 0 = 0 := by
  rw [debitedNgn, if_pos (Or.inl (by simp))]

/-- What is debited of a credit is capped at the balance, in naira as in dollars. -/
lemma debitedNgn_of_pos {balanceUsd fxRate : ℚ} (hfx : 0 < fxRate) {credit : ℤ}
    (hcredit : 0 < credit) (hbalance : 0 < balanceUsd * fxRate) :
    debitedNgn balanceUsd fxRate credit = roundHalfUp (min credit (balanceUsd * fxRate)) := by
  have hasked : 0 < (credit : ℚ) / fxRate := div_pos (by exact_mod_cast hcredit) hfx
  have hthere : 0 < balanceUsd := pos_of_mul_pos_left hbalance hfx.le
  have happlied : ScLedgerService.appliedUsd (credit / fxRate) balanceUsd =
      min (credit / fxRate) balanceUsd := max_eq_right (le_min hasked.le hthere.le)
  have hpos : 0 < min ((credit : ℚ) / fxRate) balanceUsd := lt_min hasked hthere
  rw [debitedNgn, happlied, if_neg (not_or.mpr ⟨not_le.mpr hasked, not_le.mpr hpos⟩),
    min_mul_of_nonneg _ _ hfx.le, div_mul_cancel₀ _ hfx.ne']

/-- **The commitment takes the credit as the preview has rounded it**, although it converts it
to dollars and back and caps it at the balance. -/
theorem debitedNgn_eq {balanceUsd fxRate : ℚ} (hfx : 0 < fxRate) (fee : ℤ) :
    debitedNgn balanceUsd fxRate (roundHalfUp (creditNgn (balanceUsd * fxRate) fee)) =
      roundHalfUp (creditNgn (balanceUsd * fxRate) fee) := by
  have hzero : roundHalfUp 0 = 0 := by exact_mod_cast roundHalfUp_intCast 0
  rcases creditNgn_cases (balanceUsd * fxRate) fee with
    ⟨hcredit, -⟩ | ⟨hcredit, hpos, -⟩ | ⟨hcredit, hpos, hle⟩ <;> rw [hcredit]
  · rw [hzero, debitedNgn_zero]
  · -- The credit is the whole balance, rounded up or down.
    obtain ⟨c, hc⟩ : ∃ c, c = roundHalfUp (balanceUsd * fxRate) := ⟨_, rfl⟩
    have hnonneg : 0 ≤ c := by
      rw [hc, ← hzero]
      exact roundHalfUp_mono hpos.le
    rw [← hc]
    rcases hnonneg.eq_or_lt with hc0 | hcpos
    · rw [← hc0, debitedNgn_zero]
    · rw [debitedNgn_of_pos hfx hcpos hpos]
      rcases le_total (c : ℚ) (balanceUsd * fxRate) with hle | hle
      · rw [min_eq_left hle, roundHalfUp_intCast]
      · rw [min_eq_right hle, hc]
  · rw [roundHalfUp_intCast, debitedNgn_of_pos hfx (by exact_mod_cast hpos) (hpos.trans_le hle),
      min_eq_left hle, roundHalfUp_intCast]

/-- **Where the two prices agree**: the fee that the preview rounds last and the fee that the
commitment takes the rounded credit from are the same, unless the whole balance is taken, does
not cover the fee, and ends in exactly half a naira. -/
theorem fees_eq_iff (availableNgn : ℚ) (fee : ℤ) :
    max 0 (roundHalfUp (fee - creditNgn availableNgn fee)) =
        max 0 (fee - roundHalfUp (creditNgn availableNgn fee)) ↔
      ¬ (0 < availableNgn ∧ availableNgn < fee ∧ ∃ n : ℤ, availableNgn = n + 1 / 2) := by
  have hzero : roundHalfUp 0 = 0 := by exact_mod_cast roundHalfUp_intCast 0
  rcases creditNgn_cases availableNgn fee with
    ⟨hcredit, hnone⟩ | ⟨hcredit, hpos, hlt⟩ | ⟨hcredit, hpos, hle⟩ <;> rw [hcredit]
  · rw [sub_zero, roundHalfUp_intCast, hzero, sub_zero]
    refine iff_of_true rfl ?_
    rintro ⟨hpos, hlt, -⟩
    rcases hnone with h | h <;> linarith
  · have hle : roundHalfUp availableNgn ≤ fee := by
      have h := roundHalfUp_mono hlt.le
      rwa [roundHalfUp_intCast] at h
    have hpreview : roundHalfUp (fee - availableNgn) = fee + roundHalfUp (-availableNgn) := by
      rw [sub_eq_add_neg, roundHalfUp_intCast_add]
    have hnonneg : 0 ≤ fee + roundHalfUp (-availableNgn) := by
      rw [← hpreview, ← hzero]
      exact roundHalfUp_mono (by linarith)
    rw [hpreview, max_eq_right hnonneg, max_eq_right (by omega), sub_eq_add_neg,
      add_right_inj, roundHalfUp_neg_iff]
    simp [hpos, hlt]
  · rw [sub_self, roundHalfUp_intCast, sub_self, hzero]
    exact iff_of_true rfl fun h => absurd h.2.1 (not_lt.mpr hle)

/-! ## The commitment of a quote -/

open MembershipService

/-- The price of a quote as it is shown is the price that its commitment charges. -/
def CommitsAsShown (d : Db) (quoteId : Id) (quote : Quote) : Prop :=
  ∃ d', (commitBenefit quoteId quote).run d = (.ok ⟨quote.amount.toRat, false⟩, d')

/-- The commitment of a quote with a benefit, as long as the membership is active. -/
lemma commitBenefit_active (d : Db) (quoteId : Id) (quote : Quote) {sub : Id} {s : Subscription}
    {credit : ℤ} (hsub : quote.subscriptionId = some sub)
    (hs : d.subscription.get? sub = some s) (hactive : s.status = .active)
    (hcredit : quote.scAppliedNgn = some (money credit)) :
    ∃ d', (commitBenefit quoteId quote).run d =
      (.ok ⟨benefitAmount quote (debitedNgn (ScLedgerService.balanceUsd d.scLedgerEntry.values sub)
          s.fxRate.toRat credit),
        isAdjusted quote (benefitAmount quote
          (debitedNgn (ScLedgerService.balanceUsd d.scLedgerEntry.values sub)
            s.fxRate.toRat credit))⟩, d') := by
  have hstore : (money credit : Money).toRat = credit :=
    Decimal.store_toRat_of_mem (Decimal.intCast_mem_grid credit)
  rw [commitBenefit, hsub]
  simp only [Prog.run_bind, Prisma.run_findUnique, Rel.subscription_get, hs, Option.filter_some,
    hactive, decide_true, if_true, hcredit, Option.map_some, Option.getD_some, hstore,
    ScLedgerService.debit_run, debitedNgn]
  split_ifs <;> exact ⟨_, rfl⟩

/-- **A commitment charges what is shown** exactly when its amount is the one of the quote. -/
lemma commitsAsShown_iff {d : Db} {quoteId : Id} {quote : Quote} {amount : ℚ} {n : ℤ}
    (hrun : ∃ d', (commitBenefit quoteId quote).run d =
      (.ok ⟨amount, isAdjusted quote amount⟩, d')) (hquote : quote.amount.toRat = n) :
    CommitsAsShown d quoteId quote ↔ amount = quote.amount.toRat := by
  obtain ⟨d', hrun⟩ := hrun
  constructor
  · rintro ⟨d'', hshown⟩
    rw [hrun] at hshown
    simp only [Prod.mk.injEq, Except.ok.injEq, CommitResult.mk.injEq] at hshown
    exact hshown.1.1
  · intro heq
    refine ⟨d', ?_⟩
    rw [hrun, heq, isAdjusted, hquote, roundHalfUp_intCast]
    simp

namespace CommerceService

/-- The amounts of all lines are whole numbers of naira. -/
def CreateQuoteDto.WholeNaira (dto : CreateQuoteDto) : Prop :=
  ∀ l ∈ dto.lines, ∃ n : ℤ, l.amount = n

lemma CreateQuoteDto.WholeNaira.exists_sum {dto : CreateQuoteDto} (h : dto.WholeNaira)
    (q : CreateQuoteLineDto → Bool) : ∃ n : ℤ, ((dto.lines.filter q).map (·.amount)).sum = n := by
  obtain ⟨lines, currency, priceBookId⟩ := dto
  induction lines with
  | nil => exact ⟨0, by simp⟩
  | cons l lines ih =>
    obtain ⟨n, hn⟩ := ih fun l' hl' => h l' (List.mem_cons_of_mem _ hl')
    obtain ⟨m, hm⟩ := h l (List.mem_cons_self ..)
    have hn' : ((lines.filter q).map (·.amount)).sum = n := hn
    by_cases hq : q l = true
    · refine ⟨m + n, ?_⟩
      rw [List.filter_cons_of_pos hq, List.map_cons, List.sum_cons, hn', hm]
      push_cast
      rfl
    · exact ⟨n, by rw [List.filter_cons_of_neg hq, hn']⟩

/-- A new quote takes all of the customer's credit, which does not cover the discounted fee,
and the credit ends in exactly half a naira. -/
def CreditEndsInHalf (d : Db) (caseId : Id) (dto : CreateQuoteDto) : Prop :=
  ∃ c scopeId scope sub s plan, d.serviceCase.get? caseId = some c ∧
    d.latestScope caseId = some (scopeId, scope) ∧
    (c.tier = .concierge ∧ 0 < dto.serviceFeeTotal) ∧ scope.zone ≠ .other ∧
    d.Benefits c.customerId sub s plan ∧ 0 < d.availableNgn sub s ∧
    d.availableNgn sub s < dto.serviceFeeTotal - discountOf plan dto.serviceFeeTotal ∧
    ∃ n : ℤ, d.availableNgn sub s = n + 1 / 2

/-- What the commitment of a quote looks at: the status and the rate of its subscription, and
the ledger of it. -/
def SameMembership (quote : Quote) (a b : Db) : Prop :=
  ∀ sub, quote.subscriptionId = some sub →
    ((b.subscription.get? sub).map fun s => (s.status, s.fxRate)) =
        ((a.subscription.get? sub).map fun s => (s.status, s.fxRate)) ∧
      (b.scLedgerEntry.values.filter fun e => e.subscriptionId = sub) =
        a.scLedgerEntry.values.filter fun e => e.subscriptionId = sub

end CommerceService

open CommerceService

/-- The shown price of a quote with a benefit, and what its commitment makes of it. -/
lemma quoteRow_amounts (env : Env) (caseId scopeId : Id) {dto : CreateQuoteDto}
    (benefit : QuoteBenefitPreview) (t : Time) {fee rest : ℤ} (hfee : dto.serviceFeeTotal = fee)
    (hrest : dto.nonServiceFeeTotal = rest) (debited : ℤ) :
    (quoteRow env caseId scopeId dto (some benefit) t).amount.toRat =
        (benefit.finalAmount + rest : ℤ) ∧
      benefitAmount (quoteRow env caseId scopeId dto (some benefit) t) debited =
        (max 0 (fee - benefit.discountAmount - debited) + rest : ℤ) := by
  have hstore : ∀ n : ℤ, (money n : Money).toRat = n := fun n =>
    Decimal.store_toRat_of_mem (Decimal.intCast_mem_grid n)
  have hround : roundHalfUp ((fee : ℚ) - benefit.discountAmount - debited) =
      fee - benefit.discountAmount - debited := by exact_mod_cast roundHalfUp_intCast _
  constructor
  · have hsum : (benefit.finalAmount : ℚ) + rest = (benefit.finalAmount + rest : ℤ) := by
      push_cast
      rfl
    simp only [quoteRow, Option.map_some, Option.getD_some, hrest, hsum, hstore]
  · simp only [quoteRow, benefitAmount, Option.getD_some, Option.map_some, hfee, hrest, hstore,
      hround]
    push_cast
    rfl

/-- An active subscription is one of the customer's, and active. -/
lemma Db.Benefits.get? {d : Db} {customerId sub : Id} {s : Subscription}
    {plan : MembershipPlanConfig} (h : d.Benefits customerId sub s plan) :
    d.subscription.get? sub = some s ∧ s.status = .active := by
  have hfind := h.active
  rw [Db.activeSubscription] at hfind
  have htest := List.find?_some hfind
  simp only [decide_eq_true_eq] at htest
  exact ⟨d.subscription.mem_rows_iff.mp (List.mem_of_find?_eq_some hfind), htest.2⟩

lemma Db.Benefits.unique {d : Db} {customerId sub sub' : Id} {s s' : Subscription}
    {plan plan' : MembershipPlanConfig} (h : d.Benefits customerId sub s plan)
    (h' : d.Benefits customerId sub' s' plan') : sub' = sub ∧ s' = s ∧ plan' = plan := by
  cases h.active.symm.trans h'.active
  cases h.config.symm.trans h'.config
  exact ⟨rfl, rfl, rfl⟩

/-- A quote without a benefit is charged as shown. -/
lemma commitsAsShown_of_no_benefit {d : Db} {quoteId : Id} {quote : Quote}
    (h : quote.subscriptionId = none) : CommitsAsShown d quoteId quote := by
  refine ⟨d, ?_⟩
  rw [commitBenefit, h]
  rfl

/-- A quote with a benefit, after which the membership stays what it was. -/
lemma commitsAsShown_benefit_iff (env : Env) (caseId scopeId quoteId : Id) {dto : CreateQuoteDto}
    {d d₂ : Db} {customerId sub : Id} {s : Subscription} {plan : MembershipPlanConfig}
    {zone : PricingZone} (t : Time) (hb : d.Benefits customerId sub s plan) {fee rest : ℤ}
    (hfee : dto.serviceFeeTotal = fee) (hrest : dto.nonServiceFeeTotal = rest)
    (hfx : 0 < s.fxRate.toRat)
    (hsame : SameMembership (quoteRow env caseId scopeId dto
      (some (d.benefitOf sub s plan dto.serviceFeeTotal zone)) t) d d₂) :
    CommitsAsShown d₂ quoteId (quoteRow env caseId scopeId dto
        (some (d.benefitOf sub s plan dto.serviceFeeTotal zone)) t) ↔
      ¬ (zone ≠ .other ∧ 0 < d.availableNgn sub s ∧
        d.availableNgn sub s < fee - discountOf plan fee ∧
        ∃ n : ℤ, d.availableNgn sub s = n + 1 / 2) := by
  obtain ⟨hs, hactive⟩ := hb.get?
  obtain ⟨hsub, hledger⟩ := hsame sub rfl
  -- The subscription that the commitment finds.
  obtain ⟨s₂, hs₂, hs₂eq⟩ : ∃ s₂, d₂.subscription.get? sub = some s₂ ∧
      (s₂.status, s₂.fxRate) = (s.status, s.fxRate) := by
    rw [hs, Option.map_some] at hsub
    exact Option.map_eq_some_iff.mp hsub
  obtain ⟨hstatus, hrate⟩ := Prod.mk.inj hs₂eq
  have hbalance : ScLedgerService.balanceUsd d₂.scLedgerEntry.values sub =
      ScLedgerService.balanceUsd d.scLedgerEntry.values sub := by
    rw [ScLedgerService.balanceUsd, ScLedgerService.balanceUsd, hledger]
  obtain ⟨D, hD⟩ : ∃ D, D = discountOf plan fee := ⟨_, rfl⟩
  obtain ⟨credit, hcredit⟩ : ∃ credit, credit = d.creditOf sub s (fee - D : ℤ) zone := ⟨_, rfl⟩
  have hrow : d.benefitOf sub s plan dto.serviceFeeTotal zone =
      { subscriptionId := sub, discountPercent := plan.discountPercent.toRat, discountAmount := D
        scAppliedNgn := roundHalfUp credit
        finalAmount := max 0 (roundHalfUp ((fee - D : ℤ) - credit)) } := by
    rw [hcredit, hD, hfee]
    push_cast
    rfl
  rw [hrow]
  have hdebited : debitedNgn (ScLedgerService.balanceUsd d₂.scLedgerEntry.values sub)
      s₂.fxRate.toRat (roundHalfUp credit) = roundHalfUp credit := by
    rw [hbalance, hrate, hcredit, Db.creditOf]
    split_ifs
    · have hzero : roundHalfUp 0 = 0 := by exact_mod_cast roundHalfUp_intCast 0
      rw [hzero, debitedNgn_zero]
    · exact debitedNgn_eq hfx (fee - D)
  have hrun := commitBenefit_active d₂ quoteId (quoteRow env caseId
    scopeId dto (some ⟨sub, plan.discountPercent.toRat, D, roundHalfUp credit,
      max 0 (roundHalfUp ((fee - D : ℤ) - credit))⟩) t) rfl hs₂ (hstatus.trans hactive) rfl
  rw [hdebited] at hrun
  obtain ⟨hshown, hcharged⟩ := quoteRow_amounts env caseId scopeId
    ⟨sub, plan.discountPercent.toRat, D, roundHalfUp credit,
      max 0 (roundHalfUp ((fee - D : ℤ) - credit))⟩ t hfee hrest (roundHalfUp credit)
  rw [commitsAsShown_iff hrun hshown, hshown, hcharged, Int.cast_inj, add_left_inj]
  dsimp only
  rw [hcredit, Db.creditOf]
  split_ifs with hzone
  · have hzero : roundHalfUp 0 = 0 := by exact_mod_cast roundHalfUp_intCast 0
    rw [sub_zero, roundHalfUp_intCast, hzero, sub_zero]
    exact iff_of_true rfl fun h => h.1 hzone
  · rw [eq_comm, fees_eq_iff, hD]
    push_cast
    simp [hzone]

/-- **The commitment charges the price that the quote shows**, as long as the membership is
what it was, exactly when the credit that the quote takes does not end in half a naira. -/
theorem commit_agrees_iff (env : Env) (actor : AuthenticatedUser) (caseId : Id)
    (dto : CreateQuoteDto) (hwhole : dto.WholeNaira) (d d₁ d₂ : Db) (quoteId : Id)
    (hissue : (createQuote env actor caseId dto).run d = (.ok quoteId, d₁))
    (hfx : ∀ i s, d.subscription.get? i = some s → 0 < s.fxRate.toRat) (quote : Quote)
    (hquote : d₁.quote.get? quoteId = some quote) (hsame : SameMembership quote d₁ d₂) :
    CommitsAsShown d₂ quoteId quote ↔ ¬ CreditEndsInHalf d caseId dto := by
  obtain ⟨fee, hfee⟩ : ∃ fee : ℤ, dto.serviceFeeTotal = fee := hwhole.exists_sum _
  obtain ⟨rest, hrest⟩ : ∃ rest : ℤ, dto.nonServiceFeeTotal = rest := hwhole.exists_sum _
  obtain ⟨c, scopeId, scope, benefit, hc, hscope, hbenefit, rfl, rfl⟩ := createQuote_ok hissue
  have hrow : quote = quoteRow env caseId scopeId dto benefit d.clock := by
    have hget : (d.quote.insert (quoteRow env caseId scopeId dto benefit d.clock)).get?
        d.quote.next = some quote := hquote
    rw [Table.get?_insert_self] at hget
    exact (Option.some.inj hget).symm
  subst hrow
  -- The case and its scope are the ones of the condition.
  have hcondition : CreditEndsInHalf d caseId dto ↔
      (c.tier = .concierge ∧ 0 < dto.serviceFeeTotal) ∧ scope.zone ≠ .other ∧
        ∃ sub s plan, d.Benefits c.customerId sub s plan ∧ 0 < d.availableNgn sub s ∧
          d.availableNgn sub s < dto.serviceFeeTotal - discountOf plan dto.serviceFeeTotal ∧
          ∃ n : ℤ, d.availableNgn sub s = n + 1 / 2 := by
    constructor
    · rintro ⟨c', scopeId', scope', sub, s, plan, hc', hscope', hb, hzone, h⟩
      cases hc.symm.trans hc'
      cases hscope.symm.trans hscope'
      exact ⟨hb, hzone, sub, s, plan, h⟩
    · rintro ⟨hb, hzone, sub, s, plan, h⟩
      exact ⟨c, scopeId, scope, sub, s, plan, hc, hscope, hb, hzone, h⟩
  rw [hcondition]
  rw [BenefitFor] at hbenefit
  split_ifs at hbenefit with hb
  · rcases Db.previewOf_eq_ok d c.customerId dto.serviceFeeTotal scope.zone hbenefit with
      ⟨rfl, hnone⟩ | ⟨sub, s, plan, hmember, rfl⟩
    · refine iff_of_true (commitsAsShown_of_no_benefit rfl) ?_
      rintro ⟨-, -, sub, s, plan, hmember, -⟩
      exact hnone sub s plan hmember
    · have hfx' := hfx sub s hmember.get?.1
      rw [commitsAsShown_benefit_iff env caseId scopeId d.quote.next d.clock hmember hfee hrest
        hfx' hsame, hfee]
      refine not_congr ⟨?_, ?_⟩
      · rintro ⟨hzone, h⟩
        exact ⟨⟨hb.1, hfee ▸ hb.2⟩, hzone, sub, s, plan, hmember, h⟩
      · rintro ⟨-, hzone, sub', s', plan', hmember', h⟩
        obtain ⟨rfl, rfl, rfl⟩ := hmember.unique hmember'
        exact ⟨hzone, h⟩
  · subst hbenefit
    exact iff_of_true (commitsAsShown_of_no_benefit rfl) fun h => hb h.1

/-- A case under review with a confirmed scope in Lagos, of a customer of the concierge tier
whose credit is one cent. -/
def centDb (fxRate : Rate) : Db where
  clock := 100
  customer := Table.empty.insert { userId := 7 }
  serviceCase := Table.empty.insert
    { customerId := 0, serviceType := .propertyInspection, description := "Site visit"
      location := "Lekki", tier := .concierge, status := .underReview }
  caseScope := Table.empty.insert
    { caseId := 0, version := 1, zone := .lagos, objective := "Site visit", tasks := ["Visit"]
      createdById := 1, confirmedById := some 7, confirmedAt := some 50 }
  subscription := Table.empty.insert { customerId := 0, startedAt := 0, fxRate }
  membershipPlanConfig := Table.empty.insert ⟨.priority, ⟨9900⟩, ⟨5000⟩, ⟨1000⟩, 2⟩
  scLedgerEntry := (Table.empty.insert
      { subscriptionId := 0, type := .grant, amountUsd := ⟨5000⟩ }).insert
    { subscriptionId := 0, type := .debit, amountUsd := ⟨4999⟩ }

/-- A quote of a fee of 10000 naira. -/
def feeDto : CreateQuoteDto := { lines := [⟨.asojuServiceFee, "Site visit", 10000⟩] }

/-- The database after that quote is issued. -/
def feeQuotedDb (fxRate : Rate) : Db :=
  (createQuote {} ⟨1, .caseManager⟩ 0 feeDto).exec (centDb fxRate)

/-- Its row. -/
def feeQuote (fxRate : Rate) : Quote :=
  quoteRow {} 0 0 feeDto (some ⟨0, 10, 1000, roundHalfUp (fxRate.toRat / 100),
    roundHalfUp (9000 - fxRate.toRat / 100)⟩) 100

lemma feeDto_wholeNaira : feeDto.WholeNaira := by
  intro l hl
  obtain rfl := List.mem_singleton.mp hl
  exact ⟨10000, by norm_num⟩

/-- At a rate of 1600 naira the cent is worth 16 naira. -/
theorem commit_agrees_iff_centDb :
    CommitsAsShown (feeQuotedDb ⟨16000000⟩) 0 (feeQuote ⟨16000000⟩) ↔
      ¬ CreditEndsInHalf (centDb ⟨16000000⟩) 0 feeDto :=
  commit_agrees_iff {} ⟨1, .caseManager⟩ 0 feeDto feeDto_wholeNaira (centDb ⟨16000000⟩)
    (feeQuotedDb ⟨16000000⟩) (feeQuotedDb ⟨16000000⟩) 0
    (Prod.ext (by decide +kernel) rfl)
    (fun i s hs => by
      have hs' := (Table.mem_values_iff _).mpr ⟨i, hs⟩
      obtain rfl := List.mem_singleton.mp hs'
      decide +kernel)
    (feeQuote ⟨16000000⟩) (by decide +kernel) (fun _ _ => ⟨rfl, rfl⟩)

/-- At a rate of 1650 naira it is worth 16.50 naira: the quote shows 8984 naira, and its
commitment charges 8983. -/
theorem commit_adjusts :
    (createQuote {} ⟨1, .caseManager⟩ 0 feeDto).run (centDb ⟨16500000⟩) =
        (.ok 0, feeQuotedDb ⟨16500000⟩) ∧
      (feeQuotedDb ⟨16500000⟩).quote.get? 0 = some (feeQuote ⟨16500000⟩) ∧
      ¬ CommitsAsShown (feeQuotedDb ⟨16500000⟩) 0 (feeQuote ⟨16500000⟩) := by
  refine ⟨Prod.ext (by decide +kernel) rfl, by decide +kernel, ?_⟩
  rintro ⟨d', hrun⟩
  have hadjusted : ((commitBenefit 0 (feeQuote ⟨16500000⟩)).run (feeQuotedDb ⟨16500000⟩)).1 =
      .ok ⟨8983, true⟩ := by decide +kernel
  rw [hrun] at hadjusted
  exact Bool.false_ne_true (congrArg CommitResult.adjusted (Except.ok.inj hadjusted))

end Asoju
