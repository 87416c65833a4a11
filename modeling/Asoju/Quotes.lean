/-
Quotes: how they are issued, accepted and expire.

`acceptQuote` commits three times: the debit of the service credit, the array transaction
that marks the quote and creates its invoice, and the transition of the case.  The lemma
`acceptQuote_run` keeps these three apart.
-/
import Asoju.Cases
import Asoju.Membership

namespace Asoju

open Lib

/-- A quote with its case and the user of the customer. -/
structure QuoteDetail where
  quote : Quote
  serviceCase : ServiceCase
  userId : Id
deriving DecidableEq, Repr

namespace Db

variable (d : Db)

def quoteDetail (quoteId : Id) : Option QuoteDetail := do
  let quote ← d.quote.get? quoteId
  let serviceCase ← d.serviceCase.get? quote.caseId
  let customer ← d.customer.get? serviceCase.customerId
  return ⟨quote, serviceCase, customer.userId⟩

/-- The scope of the case with the highest version. -/
def latestScope (caseId : Id) : Option (Id × CaseScope) :=
  (d.caseScope.rows.filter fun p => p.2.caseId = caseId).foldl
    (fun best p => match best with
      | some b => if b.2.version < p.2.version then some p else some b
      | none => some p) none

end Db

namespace CommerceService

/-! ## Issuing a quote -/

structure CreateQuoteLineDto where
  category : QuoteLineCategory
  label : String
  amount : ℚ
deriving DecidableEq, Repr

structure CreateQuoteDto where
  lines : List CreateQuoteLineDto
  currency : Option String := none
  priceBookId : Option Id := none
deriving DecidableEq, Repr

/-- The sum of the lines that the membership benefit applies to. -/
def CreateQuoteDto.serviceFeeTotal (dto : CreateQuoteDto) : ℚ :=
  ((dto.lines.filter fun l => l.category = .asojuServiceFee).map (·.amount)).sum

/-- The sum of the lines that pass through untouched. -/
def CreateQuoteDto.nonServiceFeeTotal (dto : CreateQuoteDto) : ℚ :=
  ((dto.lines.filter fun l => l.category ≠ .asojuServiceFee).map (·.amount)).sum

/-- The row of a new quote. -/
def quoteRow (env : Env) (caseId scopeId : Id) (dto : CreateQuoteDto)
    (benefit : Option MembershipService.QuoteBenefitPreview) (t : Time) : Quote :=
  let serviceFeeTotal := dto.serviceFeeTotal
  let finalServiceFee := (benefit.map fun b => (b.finalAmount : ℚ)).getD serviceFeeTotal
  let fxRate := if 0 < serviceFeeTotal then some (usdToNgnRate env) else none
  { caseId
    amount := money (finalServiceFee + dto.nonServiceFeeTotal)
    currency := dto.currency.getD "NGN"
    lines := dto.lines.map fun l => ⟨l.category, l.label, money l.amount⟩
    expiresAt := some (dateOf (t + hoursMs (quoteValidityHours env)))
    createdAt := t
    priceBookId := dto.priceBookId
    subscriptionId := benefit.map (·.subscriptionId)
    baseAmount := some (money serviceFeeTotal)
    nonServiceFeeAmount := some (money dto.nonServiceFeeTotal)
    discountPercent := benefit.map fun b => money b.discountPercent
    discountAmount := benefit.map fun b => money b.discountAmount
    scAppliedNgn := benefit.map fun b => money b.scAppliedNgn
    scopeId := some scopeId
    lockedFxRate := fxRate.map (Decimal.store 4)
    sourceCurrency := fxRate.map fun _ => "USD"
    fxLockExpiry := fxRate.map fun _ => dateOf (t + hoursMs (fxLockHours env)) }

/-- Issues a quote for a case under review whose latest scope is confirmed. -/
def createQuote (env : Env) (actor : AuthenticatedUser) (caseId : Id) (dto : CreateQuoteDto) :
    Svc Id := do
  let some serviceCase ← Prisma.findUnique .serviceCase caseId
    | throw (.notFound "Case not found")
  if serviceCase.status ≠ .underReview then
    throw (.badRequest s!"Cannot quote a case in status {serviceCase.status.name}")
  let some (scopeId, latestScope) ← Prisma.query .caseScope (·.latestScope caseId)
    | throw (.badRequest ("This case has no scope yet — create one and have the customer "
        ++ "confirm it before quoting"))
  if latestScope.confirmedAt.isNone then
    throw (.badRequest ("The customer has not confirmed the current scope yet — cannot quote "
      ++ "until they do"))
  let benefit ←
    if serviceCase.tier = .concierge ∧ 0 < dto.serviceFeeTotal then
      MembershipService.previewBenefit serviceCase.customerId serviceCase.tier
        dto.serviceFeeTotal latestScope.zone
    else pure none
  let quote ← Prisma.create .quote (quoteRow env caseId scopeId dto benefit)
  let _ ← CasesService.transitionCase actor caseId .quoted (some "Quote issued")
  return quote

/-! ## Accepting a quote -/

/-- The quote can no longer be accepted at the time `t`. -/
def isExpired (quote : Quote) (t : Time) : Bool :=
  quote.expiresAt.any fun expiresAt => expiresAt < t

/-- The writes of the array transaction: the quote is marked as accepted, with its new
amount if that differs, and its invoice is created. -/
def acceptWrites (quoteId : Id) (quote : Quote) (r : MembershipService.CommitResult) (d : Db) :
    Db :=
  (d.modifyRow .quote quoteId fun q =>
      { q with acceptedAt := some d.clock
               amount := if r.adjusted then money r.finalAmount else q.amount }).insertRow
    .invoice
      { caseId := quote.caseId, quoteId := some quoteId, amount := money r.finalAmount
        currency := quote.currency }

/-- The customer accepts a quote: the benefit is committed, the invoice created and the
case moved on. -/
def acceptQuote (actor : AuthenticatedUser) (quoteId : Id) : Svc Id := do
  let some ⟨quote, _, userId⟩ ← Prisma.query .quote (·.quoteDetail quoteId)
    | throw (.notFound "Quote not found")
  if userId ≠ actor.id then throw (.badRequest "Not authorised for this quote")
  if quote.acceptedAt.isSome then throw (.badRequest "Quote already accepted")
  let now ← Prisma.now
  if isExpired quote now then
    throw (.badRequest
      "This quote has expired — request a new quote for the current terms")
  let result ← MembershipService.commitBenefit quoteId quote
  let invoiceId ← Prisma.transaction (acceptWrites quoteId quote result) (·.invoice.next)
  let _ ← CasesService.transitionCase actor quote.caseId .awaitingPayment
    (some "Quote accepted")
  return invoiceId

/-! ## Expiry -/

/-- Reopens the case of one quote that expired unaccepted, if it is still quoted. -/
def expireQuote (caseId : Id) : Svc Unit := do
  let current ← Prisma.findUnique .serviceCase caseId
  match current.filter fun c => c.status = .quoted with
  | none => return
  | some _ =>
      let _ ← CasesService.systemTransitionCase caseId .underReview
        (some "Quote expired unaccepted")

/-- Reopens the quoted cases that have an expired unaccepted quote. -/
def runQuoteExpirySweep : Svc ℕ := do
  let now ← Prisma.now
  let staleQuotes ← Prisma.query .quote fun d =>
    d.quote.values.filter fun q => q.acceptedAt.isNone ∧ isExpired q now ∧
      (d.serviceCase.get? q.caseId).any fun c => c.status = .quoted
  staleQuotes.forM fun q => expireQuote q.caseId
  return staleQuotes.length

end CommerceService

/-! ## The acceptance in closed form -/

/-- A commitment never fails, and writes nothing or one entry of the SC ledger. -/
lemma MembershipService.commitBenefit_run (quoteId : Id) (quote : Quote) (d : Db) :
    ∃ r d', (commitBenefit quoteId quote).run d = (.ok r, d') ∧
      (d' = d ∨ ∃ e, d' = d.insertRow .scLedgerEntry e) := by
  rw [commitBenefit]
  cases hq : quote.subscriptionId with
  | none => exact ⟨_, d, rfl, Or.inl rfl⟩
  | some s =>
    cases hs : (d.subscription.get? s).filter fun s => s.status = .active with
    | none =>
      refine ⟨⟨lapsedAmount quote, isAdjusted quote (lapsedAmount quote)⟩, d, ?_, Or.inl rfl⟩
      simp [Prog.run_bind, hs]
    | some subscription =>
      simp only [Prog.run_bind, Prisma.run_findUnique, Rel.subscription_get, hs,
        ScLedgerService.debit_run]
      split_ifs
      · exact ⟨_, d, rfl, Or.inl rfl⟩
      · exact ⟨_, _, rfl, Or.inr ⟨_, rfl⟩⟩

namespace CommerceService

/-- The benefit of a new quote, when its preview does not fail: only a case of the concierge
tier with a positive fee has one. -/
def BenefitFor (d : Db) (c : ServiceCase) (dto : CreateQuoteDto) (zone : PricingZone)
    (benefit : Option MembershipService.QuoteBenefitPreview) : Prop :=
  if c.tier = .concierge ∧ 0 < dto.serviceFeeTotal then
    d.previewOf c.customerId dto.serviceFeeTotal zone = .ok benefit
  else benefit = none

/-- A quote is refused, or it is issued and its case moved on. -/
lemma createQuote_run (env : Env) (actor : AuthenticatedUser) (caseId : Id) (dto : CreateQuoteDto)
    (d : Db) :
    (∃ e, (createQuote env actor caseId dto).run d = (.error e, d)) ∨
      ∃ c scopeId scope benefit, d.serviceCase.get? caseId = some c ∧ c.status = .underReview ∧
        d.latestScope caseId = some (scopeId, scope) ∧ scope.confirmedAt.isSome = true ∧
        BenefitFor d c dto scope.zone benefit ∧ (createQuote env actor caseId dto).run d = (.ok d.quote.next,
          (d.insertRow .quote (quoteRow env caseId scopeId dto benefit d.clock)).moveCase caseId c
            .quoted c.heldFromStatus (some actor.id) (some "Quote issued")) := by
  have hfind : (Prisma.findUnique .serviceCase caseId).run d =
      (.ok (d.serviceCase.get? caseId), d) := rfl
  have hscopes : (Prisma.query .caseScope (·.latestScope caseId)).run d =
      (.ok (d.latestScope caseId), d) := rfl
  rw [createQuote, Prog.run_bind_ok hfind]
  cases hc : d.serviceCase.get? caseId with
  | none => exact Or.inl ⟨_, rfl⟩
  | some c =>
    dsimp only
    by_cases hs : c.status ≠ .underReview
    · rw [if_pos hs]
      exact Or.inl ⟨_, rfl⟩
    rw [if_neg hs, Prog.run_bind_ok hscopes]
    rw [not_not] at hs
    cases hscope : d.latestScope caseId with
    | none => exact Or.inl ⟨_, rfl⟩
    | some p =>
      obtain ⟨scopeId, scope⟩ := p
      dsimp only
      by_cases hconfirmed : scope.confirmedAt.isNone = true
      · rw [if_pos hconfirmed]
        exact Or.inl ⟨_, rfl⟩
      rw [if_neg hconfirmed]
      have hsome : scope.confirmedAt.isSome = true := by
        rwa [Option.isNone_iff_eq_none, ← ne_eq, ← Option.isSome_iff_ne_none] at hconfirmed
      -- The case is still under review after the quote is written.
      have hissue : ∀ benefit, Prog.run (do
          let quote ← Prisma.create .quote (quoteRow env caseId scopeId dto benefit)
          let _ ← CasesService.transitionCase actor caseId .quoted (some "Quote issued")
          return quote) d =
            (.ok d.quote.next,
              (d.insertRow .quote (quoteRow env caseId scopeId dto benefit d.clock)).moveCase
                caseId c .quoted c.heldFromStatus (some actor.id) (some "Quote issued")) := by
        intro benefit
        have hc' : (d.insertRow .quote
            (quoteRow env caseId scopeId dto benefit d.clock)).serviceCase.get? caseId =
            some c := hc
        have hmem : .quoted ∈ transitions c.status := by rw [hs]; decide
        rw [Prog.run_bind_ok (Prisma.run_create ..),
          Prog.run_bind_ok (CasesService.transitionCase_run_of_mem hc' hmem ..)]
        rfl
      by_cases hb : c.tier = .concierge ∧ 0 < dto.serviceFeeTotal
      · rw [if_pos hb, Prog.run_bind, hb.1, previewBenefit_run]
        cases hpreview : d.previewOf c.customerId dto.serviceFeeTotal scope.zone with
        | error e => exact Or.inl ⟨_, rfl⟩
        | ok benefit =>
          dsimp only
          rw [hissue]
          refine Or.inr ⟨c, scopeId, scope, benefit, rfl, hs, rfl, hsome, ?_, rfl⟩
          rw [BenefitFor, if_pos hb, hpreview]
      · rw [if_neg hb, Prog.run_bind_ok (Prog.run_pure ..), hissue]
        refine Or.inr ⟨c, scopeId, scope, none, rfl, hs, rfl, hsome, ?_, rfl⟩
        rw [BenefitFor, if_neg hb]

/-- What a quote that is issued looks like, and what else its issue changes. -/
lemma createQuote_ok {env : Env} {actor : AuthenticatedUser} {caseId quoteId : Id}
    {dto : CreateQuoteDto} {d d₁ : Db}
    (h : (createQuote env actor caseId dto).run d = (.ok quoteId, d₁)) :
    ∃ c scopeId scope benefit, d.serviceCase.get? caseId = some c ∧
      d.latestScope caseId = some (scopeId, scope) ∧ BenefitFor d c dto scope.zone benefit ∧
      quoteId = d.quote.next ∧
      d₁ = (d.insertRow .quote (quoteRow env caseId scopeId dto benefit d.clock)).moveCase caseId
        c .quoted c.heldFromStatus (some actor.id) (some "Quote issued") := by
  rcases createQuote_run env actor caseId dto d with
    ⟨e, he⟩ | ⟨c, scopeId, scope, benefit, hc, -, hscope, -, hbenefit, hrun⟩
  · rw [he] at h
    cases h
  · rw [hrun] at h
    cases h
    exact ⟨c, scopeId, scope, benefit, hc, hscope, hbenefit, rfl, rfl⟩

/-- The checks that `acceptQuote` makes before its first write. -/
structure Acceptable (d : Db) (actor : AuthenticatedUser) (quoteId : Id) (x : QuoteDetail) :
    Prop where
  found : d.quoteDetail quoteId = some x
  owner : x.userId = actor.id
  notAccepted : x.quote.acceptedAt = none
  notExpired : isExpired x.quote d.clock = false

lemma Acceptable.rows {d : Db} {actor : AuthenticatedUser} {quoteId : Id} {x : QuoteDetail}
    (h : Acceptable d actor quoteId x) :
    d.quote.get? quoteId = some x.quote ∧
      d.serviceCase.get? x.quote.caseId = some x.serviceCase := by
  have hx := h.found
  simp only [Db.quoteDetail, Option.bind_eq_bind, Option.bind_eq_some_iff] at hx
  obtain ⟨quote, hq, c, hc, customer, -, hx⟩ := hx
  cases hx
  exact ⟨hq, hc⟩

lemma awaitingPayment_mem_transitions_iff (s : CaseStatus) :
    .awaitingPayment ∈ transitions s ↔ s = .quoted := by
  cases s <;> decide

/-- A call that fails one of the first checks writes nothing. -/
lemma acceptQuote_run_of_not {d : Db} {actor : AuthenticatedUser} {quoteId : Id}
    (h : ∀ x, ¬ Acceptable d actor quoteId x) :
    ∃ e, (acceptQuote actor quoteId).run d = (.error e, d) := by
  rw [acceptQuote]
  cases hx : d.quoteDetail quoteId with
  | none => exact ⟨_, by simp [Prog.run_bind, hx]; rfl⟩
  | some x =>
    by_cases hu : x.userId = actor.id
    · cases ha : x.quote.acceptedAt with
      | some t => exact ⟨_, by simp [Prog.run_bind, hx, hu, ha]; rfl⟩
      | none =>
        cases he : isExpired x.quote d.clock with
        | true => exact ⟨_, by simp [Prog.run_bind, hx, hu, ha, he]; rfl⟩
        | false => exact absurd ⟨hx, hu, ha, he⟩ (h x)
    · exact ⟨_, by simp [Prog.run_bind, hx, hu]; rfl⟩

/-- A call that passes them commits the benefit in `d₁`, marks the quote and creates its
invoice, and only then looks at the status of the case. -/
lemma acceptQuote_run {d : Db} {actor : AuthenticatedUser} {quoteId : Id} {x : QuoteDetail}
    (h : Acceptable d actor quoteId x) :
    ∃ r d₁, (d₁ = d ∨ ∃ e, d₁ = d.insertRow .scLedgerEntry e) ∧
      (acceptQuote actor quoteId).run d =
        if x.serviceCase.status = .quoted then
          (.ok d₁.invoice.next,
            (acceptWrites quoteId x.quote r d₁).moveCase x.quote.caseId x.serviceCase
              .awaitingPayment x.serviceCase.heldFromStatus (some actor.id)
              (some "Quote accepted"))
        else
          (.error (invalidTransition x.serviceCase.status .awaitingPayment),
            acceptWrites quoteId x.quote r d₁) := by
  obtain ⟨-, hc⟩ := h.rows
  obtain ⟨hx, hu, ha, he⟩ := h
  obtain ⟨r, d₁, hrun, hd₁⟩ := MembershipService.commitBenefit_run quoteId x.quote d
  refine ⟨r, d₁, hd₁, ?_⟩
  have hc₁ : (acceptWrites quoteId x.quote r d₁).serviceCase.get? x.quote.caseId =
      some x.serviceCase := by
    rcases hd₁ with rfl | ⟨e, rfl⟩ <;> exact hc
  rw [acceptQuote]
  by_cases hs : x.serviceCase.status = .quoted
  · simp [Prog.run_bind, hx, hu, ha, he, hrun, CasesService.transitionCase,
      CasesService.applyTransition_run, hc₁, hs, transitions]
  · have hmem : .awaitingPayment ∉ transitions x.serviceCase.status :=
      fun hmem => hs ((awaitingPayment_mem_transitions_iff _).mp hmem)
    simp [Prog.run_bind, hx, hu, ha, he, hrun, CasesService.transitionCase,
      CasesService.applyTransition_run, hc₁, hs, hmem]

/-- What an acceptance can do. -/
lemma acceptQuote_exec (d : Db) (actor : AuthenticatedUser) (quoteId : Id) :
    (acceptQuote actor quoteId).exec d = d ∨
      ∃ x r d₁, Acceptable d actor quoteId x ∧
        (d₁ = d ∨ ∃ e, d₁ = d.insertRow .scLedgerEntry e) ∧
        ((x.serviceCase.status = .quoted ∧ (acceptQuote actor quoteId).exec d =
            (acceptWrites quoteId x.quote r d₁).moveCase x.quote.caseId x.serviceCase
              .awaitingPayment x.serviceCase.heldFromStatus (some actor.id)
              (some "Quote accepted")) ∨
          (x.serviceCase.status ≠ .quoted ∧
            (acceptQuote actor quoteId).exec d = acceptWrites quoteId x.quote r d₁)) := by
  by_cases hx : ∃ x, Acceptable d actor quoteId x
  · obtain ⟨x, hx⟩ := hx
    obtain ⟨r, d₁, hd₁, hrun⟩ := acceptQuote_run hx
    refine Or.inr ⟨x, r, d₁, hx, hd₁, ?_⟩
    rw [Prog.exec, hrun]
    by_cases hs : x.serviceCase.status = .quoted
    · exact Or.inl ⟨hs, by rw [if_pos hs]⟩
    · exact Or.inr ⟨hs, by rw [if_neg hs]⟩
  · obtain ⟨e, hrun⟩ := acceptQuote_run_of_not fun x h => hx ⟨x, h⟩
    exact Or.inl (by rw [Prog.exec, hrun])

end CommerceService

end Asoju
