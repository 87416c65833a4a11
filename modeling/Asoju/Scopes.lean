/-
Scopes: what a customer agrees to before a price is named.

A scope is never changed: a revision is a new version, which starts unconfirmed.  The customer of
the case confirms the latest version, and confirming it again changes nothing.  As soon as that is
done, a case that has been converted automatically is quoted on the spot, if the price book has a
price for it.
-/
import Asoju.Automation
import Asoju.CaseAccess
import Asoju.Lib.Sorting
import Asoju.Quotes

namespace Asoju

open Lib

/-! ## Zones -/

def southWestStates : List String := ["oyo", "ogun", "osun", "ondo", "ekiti"]

/-- The pricing zone of a location; `toLowerCase` is a parameter. -/
def classifyZone (toLowerCase : String → String) (location : String) : PricingZone :=
  let normalized := toLowerCase location
  if Automation.includes normalized "lagos" then .lagos
  else if southWestStates.any fun state => Automation.includes normalized state then .southWest
  else .other

example : classifyZone id "ikeja, lagos" = .lagos ∧ classifyZone id "ibadan, oyo" = .southWest ∧
    classifyZone id "abuja" = .other := by decide +kernel

/-! ## The scope service -/

structure CreateScopeDto where
  objective : String
  zone : Option PricingZone := none
  tasks : List String
  deliverables : Option (List String) := none
  exclusions : Option (List String) := none
  evidenceRequirements : Option (List String) := none
deriving DecidableEq, Repr

namespace ScopeService

/-- The row of a new version. -/
def scopeRow (toLowerCase : String → String) (actor : AuthenticatedUser) (caseId : Id)
    (serviceCase : ServiceCase) (version : ℕ) (dto : CreateScopeDto) : CaseScope where
  caseId := caseId
  version := version
  zone := dto.zone.getD (classifyZone toLowerCase serviceCase.location)
  objective := dto.objective
  tasks := dto.tasks
  deliverables := dto.deliverables.getD []
  exclusions := dto.exclusions.getD []
  evidenceRequirements := dto.evidenceRequirements.getD []
  createdById := actor.id

/-- Inserts a new version; the versions of a case are unique. -/
def createOrRevise (toLowerCase : String → String) (actor : AuthenticatedUser) (caseId : Id)
    (dto : CreateScopeDto) : Svc Id := do
  let some serviceCase ← Prisma.findUnique .serviceCase caseId
    | throw (.notFound "Case not found")
  let last ← Prisma.query .caseScope (·.latestScope caseId)
  let version := (last.map fun p => p.2.version).getD 0 + 1
  Prisma.createUnique .caseScope
    (fun d => d.caseScope.values.any fun s => s.caseId = caseId ∧ s.version = version)
    fun _ => scopeRow toLowerCase actor caseId serviceCase version dto

/-- The user is the customer of the case. -/
def isCaseOwner (d : Db) (actor : AuthenticatedUser) (serviceCase : ServiceCase) : Bool :=
  (d.customer.get? serviceCase.customerId).any fun c => c.userId = actor.id

/-- The owner of the case confirms the latest version; confirming it twice is not an error. -/
def confirm (actor : AuthenticatedUser) (caseId : Id) : Svc CaseScope := do
  let some serviceCase ← Prisma.findUnique .serviceCase caseId
    | throw (.notFound "Case not found")
  let owner ← Prisma.query .customer fun d => isCaseOwner d actor serviceCase
  if owner = false then throw (.forbidden "Only the case owner can confirm scope")
  let some (latestId, latest) ← Prisma.query .caseScope (·.latestScope caseId)
    | throw (.badRequest "No scope has been proposed for this case yet")
  if latest.confirmedAt.isSome then return latest
  Prisma.update .caseScope latestId fun t s =>
    { s with confirmedById := some actor.id, confirmedAt := some t }

end ScopeService

/-! ## The pricing engine -/

/-- A price for a case. -/
structure ServiceFeeLine where
  priceBookId : Id
  priceRuleId : Id
  zone : PricingZone
  label : String
  amountUsd : ℚ
  fxRate : ℚ
  amountNgn : ℤ
  multiplierApplied : Bool
deriving DecidableEq, Repr

/-- A price, or the reason why there is none. -/
abbrev PricingResult : Type := Except String ServiceFeeLine

namespace Db

variable (d : Db)

def activePriceBook : Option (Id × PriceBook) := d.priceBook.rows.find? fun p => p.2.active

/-- The price with the highest priority for the service in the zone. -/
def priceRuleFor (priceBookId : Id) (serviceType : ServiceType) (zone : PricingZone) :
    Option (Id × PriceRule) :=
  (sortDesc (fun p : Id × PriceRule => p.2.priority)
    (d.priceRule.rows.filter fun p => p.2.priceBookId = priceBookId ∧
      p.2.serviceType = serviceType ∧ p.2.zone = zone ∧ p.2.active)).head?

def multiplierFor (priceBookId : Id) (casePriority : CasePriority) : Option MultiplierRule :=
  d.multiplierRule.values.find? fun m => m.priceBookId = priceBookId ∧ m.type = .urgency ∧
    m.casePriority = some casePriority ∧ m.active

end Db

namespace PricingEngineService

/-- The fee of a rule: cents first, whole naira then. -/
def priceOf (env : Env) (priceBookId : Id) (zone : PricingZone) (rule : Id × PriceRule)
    (multiplierRule : Option MultiplierRule) : ServiceFeeLine :=
  let multiplier := (multiplierRule.map fun m => m.multiplier.toRat).getD 1
  let amountUsd : ℚ := roundHalfUp (rule.2.value.toRat * multiplier * 100) / 100
  let fxRate := usdToNgnRate env
  { priceBookId
    priceRuleId := rule.1
    zone
    label := rule.2.label
    amountUsd
    fxRate
    amountNgn := roundHalfUp (amountUsd * fxRate)
    multiplierApplied := multiplier ≠ 1 }

def calculateServiceFeeLine (env : Env) (caseId : Id) : Svc PricingResult := do
  let some serviceCase ← Prisma.findUnique .serviceCase caseId
    | throw (.notFound "Case not found")
  let some (_, latestScope) ← Prisma.query .caseScope (·.latestScope caseId)
    | throw (.badRequest "This case has no scope yet — create one before calculating a price")
  if latestScope.confirmedAt.isNone then
    throw (.badRequest ("The customer has not confirmed the current scope yet — cannot price "
      ++ "until they do"))
  let some (priceBookId, _) ← Prisma.query .priceBook (·.activePriceBook)
    | return .error "No active price book is configured."
  if latestScope.zone = .other then
    return .error ("This case is in an unpriced zone (\"Other Locations\") — set the service fee "
      ++ "manually.")
  let some rule ← Prisma.query .priceRule
      (·.priceRuleFor priceBookId serviceCase.serviceType latestScope.zone)
    | return .error
        s!"No price is configured for {serviceCase.serviceType.name} in {latestScope.zone.name}."
  let multiplierRule ← Prisma.query .multiplierRule
    (·.multiplierFor priceBookId serviceCase.priority)
  return .ok (priceOf env priceBookId latestScope.zone rule multiplierRule)

end PricingEngineService

/-! ## Quotes without staff -/

namespace CommerceService

/-- The row of a quote that is issued automatically. -/
def autoQuoteRow (env : Env) (caseId scopeId : Id) (pricing : ServiceFeeLine) (t : Time) :
    Quote where
  caseId := caseId
  amount := money pricing.amountNgn
  lines := [⟨.asojuServiceFee, pricing.label, money pricing.amountNgn⟩]
  expiresAt := some (dateOf (t + hoursMs (quoteValidityHours env)))
  createdAt := t
  priceBookId := some pricing.priceBookId
  baseAmount := some (money pricing.amountNgn)
  nonServiceFeeAmount := some (money 0)
  scopeId := some scopeId
  lockedFxRate := some (Decimal.store 4 pricing.fxRate)
  sourceCurrency := some "USD"
  fxLockExpiry := some (dateOf (t + hoursMs (fxLockHours env)))

/-- Prices the latest scope of a case, if it is confirmed, and issues the quote. -/
def autoQuote (env : Env) (caseId : Id) : Svc Unit := do
  let .ok pricing ← PricingEngineService.calculateServiceFeeLine env caseId | return
  let some (scopeId, latestScope) ← Prisma.query .caseScope (·.latestScope caseId) | return
  if latestScope.confirmedAt.isNone then return
  let _ ← Prisma.create .quote (autoQuoteRow env caseId scopeId pricing)
  let _ ← CasesService.systemTransitionCase caseId .quoted (some "Quote auto-generated")

/-- Quotes a case under review that has come from a request with an automatic decision.  Whatever
goes wrong, it does not throw. -/
def autoQuoteIfEligible (env : Env) (caseId : Id) : Svc Unit :=
  tryCatch (do
    let (serviceCase, outcome) ← Prisma.query .serviceCase fun d =>
      (d.serviceCase.get? caseId, d.originRequestOutcome caseId)
    match serviceCase.filter fun c => c.status = .underReview with
    | none => pure ()
    | some _ => if outcome = some .auto then autoQuote env caseId else pure ())
    fun _ => pure ()

end CommerceService

/-! ## The services in closed form -/

variable {env : Env} {caseId : Id} {d : Db}

/-- The engine only reads. -/
lemma PricingEngineService.calculateServiceFeeLine_run (env : Env) (caseId : Id) (d : Db) :
    ∃ r, (calculateServiceFeeLine env caseId).run d = (r, d) := by
  have hfind : (Prisma.findUnique .serviceCase caseId).run d =
      (.ok (d.serviceCase.get? caseId), d) := rfl
  have hscopes : (Prisma.query .caseScope (·.latestScope caseId)).run d =
      (.ok (d.latestScope caseId), d) := rfl
  have hbook : (Prisma.query .priceBook (·.activePriceBook)).run d =
      (.ok d.activePriceBook, d) := rfl
  rw [calculateServiceFeeLine, Prog.run_bind_ok hfind]
  cases d.serviceCase.get? caseId with
  | none => exact ⟨_, rfl⟩
  | some c =>
    dsimp only
    rw [Prog.run_bind_ok hscopes]
    cases d.latestScope caseId with
    | none => exact ⟨_, rfl⟩
    | some p =>
      dsimp only
      split
      case isTrue => exact ⟨_, rfl⟩
      case isFalse =>
        rw [Prog.run_bind_ok hbook]
        cases d.activePriceBook with
        | none => exact ⟨_, rfl⟩
        | some book =>
          dsimp only
          split
          case isTrue => exact ⟨_, rfl⟩
          case isFalse =>
            rw [Prog.run_bind_ok (Prisma.run_query ..)]
            cases d.priceRuleFor book.1 c.serviceType p.2.zone with
            | none => exact ⟨_, rfl⟩
            | some rule => exact ⟨_, rfl⟩

namespace CommerceService

/-- What the issue of an automatic quote can do to a case under review. -/
lemma autoQuote_exec {c : ServiceCase} (hc : d.serviceCase.get? caseId = some c)
    (hs : c.status = .underReview) :
    (autoQuote env caseId).exec d = d ∨
      ∃ scopeId scope pricing, d.latestScope caseId = some (scopeId, scope) ∧
        scope.confirmedAt.isSome = true ∧
        (PricingEngineService.calculateServiceFeeLine env caseId).run d = (.ok (.ok pricing), d) ∧
        (autoQuote env caseId).exec d =
          (d.insertRow .quote (autoQuoteRow env caseId scopeId pricing d.clock)).moveCase caseId c
            .quoted c.heldFromStatus none (some "Quote auto-generated") := by
  obtain ⟨r, hr⟩ := PricingEngineService.calculateServiceFeeLine_run env caseId d
  have hscopes : (Prisma.query .caseScope (·.latestScope caseId)).run d =
      (.ok (d.latestScope caseId), d) := rfl
  rw [Prog.exec, autoQuote]
  cases r with
  | error e =>
    rw [Prog.run_bind, hr]
    exact Or.inl rfl
  | ok pricing =>
    rw [Prog.run_bind_ok hr]
    cases pricing with
    | error reason => exact Or.inl rfl
    | ok pricing =>
      dsimp only
      rw [Prog.run_bind_ok hscopes]
      cases hscope : d.latestScope caseId with
      | none => exact Or.inl rfl
      | some p =>
        obtain ⟨scopeId, scope⟩ := p
        dsimp only
        by_cases hconfirmed : scope.confirmedAt.isNone = true
        · rw [if_pos hconfirmed]
          exact Or.inl rfl
        · have hsome : scope.confirmedAt.isSome = true := by
            rwa [Option.isNone_iff_eq_none, ← ne_eq, ← Option.isSome_iff_ne_none] at hconfirmed
          refine Or.inr ⟨scopeId, scope, pricing, rfl, hsome, hr, ?_⟩
          -- the case is still under review after the quote is written
          have hmem : CaseStatus.quoted ∈ transitions c.status := by
            rw [hs]
            decide
          have hc' : (d.insertRow .quote
              (autoQuoteRow env caseId scopeId pricing d.clock)).serviceCase.get? caseId =
              some c := hc
          rw [if_neg hconfirmed, Prog.run_bind_ok (Prisma.run_create ..), Prog.run_bind,
            CasesService.systemTransitionCase, CasesService.applyTransition_run, hc']
          dsimp only
          rw [if_pos hmem]
          rfl

/-- What the automatic quote can do: it is issued for a case under review whose request has an
automatic decision and whose latest scope is confirmed. -/
lemma autoQuoteIfEligible_exec (env : Env) (caseId : Id) (d : Db) :
    (autoQuoteIfEligible env caseId).exec d = d ∨
      ∃ c scopeId scope pricing, d.serviceCase.get? caseId = some c ∧ c.status = .underReview ∧
        d.originRequestOutcome caseId = some .auto ∧
        d.latestScope caseId = some (scopeId, scope) ∧ scope.confirmedAt.isSome = true ∧
        (PricingEngineService.calculateServiceFeeLine env caseId).run d = (.ok (.ok pricing), d) ∧
        (autoQuoteIfEligible env caseId).exec d =
          (d.insertRow .quote (autoQuoteRow env caseId scopeId pricing d.clock)).moveCase caseId c
            .quoted c.heldFromStatus none (some "Quote auto-generated") := by
  rw [autoQuoteIfEligible, Prog.exec_tryCatch_pure, Prog.exec,
    Prog.run_bind_ok (Prisma.run_query ..)]
  dsimp only
  cases hc : d.serviceCase.get? caseId with
  | none => exact Or.inl rfl
  | some c =>
    by_cases hs : c.status = .underReview
    · rw [Option.filter_some, if_pos (decide_eq_true hs)]
      dsimp only
      by_cases hauto : d.originRequestOutcome caseId = some .auto
      · rw [if_pos hauto]
        rcases autoQuote_exec hc hs with
          heq | ⟨scopeId, scope, pricing, hscope, hconfirmed, hpricing, heq⟩
        · exact Or.inl heq
        · exact Or.inr
            ⟨c, scopeId, scope, pricing, rfl, hs, hauto, hscope, hconfirmed, hpricing, heq⟩
      · rw [if_neg hauto]
        exact Or.inl rfl
    · rw [Option.filter_some, if_neg (by simpa using hs)]
      exact Or.inl rfl

end CommerceService

namespace ScopeService

/-- A revision is refused, or it inserts the next version. -/
lemma createOrRevise_exec (toLowerCase : String → String) (actor : AuthenticatedUser)
    (caseId : Id) (dto : CreateScopeDto) (d : Db) :
    (createOrRevise toLowerCase actor caseId dto).exec d = d ∨
      ∃ c, d.serviceCase.get? caseId = some c ∧
        (createOrRevise toLowerCase actor caseId dto).exec d =
          d.insertRow .caseScope (scopeRow toLowerCase actor caseId c
            (((d.latestScope caseId).map fun p => p.2.version).getD 0 + 1) dto) := by
  have hfind : (Prisma.findUnique .serviceCase caseId).run d =
      (.ok (d.serviceCase.get? caseId), d) := rfl
  have hscopes : (Prisma.query .caseScope (·.latestScope caseId)).run d =
      (.ok (d.latestScope caseId), d) := rfl
  rw [Prog.exec, createOrRevise, Prog.run_bind_ok hfind]
  cases d.serviceCase.get? caseId with
  | none => exact Or.inl rfl
  | some c =>
    dsimp only
    rw [Prog.run_bind_ok hscopes, Prisma.run_createUnique]
    split
    case isTrue => exact Or.inl rfl
    case isFalse => exact Or.inr ⟨c, rfl, rfl⟩

/-- A confirmation is refused or changes nothing, or it confirms the latest version, which was not
confirmed, for the owner of the case. -/
lemma confirm_exec (actor : AuthenticatedUser) (caseId : Id) (d : Db) :
    (confirm actor caseId).exec d = d ∨
      ∃ c scopeId scope, d.serviceCase.get? caseId = some c ∧ isCaseOwner d actor c = true ∧
        d.latestScope caseId = some (scopeId, scope) ∧ scope.confirmedAt = none ∧
        (confirm actor caseId).exec d = d.modifyRow .caseScope scopeId fun s =>
          { s with confirmedById := some actor.id, confirmedAt := some d.clock } := by
  have hfind : (Prisma.findUnique .serviceCase caseId).run d =
      (.ok (d.serviceCase.get? caseId), d) := rfl
  have hscopes : (Prisma.query .caseScope (·.latestScope caseId)).run d =
      (.ok (d.latestScope caseId), d) := rfl
  rw [Prog.exec, confirm, Prog.run_bind_ok hfind]
  cases d.serviceCase.get? caseId with
  | none => exact Or.inl rfl
  | some c =>
    dsimp only
    rw [Prog.run_bind_ok (Prisma.run_query ..)]
    cases howner : isCaseOwner d actor c with
    | false => exact Or.inl rfl
    | true =>
      rw [if_neg (by simp), Prog.run_bind_ok hscopes]
      cases hscope : d.latestScope caseId with
      | none => exact Or.inl rfl
      | some p =>
        obtain ⟨scopeId, scope⟩ := p
        dsimp only
        cases hconfirmed : scope.confirmedAt with
        | some t => exact Or.inl rfl
        | none =>
          refine Or.inr ⟨c, scopeId, scope, rfl, howner, rfl, hconfirmed, ?_⟩
          rw [if_neg (by simp), Prisma.run_update]
          cases (Rel.caseScope.get d).get? scopeId <;> rfl

end ScopeService

/-! ## The endpoint -/

/-- `POST /cases/:caseId/scope/confirm`. -/
def confirmScope (env : Env) (actor : AuthenticatedUser) (caseId : Id) : Svc CaseScope := do
  let confirmed ← ScopeService.confirm actor caseId
  CommerceService.autoQuoteIfEligible env caseId
  return confirmed

end Asoju
