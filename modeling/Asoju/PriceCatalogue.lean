/-
The price catalogue, and whether the fee of an old quote can still be worked out from it.

A price book holds prices for services in zones, and factors for urgent cases.  One book at a time
is active, and an automatic quote is priced by that one.  The quote keeps the book and the rate of
exchange, so that its fee can be worked out again after other books have taken over.  But no book
is ever closed: a rule that is added to it later may come first in the resolution.
`reproducible_iff` says for which histories of the catalogue the fee of a quote can still be worked
out.
-/
import Asoju.Lib.Run
import Asoju.Scopes

namespace Asoju

open Lib

/-! ## The catalogue -/

structure CreatePriceBookDto where
  currency : Option String := none
deriving DecidableEq, Repr

structure CreatePriceRuleDto where
  serviceType : ServiceType
  zone : PricingZone
  value : ℚ
  label : String
  priority : Option ℤ := none
deriving DecidableEq, Repr

structure CreateMultiplierRuleDto where
  type : MultiplierType
  casePriority : CasePriority
  multiplier : ℚ
deriving DecidableEq, Repr

namespace PricingEngineService

def createPriceBook (dto : CreatePriceBookDto) : Svc Id :=
  Prisma.create .priceBook fun _ => { currency := dto.currency.getD "USD" }

/-- The book takes over from the one that is active. -/
def activatePriceBook (id : Id) : Svc PriceBook := do
  let some _ ← Prisma.findUnique .priceBook id
    | throw (.notFound "Price book not found")
  Prisma.transaction
    (fun d => (d.modifyRows .priceBook (fun _ b => b.active) fun b => { b with active := false })
      |>.modifyRow .priceBook id fun b => { b with active := true })
    fun _ => ()
  Prisma.findUniqueOrThrow .priceBook id

def requirePriceBook (priceBookId : Id) : Svc PriceBook := do
  let some book ← Prisma.findUnique .priceBook priceBookId
    | throw (.notFound "Price book not found")
  return book

def priceRuleRow (priceBookId : Id) (dto : CreatePriceRuleDto) : PriceRule where
  priceBookId := priceBookId
  serviceType := dto.serviceType
  zone := dto.zone
  value := money dto.value
  label := dto.label
  priority := dto.priority.getD 0

/-- Adds a price to a book, whether quotes refer to the book or not. -/
def addPriceRule (priceBookId : Id) (dto : CreatePriceRuleDto) : Svc Id := do
  let _ ← requirePriceBook priceBookId
  Prisma.create .priceRule fun _ => priceRuleRow priceBookId dto

def multiplierRuleRow (priceBookId : Id) (dto : CreateMultiplierRuleDto) : MultiplierRule where
  priceBookId := priceBookId
  type := dto.type
  casePriority := some dto.casePriority
  multiplier := money dto.multiplier

/-- Adds a factor to a book, whether quotes refer to the book or not. -/
def addMultiplierRule (priceBookId : Id) (dto : CreateMultiplierRuleDto) : Svc Id := do
  let _ ← requirePriceBook priceBookId
  Prisma.create .multiplierRule fun _ => multiplierRuleRow priceBookId dto

end PricingEngineService

/-! ## The resolution of a fee in any book -/

/-- What the fee of a case depends on. -/
structure PricingKey where
  serviceType : ServiceType
  zone : PricingZone
  priority : CasePriority
deriving DecidableEq, Repr

/-- A price in dollars with a factor, in whole naira: cents first. -/
def feeNgn (value multiplier fxRate : ℚ) : ℤ :=
  roundHalfUp ((roundHalfUp (value * multiplier * 100) : ℚ) / 100 * fxRate)

namespace Db

variable (d : Db)

/-- What the case would be priced for now. -/
def pricingKey (caseId : Id) : Option PricingKey := do
  let serviceCase ← d.serviceCase.get? caseId
  let (_, latestScope) ← d.latestScope caseId
  return ⟨serviceCase.serviceType, latestScope.zone, serviceCase.priority⟩

/-- The factor that a book has for cases of a priority. -/
def multiplierOf (priceBookId : Id) (casePriority : CasePriority) : ℚ :=
  ((d.multiplierFor priceBookId casePriority).map fun m => m.multiplier.toRat).getD 1

/-- The resolution of `calculateServiceFeeLine`, by any book and at any rate of exchange. -/
def resolveFee (priceBookId : Id) (x : PricingKey) (fxRate : ℚ) : Option ℤ :=
  if x.zone = .other then none
  else (d.priceRuleFor priceBookId x.serviceType x.zone).map fun rule =>
    feeNgn rule.2.value.toRat (d.multiplierOf priceBookId x.priority) fxRate

/-- The fee of a case, by the book of a quote and at the rate of the quote. -/
def recomputedFee (x : PricingKey) (q : Quote) : Option ℤ := do
  let priceBookId ← q.priceBookId
  let fxRate ← q.lockedFxRate
  d.resolveFee priceBookId x fxRate.toRat

end Db

/-- What a quote charges for the service itself. -/
def Quote.serviceFee (q : Quote) : ℚ :=
  ((q.lines.filter fun l => l.category = .asojuServiceFee).map fun l => l.amount.toRat).sum

/-- The fee of the quote can be worked out from its book. -/
def Reproducible (x : PricingKey) (q : Quote) (d : Db) : Prop :=
  (d.recomputedFee x q).map (fun fee : ℤ => (fee : ℚ)) = some q.serviceFee

namespace PricingEngineService

variable {env : Env} {caseId : Id} {d : Db}

/-- **The engine resolves the fee by the active book.** -/
lemma calculateServiceFeeLine_ok {line : ServiceFeeLine}
    (h : (calculateServiceFeeLine env caseId).run d = (.ok (.ok line), d)) :
    ∃ x book rule, d.pricingKey caseId = some x ∧ x.zone ≠ .other ∧
      d.activePriceBook = some book ∧
      d.priceRuleFor book.1 x.serviceType x.zone = some rule ∧
      line = priceOf env book.1 x.zone rule (d.multiplierFor book.1 x.priority) := by
  have hfind : (Prisma.findUnique .serviceCase caseId).run d =
      (.ok (d.serviceCase.get? caseId), d) := rfl
  have hscopes : (Prisma.query .caseScope (·.latestScope caseId)).run d =
      (.ok (d.latestScope caseId), d) := rfl
  have hbooks : (Prisma.query .priceBook (·.activePriceBook)).run d =
      (.ok d.activePriceBook, d) := rfl
  rw [calculateServiceFeeLine, Prog.run_bind_ok hfind] at h
  cases hcase : d.serviceCase.get? caseId with
  | none =>
    rw [hcase] at h
    cases h
  | some c =>
    rw [hcase] at h
    dsimp only at h
    rw [Prog.run_bind_ok hscopes] at h
    cases hscope : d.latestScope caseId with
    | none =>
      rw [hscope] at h
      cases h
    | some p =>
      rw [hscope] at h
      dsimp only at h
      split at h
      case isTrue => cases h
      case isFalse =>
        rw [Prog.run_bind_ok hbooks] at h
        cases hbook : d.activePriceBook with
        | none =>
          rw [hbook] at h
          cases h
        | some book =>
          rw [hbook] at h
          dsimp only at h
          by_cases hzone : p.2.zone = .other
          · rw [if_pos hzone] at h
            cases h
          · rw [if_neg hzone, Prog.run_bind_ok (Prisma.run_query ..)] at h
            cases hrule : d.priceRuleFor book.1 c.serviceType p.2.zone with
            | none =>
              rw [hrule] at h
              cases h
            | some rule =>
              rw [hrule] at h
              dsimp only at h
              rw [Prog.run_bind_ok (Prisma.run_query ..)] at h
              have hline : priceOf env book.1 p.2.zone rule
                  (d.multiplierFor book.1 c.priority) = line := by
                cases h
                rfl
              refine ⟨⟨c.serviceType, p.2.zone, c.priority⟩, book, rule, ?_, hzone, rfl, hrule,
                hline.symm⟩
              rw [Db.pricingKey, hcase, hscope]
              rfl

end PricingEngineService

/-! ## The moment of the quote -/

section Creation

variable {env : Env} {caseId : Id} {d : Db} {x : PricingKey} {q : Quote}

lemma serviceFee_autoQuoteRow (scopeId : Id) (pricing : ServiceFeeLine) (t : Time) :
    (CommerceService.autoQuoteRow env caseId scopeId pricing t).serviceFee = pricing.amountNgn := by
  have hstore : (money pricing.amountNgn).toRat = pricing.amountNgn :=
    Decimal.store_toRat_of_mem (Decimal.intCast_mem_grid _)
  simp [Quote.serviceFee, CommerceService.autoQuoteRow, hstore]

/-- The rate of exchange is kept with four decimals, and the fee is the same at the rate that is
kept. -/
def RateKept (env : Env) (x : PricingKey) (d : Db) : Prop :=
  ∀ book rule, d.activePriceBook = some book →
    d.priceRuleFor book.1 x.serviceType x.zone = some rule →
      feeNgn rule.2.value.toRat (d.multiplierOf book.1 x.priority)
          (Decimal.store 4 (usdToNgnRate env)).toRat =
        feeNgn rule.2.value.toRat (d.multiplierOf book.1 x.priority) (usdToNgnRate env)

/-- A rate of exchange with four decimals at most is kept as it is. -/
lemma rateKept_of_mem_grid (h : usdToNgnRate env ∈ Decimal.grid 4) : RateKept env x d := by
  intro book rule _ _
  rw [Decimal.store_toRat_of_mem h]

/-- What an automatic quote is, and what it leaves alone. -/
lemma autoQuote_created
    (hq : ((CommerceService.autoQuoteIfEligible env caseId).exec d).quote.get? d.quote.next =
      some q)
    (hx : d.pricingKey caseId = some x) :
    ∃ book rule, d.activePriceBook = some book ∧ x.zone ≠ .other ∧
      d.priceRuleFor book.1 x.serviceType x.zone = some rule ∧
      q.priceBookId = some book.1 ∧
      q.lockedFxRate = some (Decimal.store 4 (usdToNgnRate env)) ∧
      q.serviceFee = feeNgn rule.2.value.toRat (d.multiplierOf book.1 x.priority)
        (usdToNgnRate env) ∧
      ((CommerceService.autoQuoteIfEligible env caseId).exec d).priceRule = d.priceRule ∧
      ((CommerceService.autoQuoteIfEligible env caseId).exec d).multiplierRule =
        d.multiplierRule := by
  rcases CommerceService.autoQuoteIfEligible_exec env caseId d with
    heq | ⟨c, scopeId, scope, pricing, -, -, -, -, -, hpricing, heq⟩
  · -- nothing is under the next key
    rw [heq, Table.get?_next] at hq
    cases hq
  · obtain ⟨x', book, rule, hx', hzone, hbook, hrule, rfl⟩ :=
      PricingEngineService.calculateServiceFeeLine_ok hpricing
    obtain rfl : x' = x := Option.some.inj (hx'.symm.trans hx)
    rw [heq] at hq ⊢
    have hget : (d.quote.insert (CommerceService.autoQuoteRow env caseId scopeId
        (PricingEngineService.priceOf env book.1 x'.zone rule
          (d.multiplierFor book.1 x'.priority)) d.clock)).get? d.quote.next = some q := hq
    rw [Table.get?_insert_self] at hget
    obtain rfl := Option.some.inj hget
    exact ⟨book, rule, hbook, hzone, hrule, rfl, rfl, serviceFee_autoQuoteRow .., rfl, rfl⟩

lemma resolveFee_of_rule {book : Id} {rule : Id × PriceRule} (hzone : x.zone ≠ .other)
    (hrule : d.priceRuleFor book x.serviceType x.zone = some rule) (fxRate : ℚ) :
    d.resolveFee book x fxRate =
      some (feeNgn rule.2.value.toRat (d.multiplierOf book x.priority) fxRate) := by
  rw [Db.resolveFee, if_neg hzone, hrule, Option.map_some]

end Creation

/-! ## The catalogue afterwards -/

/-- The resolution looks at the prices and the factors alone. -/
lemma Db.resolveFee_congr {d d' : Db} (hrules : d'.priceRule = d.priceRule)
    (hmultipliers : d'.multiplierRule = d.multiplierRule) : d'.resolveFee = d.resolveFee := by
  funext book x fxRate
  rw [Db.resolveFee, Db.resolveFee, Db.priceRuleFor, Db.priceRuleFor, Db.multiplierOf,
    Db.multiplierOf, Db.multiplierFor, Db.multiplierFor, hrules, hmultipliers]

inductive CatalogueOp
  | createPriceBook (dto : CreatePriceBookDto)
  | activatePriceBook (id : Id)
  | addPriceRule (priceBookId : Id) (dto : CreatePriceRuleDto)
  | addMultiplierRule (priceBookId : Id) (dto : CreateMultiplierRuleDto)

namespace CatalogueOp

open PricingEngineService

def step (d : Db) : CatalogueOp → Db
  | createPriceBook dto => (PricingEngineService.createPriceBook dto).exec d
  | activatePriceBook i => (PricingEngineService.activatePriceBook i).exec d
  | addPriceRule i dto => (PricingEngineService.addPriceRule i dto).exec d
  | addMultiplierRule i dto => (PricingEngineService.addMultiplierRule i dto).exec d

/-- A price for the quote's case that comes before the others of its book comes to the same fee, and
so does the first factor that the book has for its priority. -/
def KeepsFee (x : PricingKey) (q : Quote) (d : Db) : CatalogueOp → Prop
  | addPriceRule i dto => (d.priceBook.get? i).isSome = true → q.priceBookId = some i →
      dto.serviceType = x.serviceType → dto.zone = x.zone →
        ∀ rule fxRate, d.priceRuleFor i x.serviceType x.zone = some rule →
          q.lockedFxRate = some fxRate → rule.2.priority < dto.priority.getD 0 →
            feeNgn (money dto.value).toRat (d.multiplierOf i x.priority) fxRate.toRat =
              feeNgn rule.2.value.toRat (d.multiplierOf i x.priority) fxRate.toRat
  | addMultiplierRule i dto => (d.priceBook.get? i).isSome = true → q.priceBookId = some i →
      dto.type = .urgency → dto.casePriority = x.priority →
        d.multiplierFor i x.priority = none →
          ∀ rule fxRate, d.priceRuleFor i x.serviceType x.zone = some rule →
            q.lockedFxRate = some fxRate →
              feeNgn rule.2.value.toRat (money dto.multiplier).toRat fxRate.toRat =
                feeNgn rule.2.value.toRat 1 fxRate.toRat
  | _ => True

variable {x : PricingKey} {q : Quote} (d : Db)

/-! ### What a call does to the rules -/

lemma requirePriceBook_run (i : Id) :
    (requirePriceBook i).run d = match d.priceBook.get? i with
      | some book => (.ok book, d)
      | none => (.error (.notFound "Price book not found"), d) := by
  have hfind : (Prisma.findUnique .priceBook i).run d = (.ok (d.priceBook.get? i), d) := rfl
  rw [requirePriceBook, Prog.run_bind_ok hfind]
  cases d.priceBook.get? i <;> rfl

lemma step_addPriceRule (i : Id) (dto : CreatePriceRuleDto) :
    step d (addPriceRule i dto) = if (d.priceBook.get? i).isSome = true then
      d.insertRow .priceRule (priceRuleRow i dto) else d := by
  rw [step, Prog.exec, PricingEngineService.addPriceRule, Prog.run_bind, requirePriceBook_run]
  cases d.priceBook.get? i <;> rfl

lemma step_addMultiplierRule (i : Id) (dto : CreateMultiplierRuleDto) :
    step d (addMultiplierRule i dto) = if (d.priceBook.get? i).isSome = true then
      d.insertRow .multiplierRule (multiplierRuleRow i dto) else d := by
  rw [step, Prog.exec, PricingEngineService.addMultiplierRule, Prog.run_bind, requirePriceBook_run]
  cases d.priceBook.get? i <;> rfl

/-- An activation changes which book is active, and no rule. -/
lemma step_activatePriceBook (i : Id) :
    (step d (activatePriceBook i)).priceRule = d.priceRule ∧
      (step d (activatePriceBook i)).multiplierRule = d.multiplierRule := by
  have hfind : (Prisma.findUnique .priceBook i).run d = (.ok (d.priceBook.get? i), d) := rfl
  rw [step, Prog.exec, PricingEngineService.activatePriceBook, Prog.run_bind_ok hfind]
  cases d.priceBook.get? i with
  | none => exact ⟨rfl, rfl⟩
  | some book =>
    dsimp only
    rw [Prog.run_bind_ok (Prisma.run_transaction ..), Prisma.run_findUniqueOrThrow]
    split <;> exact ⟨rfl, rfl⟩

/-! ### What comes first -/

/-- The price counts for such cases in the book. -/
def PriceFits (book : Id) (x : PricingKey) (r : PriceRule) : Prop :=
  r.priceBookId = book ∧ r.serviceType = x.serviceType ∧ r.zone = x.zone ∧ r.active

instance priceFitsDecidable (book : Id) (x : PricingKey) (r : PriceRule) :
    Decidable (PriceFits book x r) :=
  inferInstanceAs (Decidable (_ ∧ _))

/-- The factor counts for cases of the priority in the book. -/
def FactorFits (book : Id) (casePriority : CasePriority) (m : MultiplierRule) : Prop :=
  m.priceBookId = book ∧ m.type = .urgency ∧ m.casePriority = some casePriority ∧ m.active

instance factorFitsDecidable (book : Id) (casePriority : CasePriority) (m : MultiplierRule) :
    Decidable (FactorFits book casePriority m) :=
  inferInstanceAs (Decidable (_ ∧ _))

lemma priceFits_priceRuleRow {book i : Id} {dto : CreatePriceRuleDto} :
    PriceFits book x (priceRuleRow i dto) ↔
      i = book ∧ dto.serviceType = x.serviceType ∧ dto.zone = x.zone := by
  simp [PriceFits, priceRuleRow]

lemma factorFits_multiplierRuleRow {book i : Id} {dto : CreateMultiplierRuleDto}
    {casePriority : CasePriority} :
    FactorFits book casePriority (multiplierRuleRow i dto) ↔
      i = book ∧ dto.type = .urgency ∧ dto.casePriority = casePriority := by
  simp [FactorFits, multiplierRuleRow]

variable {d}

/-- A new price comes first if it fits and has a higher priority than the one that came first. -/
lemma priceRuleFor_insert {book : Id} {rule : Id × PriceRule}
    (h : d.priceRuleFor book x.serviceType x.zone = some rule) (r : PriceRule) :
    (d.insertRow .priceRule r).priceRuleFor book x.serviceType x.zone =
      some (if PriceFits book x r ∧ rule.2.priority < r.priority then (d.priceRule.next, r)
        else rule) := by
  have hrows : (d.insertRow .priceRule r).priceRule.rows =
      d.priceRule.rows ++ [(d.priceRule.next, r)] := rfl
  rw [Db.priceRuleFor] at h
  rw [Db.priceRuleFor, hrows, List.filter_append]
  by_cases hfits : PriceFits book x r
  · rw [List.filter_cons_of_pos (by simpa [PriceFits] using hfits), List.filter_nil,
      head?_sortDesc_concat, h]
    by_cases hlt : rule.2.priority < r.priority
    · rw [if_pos ⟨hfits, hlt⟩, Option.elim_some, if_pos hlt]
    · rw [if_neg fun hboth => hlt hboth.2, Option.elim_some, if_neg hlt]
  · rw [List.filter_cons_of_neg (by simpa [PriceFits] using hfits), List.filter_nil,
      List.append_nil, h,
      if_neg fun hboth => hfits hboth.1]

/-- A new factor counts if the book has had none for the priority. -/
lemma multiplierOf_insert (book : Id) (casePriority : CasePriority) (m : MultiplierRule) :
    (d.insertRow .multiplierRule m).multiplierOf book casePriority =
      if FactorFits book casePriority m ∧ d.multiplierFor book casePriority = none then
        m.multiplier.toRat
      else d.multiplierOf book casePriority := by
  have hvalues : (d.insertRow .multiplierRule m).multiplierRule.values =
      d.multiplierRule.values ++ [m] := Table.values_insert ..
  rw [Db.multiplierOf, Db.multiplierOf, Db.multiplierFor, hvalues, List.find?_append,
    ← Db.multiplierFor]
  cases hold : d.multiplierFor book casePriority with
  | some m' => simp
  | none =>
    by_cases hfits : FactorFits book casePriority m
    · rw [if_pos ⟨hfits, rfl⟩, List.find?_cons_of_pos (by simpa [FactorFits] using hfits)]
      rfl
    · rw [if_neg fun hboth => hfits hboth.1,
        List.find?_cons_of_neg (by simpa [FactorFits] using hfits)]
      rfl

/-! ### One step -/

/-- A quote whose fee can be worked out, with the rule that its fee comes from. -/
lemma exists_rule_of_reproducible (h : Reproducible x q d) :
    ∃ book fxRate rule, q.priceBookId = some book ∧ q.lockedFxRate = some fxRate ∧
      x.zone ≠ .other ∧ d.priceRuleFor book x.serviceType x.zone = some rule ∧
      (feeNgn rule.2.value.toRat (d.multiplierOf book x.priority) fxRate.toRat : ℚ) =
        q.serviceFee := by
  rw [Reproducible, Option.map_eq_some_iff] at h
  obtain ⟨fee, hfee, hcharged⟩ := h
  simp only [Db.recomputedFee, Option.bind_eq_bind, Option.bind_eq_some_iff] at hfee
  obtain ⟨book, hbook, fxRate, hrate, hfee⟩ := hfee
  rw [Db.resolveFee] at hfee
  split_ifs at hfee with hzone
  obtain ⟨rule, hrule, rfl⟩ := Option.map_eq_some_iff.mp hfee
  exact ⟨book, fxRate, rule, hbook, hrate, hzone, hrule, hcharged⟩

/-- The fee that is worked out from a rule is that of the quote. -/
lemma reproducible_iff_of_rule {book : Id} {fxRate : Rate} {rule : Id × PriceRule}
    (hbook : q.priceBookId = some book) (hrate : q.lockedFxRate = some fxRate)
    (hzone : x.zone ≠ .other)
    (hrule : d.priceRuleFor book x.serviceType x.zone = some rule) :
    Reproducible x q d ↔
      (feeNgn rule.2.value.toRat (d.multiplierOf book x.priority) fxRate.toRat : ℚ) =
        q.serviceFee := by
  rw [Reproducible, Db.recomputedFee, hbook, hrate]
  simp only [Option.bind_eq_bind, Option.bind_some, resolveFee_of_rule hzone hrule, Option.map_some,
    Option.some.injEq]

/-- **The step lemma**: the fee can still be worked out exactly if the step keeps it. -/
theorem reproducible_step_iff (d : Db) (o : CatalogueOp) (h : Reproducible x q d) :
    Reproducible x q (step d o) ↔ KeepsFee x q d o := by
  obtain ⟨book, fxRate, rule, hbook, hrate, hzone, hrule, hcharged⟩ := exists_rule_of_reproducible h
  have hsame : ∀ d' : Db, d'.priceRule = d.priceRule → d'.multiplierRule = d.multiplierRule →
      Reproducible x q d' := by
    intro d' hrules hmultipliers
    rw [Reproducible, Db.recomputedFee, Db.resolveFee_congr hrules hmultipliers]
    exact h
  cases o with
  | createPriceBook dto => exact iff_of_true (hsame _ rfl rfl) trivial
  | activatePriceBook i =>
    obtain ⟨hrules, hmultipliers⟩ := step_activatePriceBook d i
    exact iff_of_true (hsame _ hrules hmultipliers) trivial
  | addPriceRule i dto =>
    rw [step_addPriceRule]
    by_cases hi : (d.priceBook.get? i).isSome = true
    · have hmultiplier : (d.insertRow .priceRule (priceRuleRow i dto)).multiplierOf book
          x.priority = d.multiplierOf book x.priority := rfl
      rw [if_pos hi, reproducible_iff_of_rule hbook hrate hzone (priceRuleFor_insert hrule _),
        hmultiplier, ← hcharged, Int.cast_inj]
      by_cases hfirst : PriceFits book x (priceRuleRow i dto) ∧
          rule.2.priority < (priceRuleRow i dto).priority
      · rw [if_pos hfirst]
        obtain ⟨hfits, hlt⟩ := hfirst
        obtain ⟨rfl, hservice, hdtoZone⟩ := priceFits_priceRuleRow.mp hfits
        constructor
        · intro heq _ _ _ _ rule' fxRate' hrule' hrate' _
          obtain rfl := Option.some.inj (hrule.symm.trans hrule')
          obtain rfl := Option.some.inj (hrate.symm.trans hrate')
          exact heq
        · intro hkeeps
          exact hkeeps hi hbook hservice hdtoZone rule fxRate hrule hrate hlt
      · rw [if_neg hfirst]
        refine iff_of_true rfl fun _ hbook' hservice hdtoZone rule' fxRate' hrule' _ hlt => ?_
        obtain rfl := Option.some.inj (hbook.symm.trans hbook')
        obtain rfl := Option.some.inj (hrule.symm.trans hrule')
        exact absurd ⟨priceFits_priceRuleRow.mpr ⟨rfl, hservice, hdtoZone⟩, hlt⟩ hfirst
    · rw [if_neg hi]
      exact iff_of_true h fun hi' => absurd hi' hi
  | addMultiplierRule i dto =>
    rw [step_addMultiplierRule]
    by_cases hi : (d.priceBook.get? i).isSome = true
    · have hrule' : (d.insertRow .multiplierRule (multiplierRuleRow i dto)).priceRuleFor book
          x.serviceType x.zone = some rule := hrule
      rw [if_pos hi, reproducible_iff_of_rule hbook hrate hzone hrule', multiplierOf_insert,
        ← hcharged, Int.cast_inj]
      by_cases hfirst : FactorFits book x.priority (multiplierRuleRow i dto) ∧
          d.multiplierFor book x.priority = none
      · rw [if_pos hfirst]
        obtain ⟨hfits, hnone⟩ := hfirst
        obtain ⟨rfl, htype, hpriority⟩ := factorFits_multiplierRuleRow.mp hfits
        have hone : d.multiplierOf i x.priority = 1 := by
          rw [Db.multiplierOf, hnone]
          rfl
        rw [hone]
        constructor
        · intro heq _ _ _ _ _ rule' fxRate' hrule' hrate'
          obtain rfl := Option.some.inj (hrule.symm.trans hrule')
          obtain rfl := Option.some.inj (hrate.symm.trans hrate')
          exact heq
        · intro hkeeps
          exact hkeeps hi hbook htype hpriority hnone rule fxRate hrule hrate
      · rw [if_neg hfirst]
        refine iff_of_true rfl fun _ hbook' htype hpriority hnone => ?_
        obtain rfl := Option.some.inj (hbook.symm.trans hbook')
        exact absurd ⟨factorFits_multiplierRuleRow.mpr ⟨rfl, htype, hpriority⟩, hnone⟩ hfirst
    · rw [if_neg hi]
      exact iff_of_true h fun hi' => absurd hi' hi

end CatalogueOp

/-! ## Every history of the catalogue -/

/-- **Which quotes stay reproducible**: those for which the rate of exchange is kept precisely
enough, in the histories in which no new rule of their book comes before the old ones with another
fee. -/
theorem reproducible_iff (env : Env) (caseId : Id) (d : Db) (x : PricingKey) (q : Quote)
    (hx : d.pricingKey caseId = some x)
    (hq : ((CommerceService.autoQuoteIfEligible env caseId).exec d).quote.get? d.quote.next =
      some q)
    (os : List CatalogueOp) :
    AllStates CatalogueOp.step (Reproducible x q)
        ((CommerceService.autoQuoteIfEligible env caseId).exec d) os ↔
      RateKept env x d ∧ AllSteps CatalogueOp.step (CatalogueOp.KeepsFee x q)
        ((CommerceService.autoQuoteIfEligible env caseId).exec d) os := by
  obtain ⟨book, rule, hactive, hzone, hrule, hbook, hrate, hcharged, hrules, hmultipliers⟩ :=
    autoQuote_created hq hx
  have hstart : Reproducible x q ((CommerceService.autoQuoteIfEligible env caseId).exec d) ↔
      RateKept env x d := by
    rw [Reproducible, Db.recomputedFee, Db.resolveFee_congr hrules hmultipliers, hbook, hrate]
    simp only [Option.bind_eq_bind, Option.bind_some, resolveFee_of_rule hzone hrule,
      Option.map_some, Option.some.injEq, hcharged, Int.cast_inj]
    constructor
    · intro heq book' rule' hactive' hrule'
      obtain rfl := Option.some.inj (hactive.symm.trans hactive')
      obtain rfl := Option.some.inj (hrule.symm.trans hrule')
      exact heq
    · intro hkept
      exact hkept book rule hactive hrule
  rw [← hstart]
  constructor
  · intro hall
    exact ⟨hall.first, (allStates_iff_allSteps CatalogueOp.reproducible_step_iff hall.first os).mp
      hall⟩
  · rintro ⟨hfirst, hsteps⟩
    exact (allStates_iff_allSteps CatalogueOp.reproducible_step_iff hfirst os).mpr hsteps

/-- A price for procurement in Lagos, in the first book. -/
def generatorPrice : PriceRule where
  priceBookId := 0
  serviceType := .procurement
  zone := .lagos
  value := money 100
  label := "Procurement"

/-- A request that has been converted automatically: its case is under review with a confirmed
scope, and the active book has a price for it. -/
def quotableDb : Db where
  customer := Table.empty.insert { userId := 5 }
  serviceRequest := Table.empty.insert
    { customerId := 0, serviceType := some .procurement, rawDescription := "A generator",
      channel := "web", convertedCaseId := some 0 }
  automationDecision := Table.empty.insert
    { serviceRequestId := 0, outcome := .auto, reason := "", ruleResults := [],
      capabilityEnabled := true, escalationId := none, decidedAt := 0 }
  serviceCase := Table.empty.insert
    { customerId := 0, serviceType := .procurement, description := "A generator",
      location := "lagos", status := .underReview }
  caseScope := Table.empty.insert
    { caseId := 0, version := 1, zone := .lagos, objective := "Buy", tasks := ["Buy"],
      createdById := 7, confirmedById := some 5, confirmedAt := some 0 }
  priceBook := Table.empty.insert { active := true }
  priceRule := Table.empty.insert generatorPrice

/-- The quote of the case: 100 dollars at 1600 naira. -/
def generatorQuote : Quote :=
  CommerceService.autoQuoteRow {} 0 0
    ⟨0, 0, .lagos, "Procurement", 100, 1600, 160000, false⟩ 0

/-- What the case is priced for. -/
def generatorKey : PricingKey := ⟨.procurement, .lagos, .standard⟩

/-- Another price for procurement in Lagos. -/
def procurementPrice (value : ℚ) (priority : ℤ) : CreatePriceRuleDto :=
  ⟨.procurement, .lagos, value, "Procurement", some priority⟩

/-- A new book takes over, with a higher price; the old one gets a price that comes second. -/
theorem reproducible_new_book :
    AllStates CatalogueOp.step (Reproducible generatorKey generatorQuote)
      ((CommerceService.autoQuoteIfEligible {} 0).exec quotableDb)
      [.createPriceBook {}, .addPriceRule 1 (procurementPrice 120 0), .activatePriceBook 1,
        .addPriceRule 0 (procurementPrice 90 0), .addMultiplierRule 0 ⟨.urgency, .urgent, 2⟩] := by
  refine (reproducible_iff {} 0 quotableDb generatorKey generatorQuote (by decide +kernel)
    (by decide +kernel) _).mpr ⟨rateKept_of_mem_grid (Decimal.intCast_mem_grid 1600), trivial, ?_,
      trivial, ?_, ?_, trivial⟩
  · intro _ hbook
    exact absurd hbook (by decide +kernel)
  · intro _ _ _ _ rule fxRate hrule _ hlt
    have hsame : some rule = some (0, generatorPrice) := hrule.symm.trans (by decide +kernel)
    obtain rfl := Option.some.inj hsame
    exact absurd hlt (by decide +kernel)
  · intro _ _ _ hpriority
    exact absurd hpriority (by decide +kernel)

/-- A higher price with a higher priority is added to the book that the quote refers to. -/
theorem not_reproducible :
    ((CommerceService.autoQuoteIfEligible {} 0).exec quotableDb).quote.get? 0 =
        some generatorQuote ∧
      ¬ AllStates CatalogueOp.step (Reproducible generatorKey generatorQuote)
        ((CommerceService.autoQuoteIfEligible {} 0).exec quotableDb)
        [.addPriceRule 0 (procurementPrice 120 1)] := by
  refine ⟨by decide +kernel, fun h => absurd h.last ?_⟩
  rw [Reproducible]
  decide +kernel

end Asoju
