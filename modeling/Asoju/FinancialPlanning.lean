/-
The financial plan of an agent: a projection of the earnings, a savings plan and an estimate of the
annual tax.

The same functions stand in the backend and in FieldForce.  Numbers are exact rationals, and
integers from the first `Math.round` on.  The tax is graduated: what is left of the gross income
after the relief allowance fills the bands of `payeBands`, and each band is taxed on its own and
rounded.

`estimateAnnualTax_sound` is what an agent may rely on.  Full bands have whole taxes, so that only
the last band is rounded and the total is the rounded exact tax (`totalTax_eq_round`); the relief
grows by one naira at most with each naira of the gross income (`relief_step`).  The reading of the
earnings from the ledger is left out.
-/
import Asoju.Lib.Decimal
import Asoju.Lib.Graduated
import Mathlib.Data.Int.ConditionallyCompleteOrder
import Mathlib.Order.Monotone.Basic

namespace Asoju

open Lib

namespace FinancialPlanning

/-! ## Projection and savings -/

structure MonthlyEarnings where
  month : String
  totalNaira : ℚ
  earningCount : ℕ
deriving DecidableEq, Repr

inductive ProjectionBasis
  | noHistory | trailingAverage
deriving DecidableEq, Repr

structure EarningsProjection where
  basis : ProjectionBasis
  monthsOfHistory : ℕ
  trailingAverageMonthlyNaira : ℤ
  projectedNextMonthNaira : ℤ
  projectedNextQuarterNaira : ℤ
  projectedNextYearNaira : ℤ
deriving DecidableEq, Repr

def projectEarnings (history : List MonthlyEarnings) : EarningsProjection :=
  if history.length = 0 then ⟨.noHistory, 0, 0, 0, 0, 0⟩
  else
    let average := roundHalfUp ((history.map MonthlyEarnings.totalNaira).sum / history.length)
    ⟨.trailingAverage, history.length, average, average, average * 3, average * 12⟩

structure SavingsPlan where
  recommendedRatePercent : ℚ
  recommendedMonthlySavingsNaira : ℤ
  projected6MonthNaira : ℤ
  projected12MonthNaira : ℤ
deriving DecidableEq, Repr

def defaultSavingsRatePercent : ℚ := 15

def buildSavingsPlan (trailingAverageMonthlyNaira ratePercent : ℚ) : SavingsPlan :=
  let monthly := roundHalfUp (trailingAverageMonthlyNaira * ratePercent / 100)
  ⟨ratePercent, monthly, monthly * 6, monthly * 12⟩

/-! ## The tax estimate -/

structure PayeBand where
  /-- Missing for the last band, which takes the remainder. -/
  limitNaira : Option ℤ
  ratePercent : ℤ
  label : String
deriving DecidableEq, Repr

/-- `PAYE_BANDS`. -/
def payeBands : List PayeBand :=
  [⟨some 300000, 7, "First ₦300,000"⟩,
   ⟨some 300000, 11, "Next ₦300,000"⟩,
   ⟨some 500000, 15, "Next ₦500,000"⟩,
   ⟨some 500000, 19, "Next ₦500,000"⟩,
   ⟨some 1600000, 21, "Next ₦1,600,000"⟩,
   ⟨none, 24, "Above ₦3,200,000"⟩]

structure TaxBandBreakdown where
  bandLabel : String
  taxableInBandNaira : ℤ
  ratePercent : ℤ
  taxInBandNaira : ℤ
deriving DecidableEq, Repr

structure TaxEstimate where
  grossAnnualIncomeNaira : ℤ
  consolidatedReliefAllowanceNaira : ℤ
  taxableIncomeNaira : ℤ
  bands : List TaxBandBreakdown
  totalEstimatedTaxNaira : ℤ
  effectiveRatePercent : ℚ
  disclaimer : String
deriving DecidableEq, Repr

/-- The relief before it is rounded. -/
def exactRelief (gross : ℚ) : ℚ := max 200000 (gross * (1 / 100)) + gross * (1 / 5)

def consolidatedReliefAllowance (grossAnnualIncomeNaira : ℤ) : ℤ :=
  roundHalfUp (exactRelief grossAnnualIncomeNaira)

/-- The tax on what falls into a band. -/
def taxInBand (ratePercent taxableInBand : ℤ) : ℤ :=
  roundHalfUp ((taxableInBand * ratePercent : ℤ) / 100)

/-- The row of a band for what falls into it. -/
def PayeBand.breakdown (band : PayeBand) (taxableInBand : ℤ) : TaxBandBreakdown where
  bandLabel := band.label
  taxableInBandNaira := taxableInBand
  ratePercent := band.ratePercent
  taxInBandNaira := taxInBand band.ratePercent taxableInBand

/-- What the loop over the bands keeps. -/
structure TaxState where
  bands : List TaxBandBreakdown := []
  remaining : ℤ
  totalTax : ℤ := 0
deriving DecidableEq, Repr

/-- A round of the loop. -/
def TaxState.take (s : TaxState) (band : PayeBand) : TaxState :=
  let taxableInBand := match band.limitNaira with
    | none => s.remaining
    | some limit => min s.remaining limit
  { bands := s.bands ++ [band.breakdown taxableInBand]
    remaining := s.remaining - taxableInBand
    totalTax := s.totalTax + taxInBand band.ratePercent taxableInBand }

/-- The loop over the bands. -/
def taxLoop : List PayeBand → TaxState → TaxState
  | [], s => s
  | band :: bands, s => if s.remaining ≤ 0 then s else taxLoop bands (s.take band)

def disclaimer : String :=
  "Informational estimate only, based on standard Nigerian PAYE bands and the Consolidated " ++
    "Relief Allowance. Not certified tax advice — actual liability depends on your full " ++
    "circumstances (other reliefs, deductions, income sources)."

def estimateAnnualTax (grossAnnualIncomeNaira : ℚ) : TaxEstimate :=
  let gross := max 0 (roundHalfUp grossAnnualIncomeNaira)
  let cra := consolidatedReliefAllowance gross
  let taxableIncome := max 0 (gross - cra)
  let loop := taxLoop payeBands { remaining := taxableIncome }
  { grossAnnualIncomeNaira := gross
    consolidatedReliefAllowanceNaira := cra
    taxableIncomeNaira := taxableIncome
    bands := loop.bands
    totalEstimatedTaxNaira := loop.totalTax
    effectiveRatePercent :=
      if 0 < gross then (roundHalfUp (loop.totalTax / gross * 1000) : ℚ) / 10 else 0
    disclaimer := disclaimer }

structure FinancialPlan where
  history : List MonthlyEarnings
  projection : EarningsProjection
  savingsPlan : SavingsPlan
  taxEstimate : TaxEstimate
deriving DecidableEq, Repr

/-- `getFinancialPlan` for the earnings read from the ledger. -/
def financialPlan (history : List MonthlyEarnings) : FinancialPlan where
  history := history
  projection := projectEarnings history
  savingsPlan := buildSavingsPlan (projectEarnings history).trailingAverageMonthlyNaira
    defaultSavingsRatePercent
  taxEstimate := estimateAnnualTax (projectEarnings history).projectedNextYearNaira

/-! ## The loop -/

/-- The rows that the loop adds for what remains. -/
def breakdowns (bands : List PayeBand) (remaining : ℤ) : List TaxBandBreakdown :=
  List.zipWith PayeBand.breakdown bands (fill (bands.map PayeBand.limitNaira) remaining)

/-- What a round takes is what falls into the band. -/
lemma take_eq (s : TaxState) (band : PayeBand) :
    s.take band =
      { bands := s.bands ++ [band.breakdown (inBand band.limitNaira s.remaining)]
        remaining := s.remaining - inBand band.limitNaira s.remaining
        totalTax := s.totalTax +
          taxInBand band.ratePercent (inBand band.limitNaira s.remaining) } := by
  obtain ⟨limit, rate, label⟩ := band
  cases limit with
  | none => rfl
  | some limit => rfl

lemma breakdowns_of_nonpos (bands : List PayeBand) {remaining : ℤ} (h : remaining ≤ 0) :
    breakdowns bands remaining = [] := by
  rw [breakdowns, fill_of_nonpos _ h, List.zipWith_nil_right]

lemma breakdowns_cons (band : PayeBand) (bands : List PayeBand) {remaining : ℤ}
    (h : 0 < remaining) :
    breakdowns (band :: bands) remaining =
      band.breakdown (inBand band.limitNaira remaining) ::
        breakdowns bands (remaining - inBand band.limitNaira remaining) := by
  rw [breakdowns, List.map_cons, fill_cons_of_pos _ _ h, List.zipWith_cons_cons]
  rfl

/-- **The loop in closed form.** -/
theorem taxLoop_eq (bands : List PayeBand) (s : TaxState) :
    (taxLoop bands s).bands = s.bands ++ breakdowns bands s.remaining ∧
      (taxLoop bands s).totalTax = s.totalTax +
        ((breakdowns bands s.remaining).map TaxBandBreakdown.taxInBandNaira).sum := by
  induction bands generalizing s with
  | nil => exact ⟨(List.append_nil _).symm, (add_zero _).symm⟩
  | cons band bands ih =>
    rw [taxLoop]
    rcases le_or_gt s.remaining 0 with hle | hpos
    · rw [if_pos hle, breakdowns_of_nonpos _ hle]
      exact ⟨(List.append_nil _).symm, (add_zero _).symm⟩
    · rw [if_neg (not_le.mpr hpos), breakdowns_cons band bands hpos]
      obtain ⟨hbands, htotal⟩ := ih (s.take band)
      rw [take_eq] at hbands htotal ⊢
      refine ⟨?_, ?_⟩
      · rw [hbands, List.append_assoc]
        rfl
      · rw [htotal, List.map_cons, List.sum_cons, ← add_assoc]
        rfl

/-! ## The exact tax -/

/-- A band as one of a schedule, at a rate for each naira. -/
def PayeBand.rateBand (band : PayeBand) : RateBand ℚ where
  width := band.limitNaira.map Int.cast
  rate := band.ratePercent / 100

/-- The tax on a taxable income without any rounding: a piecewise linear function. -/
def exactTax (taxableIncome : ℚ) : ℚ := charge (payeBands.map PayeBand.rateBand) taxableIncome

lemma exactTax_eq (t : ℚ) :
    exactTax t =
      7 / 100 * max 0 (min t 300000) + (11 / 100 * max 0 (min (t - 300000) 300000) +
      (15 / 100 * max 0 (min (t - 600000) 500000) + (19 / 100 * max 0 (min (t - 1100000) 500000) +
      (21 / 100 * max 0 (min (t - 1600000) 1600000) + 24 / 100 * max 0 (t - 3200000))))) := by
  simp only [exactTax, payeBands, PayeBand.rateBand, List.map_cons, List.map_nil, Option.map_some,
    Option.map_none, charge]
  norm_num [sub_sub]

/-- A highest rate of 24 percent. -/
lemma ratesWithin_payeBands : RatesWithin (24 / 100) (payeBands.map PayeBand.rateBand) := by
  intro b hb
  obtain ⟨band, hmem, rfl⟩ := List.mem_map.mp hb
  have hall : ∀ band ∈ payeBands, (∀ l ∈ band.limitNaira, 0 ≤ l) ∧ 0 ≤ band.ratePercent ∧
      band.ratePercent ≤ 24 := by decide
  obtain ⟨hlimit, hnonneg, hle⟩ := hall band hmem
  refine ⟨fun w hw => ?_, ?_, ?_⟩
  · obtain ⟨l, hl, rfl⟩ := Option.map_eq_some_iff.mp hw
    exact Int.cast_nonneg (hlimit l hl)
  · have h : (0 : ℚ) ≤ band.ratePercent := Int.cast_nonneg hnonneg
    exact div_nonneg h (by norm_num)
  · have h : (band.ratePercent : ℚ) ≤ (24 : ℤ) := Int.cast_le.mpr hle
    exact div_le_div_of_nonneg_right h (by norm_num)

/-- Full bands have whole taxes. -/
def WholeTaxes (bands : List PayeBand) : Prop :=
  ∀ band ∈ bands, ∀ l ∈ band.limitNaira, 0 ≤ l ∧ (100 : ℤ) ∣ l * band.ratePercent

/-- **Only the last band is rounded**, so that the taxes of the bands add up to the rounded exact
tax. -/
lemma sum_taxInBand {r : ℚ} {bands : List PayeBand}
    (hrates : RatesWithin r (bands.map PayeBand.rateBand)) (hwhole : WholeTaxes bands) {t : ℤ}
    (ht : 0 ≤ t) :
    ((breakdowns bands t).map TaxBandBreakdown.taxInBandNaira).sum =
      roundHalfUp (charge (bands.map PayeBand.rateBand) t) := by
  induction bands generalizing t with
  | nil => exact (roundHalfUp_intCast 0).symm
  | cons band bands ih =>
    have hrest : RatesWithin r (bands.map PayeBand.rateBand) := hrates.tail
    have hwholeRest : WholeTaxes bands := fun b hb => hwhole b (List.mem_cons_of_mem band hb)
    rcases ht.eq_or_lt with rfl | hpos
    · rw [breakdowns_of_nonpos _ le_rfl, Int.cast_zero, charge_of_nonpos hrates le_rfl]
      exact (roundHalfUp_intCast 0).symm
    · obtain ⟨limit, rate, label⟩ := band
      rw [breakdowns_cons _ bands hpos, List.map_cons, List.sum_cons]
      have hcast : (0 : ℚ) < t := Int.cast_pos.mpr hpos
      cases limit with
      | none =>
        rw [inBand, sub_self, breakdowns_of_nonpos _ le_rfl, List.map_nil, List.sum_nil, add_zero]
        have hband : PayeBand.rateBand ⟨none, rate, label⟩ = ⟨none, (rate : ℚ) / 100⟩ := rfl
        refine congrArg roundHalfUp ?_
        rw [List.map_cons, hband, charge, max_eq_right hcast.le]
        push_cast
        ring
      | some l =>
        obtain ⟨hl, c, hc⟩ := hwhole _ (List.mem_cons_self ..) l rfl
        have hl' : (0 : ℚ) ≤ l := Int.cast_nonneg hl
        have hband : PayeBand.rateBand ⟨some l, rate, label⟩ =
            ⟨some (l : ℚ), (rate : ℚ) / 100⟩ := rfl
        rw [List.map_cons, hband, charge]
        rcases le_or_gt t l with hle | hlt
        · -- The band takes all that remains.
          have hle' : (t : ℚ) ≤ l := Int.cast_le.mpr hle
          rw [inBand, min_eq_left hle, sub_self, breakdowns_of_nonpos _ le_rfl, List.map_nil,
            List.sum_nil, add_zero, charge_of_nonpos hrest (sub_nonpos.mpr hle'), add_zero,
            min_eq_left hle', max_eq_right hcast.le]
          refine congrArg roundHalfUp ?_
          push_cast
          ring
        · -- The band is full, and its tax is a whole number.
          have hlt' : (l : ℚ) ≤ t := Int.cast_le.mpr hlt.le
          have hfull : (rate : ℚ) / 100 * l = c := by
            have hc' : (l : ℚ) * rate = 100 * c := by exact_mod_cast hc
            linarith
          rw [inBand, min_eq_right hlt.le, ih hrest hwholeRest (sub_nonneg.mpr hlt.le),
            min_eq_right hlt', max_eq_right hl', hfull, roundHalfUp_intCast_add, Int.cast_sub]
          congr 1
          rw [PayeBand.breakdown, taxInBand, hc, Int.cast_mul, Int.cast_ofNat,
            mul_div_cancel_left₀ _ (by norm_num)]
          exact roundHalfUp_intCast c

lemma wholeTaxes_payeBands : WholeTaxes payeBands := by
  intro band hband
  have hall : ∀ band ∈ payeBands, ∀ l ∈ band.limitNaira,
      0 ≤ l ∧ (100 : ℤ) ∣ l * band.ratePercent := by decide
  exact hall band hband

/-! ## The estimate -/

/-- What the estimate is of, for a gross income. -/
def taxableIncome (gross : ℕ) : ℤ := (estimateAnnualTax gross).taxableIncomeNaira

def totalTax (gross : ℕ) : ℤ := (estimateAnnualTax gross).totalEstimatedTaxNaira

lemma taxableIncome_eq (gross : ℕ) :
    taxableIncome gross = max 0 ((gross : ℤ) - consolidatedReliefAllowance gross) := by
  have hround : max 0 (roundHalfUp ((gross : ℕ) : ℚ)) = (gross : ℤ) := by
    have h := roundHalfUp_intCast (gross : ℤ)
    rw [Int.cast_natCast] at h
    rw [h]
    exact max_eq_right (Int.natCast_nonneg gross)
  rw [taxableIncome, estimateAnnualTax, hround]

lemma taxableIncome_nonneg (gross : ℕ) : 0 ≤ taxableIncome gross := by
  rw [taxableIncome_eq]
  exact le_max_left _ _

lemma bands_eq (gross : ℕ) :
    (estimateAnnualTax gross).bands = breakdowns payeBands (taxableIncome gross) :=
  (taxLoop_eq payeBands _).1

/-- **The total is the exact tax, rounded once.** -/
theorem totalTax_eq_round (gross : ℕ) :
    totalTax gross = roundHalfUp (exactTax (taxableIncome gross)) := by
  have hloop : totalTax gross =
      0 + ((breakdowns payeBands (taxableIncome gross)).map TaxBandBreakdown.taxInBandNaira).sum :=
    (taxLoop_eq payeBands _).2
  rw [hloop, zero_add]
  exact sum_taxInBand ratesWithin_payeBands wholeTaxes_payeBands (taxableIncome_nonneg gross)

/-! ### One naira more -/

/-- With each naira of the gross income the relief grows by one naira at most. -/
lemma relief_step (gross : ℕ) :
    consolidatedReliefAllowance gross ≤ consolidatedReliefAllowance (gross + 1 : ℕ) ∧
      consolidatedReliefAllowance (gross + 1 : ℕ) ≤ consolidatedReliefAllowance gross + 1 := by
  have hmono : exactRelief gross ≤ exactRelief ((gross : ℚ) + 1) := by
    have hmax : max (200000 : ℚ) (gross * (1 / 100)) ≤ max 200000 (((gross : ℚ) + 1) * (1 / 100)) :=
      max_le_max le_rfl (by linarith)
    rw [exactRelief, exactRelief]
    linarith
  have hstep : exactRelief ((gross : ℚ) + 1) ≤ (1 : ℤ) + exactRelief gross := by
    have hmax : max (200000 : ℚ) (((gross : ℚ) + 1) * (1 / 100)) ≤
        max 200000 ((gross : ℚ) * (1 / 100)) + 1 / 100 := by
      refine max_le ?_ ?_
      · linarith [le_max_left (200000 : ℚ) ((gross : ℚ) * (1 / 100))]
      · linarith [le_max_right (200000 : ℚ) ((gross : ℚ) * (1 / 100))]
    rw [exactRelief, exactRelief]
    push_cast
    linarith
  rw [consolidatedReliefAllowance, consolidatedReliefAllowance]
  push_cast
  constructor
  · exact roundHalfUp_mono hmono
  · have hround := roundHalfUp_mono hstep
    rw [roundHalfUp_intCast_add] at hround
    omega

lemma taxableIncome_step (gross : ℕ) :
    taxableIncome gross ≤ taxableIncome (gross + 1) ∧
      taxableIncome (gross + 1) ≤ taxableIncome gross + 1 := by
  obtain ⟨hmono, hstep⟩ := relief_step gross
  rw [taxableIncome_eq, taxableIncome_eq]
  push_cast at hmono hstep ⊢
  omega

/-- **Of one naira more at most one is taken.** -/
theorem totalTax_step (gross : ℕ) :
    totalTax gross ≤ totalTax (gross + 1) ∧ totalTax (gross + 1) ≤ totalTax gross + 1 := by
  obtain ⟨hmono, hstep⟩ := taxableIncome_step gross
  have hmono' : (taxableIncome gross : ℚ) ≤ taxableIncome (gross + 1) := Int.cast_le.mpr hmono
  have hstep' : (taxableIncome (gross + 1) : ℚ) ≤ taxableIncome gross + 1 := by exact_mod_cast hstep
  rw [totalTax_eq_round, totalTax_eq_round]
  constructor
  · exact roundHalfUp_mono (charge_le_charge ratesWithin_payeBands hmono')
  · have hcharge : exactTax (taxableIncome (gross + 1)) - exactTax (taxableIncome gross) ≤
        24 / 100 * ((taxableIncome (gross + 1) : ℚ) - taxableIncome gross) :=
      charge_sub_le ratesWithin_payeBands (by norm_num) hmono'
    have hle : exactTax (taxableIncome (gross + 1)) ≤ (1 : ℤ) + exactTax (taxableIncome gross) := by
      push_cast
      linarith
    have hround := roundHalfUp_mono hle
    rw [roundHalfUp_intCast_add] at hround
    omega

/-! ### What an agent may rely on -/

/-- The bands of an estimate are the first ones of the table, each but the last one full, and what
falls into them adds up to the taxable income. -/
structure Apportioned (e : TaxEstimate) : Prop where
  sum : (e.bands.map TaxBandBreakdown.taxableInBandNaira).sum = e.taxableIncomeNaira
  full : ∀ i row, e.bands[i]? = some row → ∃ band, payeBands[i]? = some band ∧
    row.bandLabel = band.label ∧ row.ratePercent = band.ratePercent ∧
    (i + 1 < e.bands.length → band.limitNaira = some row.taxableInBandNaira)

lemma map_taxableInBand (bands : List PayeBand) (t : ℤ) :
    (breakdowns bands t).map TaxBandBreakdown.taxableInBandNaira =
      fill (bands.map PayeBand.limitNaira) t := by
  induction bands generalizing t with
  | nil => rfl
  | cons band bands ih =>
    rcases le_or_gt t 0 with hle | hpos
    · rw [breakdowns_of_nonpos _ hle, fill_of_nonpos _ hle]
      rfl
    · rw [breakdowns_cons band bands hpos, List.map_cons, List.map_cons,
        fill_cons_of_pos _ _ hpos, ih]
      rfl

lemma apportioned (gross : ℕ) : Apportioned (estimateAnnualTax gross) where
  sum := by
    rw [bands_eq, map_taxableInBand]
    exact sum_fill (by decide) (taxableIncome_nonneg gross)
  full := by
    intro i row hrow
    have hlength : (estimateAnnualTax gross).bands.length =
        (fill (payeBands.map PayeBand.limitNaira) (taxableIncome gross)).length := by
      rw [bands_eq, ← map_taxableInBand, List.length_map]
    rw [bands_eq, breakdowns, List.getElem?_zipWith_eq_some] at hrow
    obtain ⟨band, part, hband, hpart, rfl⟩ := hrow
    refine ⟨band, hband, rfl, rfl, fun hi => ?_⟩
    rw [hlength] at hi
    have hfull := fill_full hi
    rw [List.getElem?_map, hband, hpart] at hfull
    exact Option.some.inj hfull

/-- The estimate differs from the exact tax by half a naira at most. -/
lemma abs_sub_exactTax_le (gross : ℕ) :
    |(totalTax gross : ℚ) - exactTax (taxableIncome gross)| ≤ 1 / 2 := by
  rw [totalTax_eq_round]
  obtain ⟨hle, hlt⟩ := Int.floor_eq_iff.mp (rfl : roundHalfUp (exactTax (taxableIncome gross)) = _)
  rw [abs_le]
  constructor <;> linarith

/-- **The estimate is a sound progressive tax.** -/
theorem estimateAnnualTax_sound :
    (∀ gross : ℕ, Apportioned (estimateAnnualTax gross) ∧
      |((estimateAnnualTax gross).totalEstimatedTaxNaira : ℚ) -
        exactTax (estimateAnnualTax gross).taxableIncomeNaira| ≤ 1 / 2) ∧
    Monotone (fun gross : ℕ => (estimateAnnualTax gross).totalEstimatedTaxNaira) ∧
    Monotone (fun gross : ℕ => (gross : ℤ) - (estimateAnnualTax gross).totalEstimatedTaxNaira) := by
  refine ⟨fun gross => ⟨apportioned gross, abs_sub_exactTax_le gross⟩,
    monotone_nat_of_le_succ fun gross => (totalTax_step gross).1,
    monotone_nat_of_le_succ fun gross => ?_⟩
  have hstep := (totalTax_step gross).2
  rw [totalTax, totalTax] at hstep
  push_cast at hstep ⊢
  omega

end FinancialPlanning

end Asoju
