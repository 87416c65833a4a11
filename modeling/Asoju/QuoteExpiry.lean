/-
The sweep for quotes that have expired.

The sweep goes over the quotes that have expired unaccepted, and reopens their cases.  A case that
has been quoted again still has its old quote, and the sweep takes the case from the new one.
`runQuoteExpirySweep_iff` says that this is the only way to go wrong.
-/
import Asoju.Quotes

namespace Asoju

open Lib CommerceService

/-- The quote has expired at the time `t`, and nobody has accepted it. -/
def Quote.Lapsed (q : Quote) (t : Time) : Prop := q.acceptedAt.isNone ∧ isExpired q t

instance decidableLapsed (q : Quote) (t : Time) : Decidable (q.Lapsed t) :=
  inferInstanceAs (Decidable (_ ∧ _))

/-- The order of the integers, which the last quote goes by. -/
local instance quoteTimePreorder : Preorder Time := Int.instLinearOrder.toPreorder

/-- The quote of the case that was created last. -/
def Db.currentQuote (d : Db) (caseId : Id) : Option Quote :=
  (d.quote.values.filter fun q => q.caseId = caseId).argmax Quote.createdAt

/-- Some quote of the case has lapsed. -/
def Db.HasLapsed (d : Db) (caseId : Id) : Prop :=
  ∃ q ∈ d.quote.values, q.caseId = caseId ∧ q.Lapsed d.clock

/-- The case is open for another quote. -/
def ServiceCase.reopened (c : ServiceCase) : ServiceCase := { c with status := .underReview }

/-! ## The sweep in closed form -/

namespace CommerceService

/-- The case is reopened, if it is still quoted. -/
lemma expireQuote_run (caseId : Id) (d : Db) :
    ((expireQuote caseId).run d).1 = .ok () ∧
      ((expireQuote caseId).exec d).quote = d.quote ∧
      ∀ i, ((expireQuote caseId).exec d).serviceCase.get? i = (d.serviceCase.get? i).map fun c =>
        if i = caseId ∧ c.status = .quoted then c.reopened else c := by
  have hfind : (Prisma.findUnique .serviceCase caseId).run d =
      (.ok (d.serviceCase.get? caseId), d) := rfl
  rw [Prog.exec, expireQuote, Prog.run_bind_ok hfind]
  cases hquoted : (d.serviceCase.get? caseId).filter fun c => c.status = .quoted with
  | none =>
    refine ⟨rfl, rfl, fun i => ?_⟩
    show d.serviceCase.get? i = _
    cases hc : d.serviceCase.get? i with
    | none => rfl
    | some c =>
      have hnot : ¬ (i = caseId ∧ c.status = .quoted) := by
        rintro ⟨rfl, hs⟩
        rw [hc, Option.filter_some, if_pos (by simpa using hs)] at hquoted
        cases hquoted
      rw [Option.map_some, if_neg hnot]
  | some c =>
    obtain ⟨hc, hs⟩ := Option.filter_eq_some_iff.mp hquoted
    have hs : c.status = .quoted := of_decide_eq_true hs
    have hmem : .underReview ∈ transitions c.status := by rw [hs]; decide
    have hmove : (CasesService.systemTransitionCase caseId .underReview
        (some "Quote expired unaccepted")).run d = (.ok { c with status := .underReview },
          d.moveCase caseId c .underReview c.heldFromStatus none
            (some "Quote expired unaccepted")) := by
      rw [CasesService.systemTransitionCase, CasesService.applyTransition_run, hc]
      exact if_pos hmem
    dsimp only
    rw [Prog.run_bind_ok hmove]
    refine ⟨rfl, rfl, fun i => ?_⟩
    refine (get?_moveCase d hc ..).trans ?_
    by_cases hi : caseId = i
    · subst hi
      rw [if_pos rfl, hc, Option.map_some, if_pos ⟨rfl, hs⟩]
      rfl
    · rw [if_neg hi]
      cases d.serviceCase.get? i with
      | none => rfl
      | some c' => rw [Option.map_some, if_neg fun h => hi h.1.symm]

/-- The cases after the quotes of `qs` have been gone over. -/
lemma get?_expireQuotes (qs : List Quote) (d : Db) (i : Id) :
    (qs.foldl (fun d q => (expireQuote q.caseId).exec d) d).serviceCase.get? i =
      (d.serviceCase.get? i).map fun c =>
        if (∃ q ∈ qs, q.caseId = i) ∧ c.status = .quoted then c.reopened else c := by
  induction qs generalizing d with
  | nil => simp
  | cons q qs ih =>
    rw [List.foldl_cons, ih, (expireQuote_run q.caseId d).2.2, Option.map_map]
    refine congrArg (Option.map · _) (funext fun c => ?_)
    rw [Function.comp_apply]
    by_cases hs : c.status = .quoted
    · by_cases hi : i = q.caseId
      · -- the case is open when the rest is gone over
        have hnow : i = q.caseId ∧ c.status = .quoted := ⟨hi, hs⟩
        have hlater : ¬ ((∃ q ∈ qs, q.caseId = i) ∧ c.reopened.status = .quoted) := by
          rintro ⟨-, hquoted⟩
          cases hquoted
        rw [if_pos hnow, if_neg hlater, if_pos ⟨⟨q, List.mem_cons_self, hi.symm⟩, hs⟩]
      · have hnow : ¬ (i = q.caseId ∧ c.status = .quoted) := fun h => hi h.1
        have hiff : (∃ q' ∈ q :: qs, q'.caseId = i) ↔ ∃ q' ∈ qs, q'.caseId = i := by
          simp [Ne.symm hi]
        rw [if_neg hnow]
        simp only [hiff]
    · simp only [hs, and_false, if_false]

/-- The sweep reopens the quoted cases with a lapsed quote. -/
lemma get?_runQuoteExpirySweep (d : Db) (i : Id) [Decidable (d.HasLapsed i)] :
    (runQuoteExpirySweep.exec d).serviceCase.get? i = (d.serviceCase.get? i).map fun c =>
      if c.status = .quoted ∧ d.HasLapsed i then c.reopened else c := by
  have hround (q : Quote) (s : Db) : ((expireQuote q.caseId).run s).1 = .ok () :=
    (expireQuote_run q.caseId s).1
  have hloop := Prog.run_forM hround
    (d.quote.values.filter fun q => q.acceptedAt.isNone ∧ isExpired q d.clock ∧
      (d.serviceCase.get? q.caseId).any fun c => c.status = .quoted) d
  rw [Prog.exec, runQuoteExpirySweep, Prog.run_bind_ok (Prisma.run_now d),
    Prog.run_bind_ok (Prisma.run_query d _ _), Prog.run_bind_ok hloop]
  refine (get?_expireQuotes _ d i).trans ?_
  cases hc : d.serviceCase.get? i with
  | none => rfl
  | some c =>
    rw [Option.map_some, Option.map_some]
    refine congrArg some (if_congr ?_ rfl rfl)
    rw [and_comm]
    refine and_congr_right fun hs => ?_
    simp only [List.mem_filter, decide_eq_true_eq, Db.HasLapsed, Quote.Lapsed]
    constructor
    · rintro ⟨q, ⟨hmem, hopen, hexpired, -⟩, hi⟩
      exact ⟨q, hmem, hi, hopen, hexpired⟩
    · rintro ⟨q, hmem, hi, hopen, hexpired⟩
      exact ⟨q, ⟨hmem, hopen, hexpired, by simp [hi, hc, hs]⟩, hi⟩

end CommerceService

/-! ## Which cases it reopens -/

/-- The sweep reopens the quoted cases whose last quote has lapsed, and leaves the other cases as
they are. -/
def ReopensLapsed (d : Db) : Prop :=
  ∀ i, (runQuoteExpirySweep.exec d).serviceCase.get? i = (d.serviceCase.get? i).map fun c =>
    if c.status = .quoted ∧ (d.currentQuote i).any (fun q => q.Lapsed d.clock) then c.reopened
    else c

lemma hasLapsed_of_currentQuote {d : Db} {i : Id}
    (h : (d.currentQuote i).any (fun q => q.Lapsed d.clock) = true) : d.HasLapsed i := by
  obtain ⟨q, hq, hlapsed⟩ := (Option.any_eq_true _ _).mp h
  obtain ⟨hmem, hi⟩ := List.mem_filter.mp (List.argmax_mem hq)
  exact ⟨q, hmem, of_decide_eq_true hi, of_decide_eq_true hlapsed⟩

/-- **The sweep goes by the last quote.**  In every database the sweep reopens the quoted cases
whose last quote has lapsed and no others, if and only if no quoted case has a lapsed quote while
its last one has not lapsed. -/
theorem runQuoteExpirySweep_iff (d : Db) :
    ReopensLapsed d ↔
      ∀ i c, d.serviceCase.get? i = some c → c.status = .quoted → d.HasLapsed i →
        (d.currentQuote i).any (fun q => q.Lapsed d.clock) = true := by
  classical
  constructor
  · intro h i c hc hs hlapsed
    have hi := h i
    rw [get?_runQuoteExpirySweep, hc, Option.map_some, Option.map_some, if_pos ⟨hs, hlapsed⟩,
      Option.some.injEq] at hi
    by_contra hcurrent
    rw [if_neg fun h => hcurrent h.2] at hi
    rw [← hi] at hs
    cases hs
  · intro h i
    rw [get?_runQuoteExpirySweep]
    cases hc : d.serviceCase.get? i with
    | none => rfl
    | some c =>
      rw [Option.map_some, Option.map_some]
      refine congrArg some (if_congr ?_ rfl rfl)
      exact and_congr_right fun hs => ⟨h i c hc hs, hasLapsed_of_currentQuote⟩

/-- A case that has been quoted again after its first quote has expired. -/
def requotedDb : Db where
  clock := 1000
  serviceCase := Table.empty.insert
    { customerId := 0, serviceType := .propertyInspection, description := "Site visit"
      location := "Lekki", status := .quoted }
  quote := (Table.empty.insert
      { caseId := 0, amount := ⟨7400000⟩, createdAt := 1, expiresAt := some 500 }).insert
    { caseId := 0, amount := ⟨7600000⟩, createdAt := 600, expiresAt := some 5000 }

/-- The sweep takes the case from its new quote. -/
theorem runQuoteExpirySweep_not : ¬ ReopensLapsed requotedDb := by
  intro h
  have hreopened : ((runQuoteExpirySweep.exec requotedDb).serviceCase.get? 0).map (·.status) =
      some .underReview := by decide +kernel
  rw [h 0] at hreopened
  exact absurd hreopened (by decide +kernel)

end Asoju
