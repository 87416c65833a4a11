/-
When the acceptance of a quote is atomic.

`acceptQuote` commits the debit of the service credit, then the quote and its invoice, and
only then has the status of the case checked.  `acceptQuote_failsCleanly_iff` shows for
which states that order does no harm.
-/
import Asoju.Quotes

namespace Asoju

open Lib CommerceService

/-- What a failed acceptance must leave alone: the SC ledger, the invoices, the quotes and
the cases. -/
structure AcceptanceView where
  scLedger : Table ScLedgerEntry
  invoices : Table Invoice
  quotes : Table Quote
  cases : Table ServiceCase

def acceptanceView (d : Db) : AcceptanceView :=
  ⟨d.scLedgerEntry, d.invoice, d.quote, d.serviceCase⟩

/-- The invoice of the array transaction can be seen. -/
lemma acceptanceView_acceptWrites_ne {d d₁ : Db}
    (hd₁ : d₁ = d ∨ ∃ e, d₁ = d.insertRow .scLedgerEntry e) (quoteId : Id) (quote : Quote)
    (r : MembershipService.CommitResult) :
    acceptanceView (acceptWrites quoteId quote r d₁) ≠ acceptanceView d := by
  intro h
  have hinv : (acceptWrites quoteId quote r d₁).invoice = d.invoice :=
    congrArg AcceptanceView.invoices h
  have hnext : (acceptWrites quoteId quote r d₁).invoice.next = d.invoice.next + 1 := by
    rcases hd₁ with rfl | ⟨e, rfl⟩ <;> rfl
  rw [hinv] at hnext
  omega

/-- **When a failed acceptance changes nothing.**  In every state, for every actor and
quote: exactly when one of the checks before the first write fails, or the case of the quote
is in the one status from which it can move on to AWAITING_PAYMENT. -/
theorem acceptQuote_failsCleanly_iff (d : Db) (actor : AuthenticatedUser) (quoteId : Id) :
    Prog.FailsCleanly acceptanceView (acceptQuote actor quoteId) d ↔
      (∀ x, ¬ Acceptable d actor quoteId x) ∨
        ∃ x, d.quoteDetail quoteId = some x ∧ x.serviceCase.status = .quoted := by
  by_cases hx : ∃ x, Acceptable d actor quoteId x
  · obtain ⟨x, hx⟩ := hx
    obtain ⟨r, d₁, hd₁, hrun⟩ := acceptQuote_run hx
    by_cases hs : x.serviceCase.status = .quoted
    · refine iff_of_true (fun e d' h => ?_) (Or.inr ⟨x, hx.found, hs⟩)
      rw [hrun, if_pos hs] at h
      cases h
    · rw [if_neg hs] at hrun
      refine iff_of_false (fun h => ?_) ?_
      · exact acceptanceView_acceptWrites_ne hd₁ _ _ _ (h _ _ hrun)
      · rintro (h | ⟨x', hx', hs'⟩)
        · exact h x hx
        · obtain rfl : x = x' := Option.some.inj (hx.found.symm.trans hx')
          exact hs hs'
  · have hnone : ∀ x, ¬ Acceptable d actor quoteId x := fun x h => hx ⟨x, h⟩
    refine iff_of_true (fun e d' h => ?_) (Or.inl hnone)
    obtain ⟨e', hrun⟩ := acceptQuote_run_of_not hnone
    rw [hrun] at h
    cases h
    rfl

/-- A member's quote, issued and not yet accepted, whose case has been put on hold.  The
quote shows a service credit of 16000 naira, and the balance would cover it. -/
def heldQuoteDb : Db where
  clock := 100
  customer := Table.empty.insert { userId := 7 }
  serviceCase := Table.empty.insert
    { customerId := 0, serviceType := .propertyInspection, description := "Site visit"
      location := "Lekki", tier := .concierge, status := .onHold, heldFromStatus := some .quoted }
  subscription := Table.empty.insert
    { customerId := 0, startedAt := 0, fxRate := ⟨16000000⟩ }
  scLedgerEntry := Table.empty.insert
    { subscriptionId := 0, type := .grant, amountUsd := ⟨5000⟩ }
  quote := Table.empty.insert
    { caseId := 0, amount := ⟨7400000⟩, createdAt := 1, expiresAt := some 1000
      subscriptionId := some 0, baseAmount := some ⟨10000000⟩
      nonServiceFeeAmount := some ⟨0⟩, discountAmount := some ⟨1000000⟩
      scAppliedNgn := some ⟨1600000⟩ }

/-- The acceptance of that quote throws, after ten dollars of credit have been debited, an
invoice has been created and the quote has been marked as accepted. -/
theorem acceptQuote_not_failsCleanly :
    ¬ Prog.FailsCleanly acceptanceView (acceptQuote ⟨7, .customer⟩ 0) heldQuoteDb ∧
      (let s := (acceptQuote ⟨7, .customer⟩ 0).run heldQuoteDb
       s.1 = .error (invalidTransition .onHold .awaitingPayment) ∧
        s.2.scLedgerEntry.values.map (fun e => (e.type, e.amountUsd)) =
          [(.grant, ⟨5000⟩), (.debit, ⟨1000⟩)] ∧
        s.2.invoice.values.map (·.amount) = [⟨7400000⟩] ∧
        (s.2.quote.get? 0).map (·.acceptedAt) = some (some 101)) := by
  refine ⟨fun h => ?_, by decide +kernel⟩
  have hview := h (invalidTransition .onHold .awaitingPayment)
    ((acceptQuote ⟨7, .customer⟩ 0).exec heldQuoteDb) (Prod.ext (by decide +kernel) rfl)
  have hnext : ((acceptQuote ⟨7, .customer⟩ 0).exec heldQuoteDb).invoice.next =
      heldQuoteDb.invoice.next := congrArg (fun v => v.invoices.next) hview
  exact absurd hnext (by decide +kernel)

end Asoju
