/-
The reports about one payout, one after the other.

A report is processed when the payout has had none before, whatever the two are about.  So a
redelivery changes nothing, but neither does a reversal that follows a success: `distinct_iff` says
that the reports are taken as they should be exactly when no such reversal is among them.
-/
import Asoju.FieldForce.PayoutBooks
import Asoju.Lib.Run

namespace Asoju.FieldForce

open Lib

namespace PaystackWebhook

/-- A delivery of an event, at a time. -/
abbrev Delivery := PaystackWebhookEvent × Time

def receiveOne (d : Db) (e : Delivery) : Db := (POST e.1 e.2).exec d

def IsSuccess (e : Delivery) : Prop := (parseWebhookEvent e.1).eventType = .transferSuccess

def IsReversal (e : Delivery) : Prop := (parseWebhookEvent e.1).eventType = .transferReversed

instance (e : Delivery) : Decidable (IsSuccess e) := inferInstanceAs (Decidable (_ = _))

instance (e : Delivery) : Decidable (IsReversal e) := inferInstanceAs (Decidable (_ = _))

/-- The event is one about the transfer with the reference. -/
def IsAbout (reference : String) (e : Delivery) : Prop :=
  (parseWebhookEvent e.1).eventType ≠ .unknown ∧
    (parseWebhookEvent e.1).providerReference = some reference

instance (reference : String) (e : Delivery) : Decidable (IsAbout reference e) :=
  inferInstanceAs (Decidable (_ ∧ _))

/-- The payout with the reference. -/
def payoutWith (reference : String) (d : Db) : Option (Id × Payout) :=
  Db.payouts.find (hasProviderReference reference) d

/-- The first reversal that follows a success. -/
def LateReversal (pre : List Delivery) (e : Delivery) : Prop :=
  IsReversal e ∧ (∃ x ∈ pre, IsSuccess x) ∧ ∀ x ∈ pre, ¬ IsReversal x

/-- Each event counts once: a redelivery changes nothing, and the first reversal that follows a
success ends in REVERSED, with the amount back once and for all. -/
def Distinct (payoutId : Id) (payout : Payout) (d : Db) (es : List Delivery) : Prop :=
  ∀ pre e post, es = pre ++ e :: post →
    (e.1 ∈ pre.map Prod.fst →
      (runFrom receiveOne d (pre ++ [e])).books = (runFrom receiveOne d pre).books) ∧
    (LateReversal pre e →
      ((runFrom receiveOne d es).payout.get? payoutId).map Payout.status = some .reversed ∧
        (runFrom receiveOne d es).books.totalPaid payout.agentId =
          (runFrom receiveOne d pre).books.totalPaid payout.agentId - payout.netAmount ∧
        (runFrom receiveOne d es).books.available payout.agentId =
          (runFrom receiveOne d pre).books.available payout.agentId + payout.amount)

/-- There is a payout with the reference, and it has had a report. -/
def Flagged (reference : String) (d : Db) : Prop :=
  ∃ q, payoutWith reference d = some q ∧ q.2.webhookReceivedAt.isSome

lemma subject_of_isAbout {reference : String} {e : Delivery} (h : IsAbout reference e) (d : Db) :
    subject e.1 d.books = payoutWith reference d := by
  rw [subject, h.2]
  cases htype : (parseWebhookEvent e.1).eventType with
  | unknown => exact absurd htype h.1
  | transferSuccess => rfl
  | transferFailed => rfl
  | transferReversed => rfl

/-- A report about a payout that has had one changes nothing. -/
lemma books_receiveOne_of_flagged {reference : String} {d : Db} {e : Delivery}
    (hflagged : Flagged reference d) (habout : IsAbout reference e) :
    (receiveOne d e).books = d.books := by
  obtain ⟨q, hq, hflag⟩ := hflagged
  have h := POST_does e.1 e.2 d
  rw [subject_of_isAbout habout, hq, Does, if_pos hflag] at h
  exact h

/-- A change of the payout that is found, which leaves it its reference. -/
lemma payoutWith_modify {reference : String} {d : Db} {payoutId : Id} {payout : Payout}
    (h : payoutWith reference d = some (payoutId, payout)) {f : Payout → Payout}
    (hf : ∀ p, (f p).providerReference = p.providerReference) :
    payoutWith reference (Db.payouts.modify payoutId f d) = some (payoutId, f payout) := by
  rw [payoutWith, TableOf.find] at h ⊢
  rw [TableOf.get_modify, Table.modify, Table.find?_mapRows _ fun i p => ?_, h]
  · simp
  · split_ifs
    · rw [hasProviderReference, hf p, hasProviderReference]
    · rfl

/-- The payout that is found depends on the payouts alone. -/
lemma payoutWith_congr {d d' : Db} (h : d'.payout = d.payout) (reference : String) :
    payoutWith reference d' = payoutWith reference d := by
  rw [payoutWith, TableOf.find, show Db.payouts.get d' = Db.payouts.get d from h]
  rfl

lemma flagged_of_books_eq {reference : String} {d d' : Db} (h : d'.books = d.books)
    (hflagged : Flagged reference d) : Flagged reference d' := by
  obtain ⟨q, hq, hflag⟩ := hflagged
  exact ⟨q, (payoutWith_congr (congrArg Books.payouts h) reference).trans hq, hflag⟩

/-- A first report leaves its mark on the payout. -/
lemma flagged_receiveOne {reference : String} {d : Db} {e : Delivery} {q : Id × Payout}
    (hpayout : payoutWith reference d = some q) (habout : IsAbout reference e) :
    Flagged reference (receiveOne d e) := by
  by_cases hflag : q.2.webhookReceivedAt.isSome = true
  · have hflagged : Flagged reference d := ⟨q, hpayout, hflag⟩
    exact flagged_of_books_eq (books_receiveOne_of_flagged hflagged habout) hflagged
  · have h := POST_does e.1 e.2 d
    rw [subject_of_isAbout habout, hpayout, Does, if_neg hflag] at h
    obtain ⟨m, hmakes, h⟩ := h
    have hrow : ∀ p, (m.row p).providerReference = p.providerReference ∧
        (m.row p).webhookReceivedAt.isSome := by
      intro p
      cases hmakes <;> exact ⟨rfl, rfl⟩
    have htable : (receiveOne d e).payout = (Db.payouts.modify q.1 m.row d).payout :=
      (congrArg Books.payouts h).trans Books.payouts_make
    exact ⟨(q.1, m.row q.2), (payoutWith_congr htable reference).trans
      (payoutWith_modify hpayout fun p => (hrow p).1), (hrow _).2⟩

/-- **After a first report** the books stay as they are. -/
lemma books_run_of_flagged {reference : String} {d : Db} {es : List Delivery}
    (hflagged : Flagged reference d) (habout : ∀ e ∈ es, IsAbout reference e) :
    (runFrom receiveOne d es).books = d.books ∧ Flagged reference (runFrom receiveOne d es) := by
  induction es generalizing d with
  | nil => exact ⟨rfl, hflagged⟩
  | cons e es ih =>
    rw [List.forall_mem_cons] at habout
    have hbooks := books_receiveOne_of_flagged hflagged habout.1
    obtain ⟨hrest, hflagged'⟩ := ih (flagged_of_books_eq hbooks hflagged) habout.2
    exact ⟨hrest.trans hbooks, hflagged'⟩

/-- Whatever follows a first report changes nothing. -/
lemma books_run_append {reference : String} {d : Db} {q : Id × Payout} {pre post : List Delivery}
    (hpayout : payoutWith reference d = some q) (hne : pre ≠ [])
    (habout : ∀ e ∈ pre ++ post, IsAbout reference e) :
    (runFrom receiveOne d (pre ++ post)).books = (runFrom receiveOne d pre).books := by
  cases pre with
  | nil => exact absurd rfl hne
  | cons e pre =>
    rw [List.cons_append, List.forall_mem_cons, List.forall_mem_append] at habout
    have hflagged := flagged_receiveOne hpayout habout.1
    have hpre := books_run_of_flagged hflagged habout.2.1
    rw [runFrom_append]
    exact (books_run_of_flagged hpre.2 habout.2.2).1

/-- **Each event counts once** exactly when no first reversal follows a success. -/
theorem distinct_iff (reference : String) (payoutId : Id) (payout : Payout) (d : Db)
    (hpayout : payoutWith reference d = some (payoutId, payout)) (hamount : 0 < payout.amount)
    (es : List Delivery) (habout : ∀ e ∈ es, IsAbout reference e) :
    Distinct payoutId payout d es ↔ ¬ ∃ pre e post, es = pre ++ e :: post ∧ LateReversal pre e := by
  constructor
  · rintro h ⟨pre, e, post, rfl, hlate⟩
    obtain ⟨x, hx, -⟩ := hlate.2.1
    have hsame := books_run_append hpayout (List.ne_nil_of_mem hx) habout
    have hback := ((h pre e post rfl).2 hlate).2.2
    rw [hsame] at hback
    omega
  · rintro h pre e post rfl
    refine ⟨fun hmem => ?_, fun hlate => absurd ⟨pre, e, post, rfl, hlate⟩ h⟩
    obtain ⟨x, hx, -⟩ := List.mem_map.mp hmem
    refine books_run_append hpayout (List.ne_nil_of_mem hx) fun y hy => habout y ?_
    rw [List.append_cons]
    exact List.mem_append_left _ hy

/-! ### A payout of sixty naira -/

/-- A payout that is being processed. -/
def sixty : Payout where
  agentId := 0
  amount := 60
  asojuFee := 6
  netAmount := 54
  status := .processing
  providerReference := some "t-1"

/-- Its agent has forty left. -/
def processing : Db where
  walletAccount := Table.empty.insert { agentId := 0, availableBalance := 40 }
  payout := Table.empty.insert sixty

def succeeds : Delivery :=
  ({ event := "transfer.success", reference := some "t-1", status := some "success" }, 1)

def reverses : Delivery :=
  ({ event := "transfer.reversed", reference := some "t-1", status := some "reversed" }, 2)

/-- A reversal, and its redelivery. -/
theorem distinct_iff_reversed : Distinct 0 sixty processing [reverses, reverses] ↔
    ¬ ∃ pre e post, [reverses, reverses] = pre ++ e :: post ∧ LateReversal pre e :=
  distinct_iff "t-1" 0 sixty processing (by decide +kernel) (by decide) _ (by decide +kernel)

/-- A reversal that follows a success is swallowed. -/
theorem reversal_swallowed :
    ¬ ∀ (reference : String) (payoutId : Id) (payout : Payout) (d : Db) (es : List Delivery),
      payoutWith reference d = some (payoutId, payout) → 0 < payout.amount →
        (∀ e ∈ es, IsAbout reference e) → Distinct payoutId payout d es := by
  intro h
  have hlate : LateReversal [succeeds] reverses := ⟨by decide +kernel, by decide +kernel, by
    decide +kernel⟩
  have hback := (h "t-1" 0 sixty processing [succeeds, reverses] (by decide +kernel) (by decide)
    (by decide +kernel) [succeeds] reverses [] rfl).2 hlate
  exact absurd hback.1 (by decide +kernel)

end PaystackWebhook

end Asoju.FieldForce
