/-
Maker and checker: every large refund was requested by one user and approved by another.

A refund has no reference to its request, and a payment can have many of either, so the
correspondence is carried as a `Lib.Matching` of the refunds above the threshold with the
approved requests.  The threshold is compared with the amount that is asked for, and the
column holds that amount rounded to kobo: the correspondence is exact as long as the rounding
does not cross the threshold.
-/
import Asoju.Operations
import Asoju.Lib.Matching

namespace Asoju

open Lib CommerceService

/-! ## The two sides -/

/-- The refund under this key is above the threshold. -/
def BigRefund (env : Env) (d : Db) (refundId : Id) : Prop :=
  ∃ r, d.refund.get? refundId = some r ∧ refundApprovalThresholdNgn env < r.amount.toRat

/-- The request under this key has been approved. -/
def ApprovedRequest (d : Db) (requestId : Id) : Prop :=
  ∃ q, d.refundRequest.get? requestId = some q ∧ q.status = .approved

/-- The refund and the request agree on the payment and the amount, and the user who made the
refund is the one who decided on the request, and not the one who made it. -/
def DecidedBy (d : Db) (refundId requestId : Id) : Prop :=
  ∃ r q, d.refund.get? refundId = some r ∧ d.refundRequest.get? requestId = some q ∧
    q.paymentId = r.paymentId ∧ q.amount = r.amount ∧ q.decidedById = r.actorId ∧
    ∃ actor, r.actorId = some actor ∧ actor ≠ q.requestedById

/-- **The correspondence**: the large refunds and the approved requests are the same, one to
one. -/
def MakerChecked (env : Env) (d : Db) : Prop :=
  ∃ e : {i // BigRefund env d i} ≃ {j // ApprovedRequest d j}, ∀ i, DecidedBy d i.1 (e i).1

/-- The matching behind it; and no pending request is about a small amount. -/
structure Matched (env : Env) (d : Db) : Prop where
  pairs : ∃ pairs, Matching (BigRefund env d) (ApprovedRequest d) (DecidedBy d) pairs
  pending : ∀ j q, d.refundRequest.get? j = some q → q.status = .pending →
    refundApprovalThresholdNgn env < q.amount.toRat

lemma Matched.makerChecked {env : Env} {d : Db} (h : Matched env d) : MakerChecked env d :=
  let ⟨_, hpairs⟩ := h.pairs
  hpairs.exists_equiv

/-! ## One lemma for each kind of write -/

/-- The refunds and the requests are the same. -/
def SameRefunds (a b : Db) : Prop := b.refund = a.refund ∧ b.refundRequest = a.refundRequest

lemma SameRefunds.trans {a b c : Db} (hab : SameRefunds a b) (hbc : SameRefunds b c) :
    SameRefunds a c := ⟨hbc.1.trans hab.1, hbc.2.trans hab.2⟩

section

variable {env : Env} {d : Db}

lemma Matched.congr {d' : Db} (h : Matched env d) (hsame : SameRefunds d d') :
    Matched env d' := by
  obtain ⟨hrefund, hrequest⟩ := hsame
  obtain ⟨pairs, hpairs⟩ := h.pairs
  refine ⟨⟨pairs, hpairs.congr (fun i => ?_) (fun j => ?_) fun i j _ _ hij => ?_⟩, ?_⟩
  · rw [BigRefund, hrefund, BigRefund]
  · rw [ApprovedRequest, hrequest, ApprovedRequest]
  · rwa [DecidedBy, hrefund, hrequest]
  · rw [hrequest]
    exact h.pending

/-- A new request, pending and about a large amount. -/
lemma Matched.insertRequest (h : Matched env d) {q : RefundRequest} (hq : q.status = .pending)
    (hbig : refundApprovalThresholdNgn env < q.amount.toRat) :
    Matched env (d.insertRow .refundRequest q) := by
  have hget : ∀ j r, (d.insertRow .refundRequest q).refundRequest.get? j = some r ↔
      (j = d.refundRequest.next ∧ r = q) ∨
        (j ≠ d.refundRequest.next ∧ d.refundRequest.get? j = some r) := by
    intro j r
    show (d.refundRequest.insert q).get? j = some r ↔ _
    rw [Table.get?_insert]
    by_cases hj : j = d.refundRequest.next <;> simp [hj, eq_comm]
  obtain ⟨pairs, hpairs⟩ := h.pairs
  refine ⟨⟨pairs, hpairs.congr (fun i => Iff.rfl) (fun j => ?_) ?_⟩, fun j r hr hs => ?_⟩
  · constructor
    · rintro ⟨r, hr, hs⟩
      rcases (hget j r).mp hr with ⟨-, rfl⟩ | ⟨-, hr⟩
      · rw [hq] at hs
        cases hs
      · exact ⟨r, hr, hs⟩
    · rintro ⟨r, hr, hs⟩
      exact ⟨r, Table.get?_insert_of_some hr q, hs⟩
  · rintro i j - - ⟨r, q', hr, hq', hrest⟩
    exact ⟨r, q', hr, Table.get?_insert_of_some hq' q, hrest⟩
  · rcases (hget j r).mp hr with ⟨-, rfl⟩ | ⟨-, hr⟩
    · exact hbig
    · exact h.pending j r hr hs

/-- The large refunds after a new refund. -/
lemma bigRefund_insert_iff {d' : Db} {r : Refund} (hrefund : d'.refund = d.refund.insert r)
    (i : Id) :
    BigRefund env d' i ↔
      (i = d.refund.next ∧ refundApprovalThresholdNgn env < r.amount.toRat) ∨
        BigRefund env d i := by
  rw [BigRefund, hrefund, Table.get?_insert]
  constructor
  · rintro ⟨s, hs, hbig⟩
    split_ifs at hs with hi
    · cases hs
      exact Or.inl ⟨hi, hbig⟩
    · exact Or.inr ⟨s, hs, hbig⟩
  · rintro (⟨rfl, hbig⟩ | ⟨s, hs, hbig⟩)
    · exact ⟨r, if_pos rfl, hbig⟩
    · exact ⟨s, by rw [if_neg (Nat.ne_of_lt (d.refund.lt_next_of_get? hs)), hs], hbig⟩

/-- A small refund. -/
lemma Matched.insertSmall {d' : Db} (h : Matched env d) {r : Refund}
    (hrefund : d'.refund = d.refund.insert r) (hrequest : d'.refundRequest = d.refundRequest)
    (hsmall : r.amount.toRat ≤ refundApprovalThresholdNgn env) : Matched env d' := by
  obtain ⟨pairs, hpairs⟩ := h.pairs
  refine ⟨⟨pairs, hpairs.congr (fun i => ?_) (fun j => ?_) ?_⟩, ?_⟩
  · rw [bigRefund_insert_iff hrefund]
    exact ⟨fun hi => hi.resolve_left fun hi => absurd hi.2 (not_lt.mpr hsmall), Or.inr⟩
  · rw [ApprovedRequest, hrequest, ApprovedRequest]
  · rintro i j - - ⟨s, q, hs, hq, hrest⟩
    exact ⟨s, q, by rw [hrefund, Table.get?_insert_of_some hs], by rw [hrequest, hq], hrest⟩
  · rw [hrequest]
    exact h.pending

/-- The rows of the requests after a decision on one of them. -/
lemma get?_decideRequest (j : Id) (status : RefundRequestStatus) (actorId : Id)
    (note : Option String) (i : Id) :
    (d.decideRequest j status actorId note).refundRequest.get? i =
      if i = j then (d.refundRequest.get? i).map fun r =>
        { r with status, decidedById := some actorId, decidedAt := some d.clock
                 decisionNote := note }
      else d.refundRequest.get? i :=
  Table.get?_modify _ _ _ _

/-- A pending request that is rejected. -/
lemma Matched.reject (h : Matched env d) {j : Id} {q : RefundRequest}
    (hq : d.refundRequest.get? j = some q) (hs : q.status = .pending) (actorId : Id)
    (note : Option String) : Matched env (d.decideRequest j .rejected actorId note) := by
  have hne : ∀ i, ApprovedRequest d i → i ≠ j := by
    rintro i ⟨q', hq', hs'⟩ rfl
    obtain rfl := Option.some.inj (hq.symm.trans hq')
    rw [hs] at hs'
    cases hs'
  obtain ⟨pairs, hpairs⟩ := h.pairs
  refine ⟨⟨pairs, hpairs.congr (fun i => Iff.rfl) (fun i => ?_) ?_⟩, fun i r hr hrs => ?_⟩
  · rw [ApprovedRequest, get?_decideRequest]
    constructor
    · rintro ⟨r, hr, hrs⟩
      split_ifs at hr with hi
      · obtain ⟨r', -, rfl⟩ := Option.map_eq_some_iff.mp hr
        cases hrs
      · exact ⟨r, hr, hrs⟩
    · intro hi
      rw [if_neg (hne i hi)]
      exact hi
  · rintro i k - hk ⟨r, q', hr, hq', hrest⟩
    exact ⟨r, q', hr, by rw [get?_decideRequest, if_neg (hne k hk), hq'], hrest⟩
  · rw [get?_decideRequest] at hr
    split_ifs at hr with hi
    · obtain ⟨r', -, rfl⟩ := Option.map_eq_some_iff.mp hr
      cases hrs
    · exact h.pending i r hr hrs

/-- A pending request that is approved, with the refund it leads to: one more pair. -/
lemma Matched.approve {d' : Db} (h : Matched env d) {j : Id} {q : RefundRequest}
    (hq : d.refundRequest.get? j = some q) (hs : q.status = .pending) {actorId : Id}
    (hother : q.requestedById ≠ actorId) {note reason : Option String}
    (hrefund : d'.refund = d.refund.insert ⟨q.paymentId, q.amount, reason, some actorId⟩)
    {t : Option Time}
    (hrequest : d'.refundRequest = d.refundRequest.modify j fun r =>
      { r with status := .approved, decidedById := some actorId, decidedAt := t
               decisionNote := note }) : Matched env d' := by
  have hbig := h.pending j q hq hs
  have hget : ∀ i, d'.refundRequest.get? i =
      if i = j then (d.refundRequest.get? i).map fun r =>
        { r with status := .approved, decidedById := some actorId, decidedAt := t
                 decisionNote := note }
      else d.refundRequest.get? i := by
    intro i
    rw [hrequest, Table.get?_modify]
  have hnotBig : ¬ BigRefund env d d.refund.next := by
    rintro ⟨r, hr, -⟩
    rw [Table.get?_next] at hr
    cases hr
  have hnotApproved : ¬ ApprovedRequest d j := by
    rintro ⟨q', hq', hs'⟩
    obtain rfl := Option.some.inj (hq.symm.trans hq')
    rw [hs] at hs'
    cases hs'
  obtain ⟨pairs, hpairs⟩ := h.pairs
  have hkeep : ∀ i k, ApprovedRequest d k → DecidedBy d i k → DecidedBy d' i k := by
    rintro i k hk ⟨r, q', hr, hq', hrest⟩
    have hkj : k ≠ j := by
      rintro rfl
      exact hnotApproved hk
    refine ⟨r, q', ?_, ?_, hrest⟩
    · rw [hrefund, Table.get?_insert_of_some hr]
    · rw [hget, if_neg hkj, hq']
  have hrow : d'.refundRequest.get? j = some
      { q with status := .approved, decidedById := some actorId, decidedAt := t
               decisionNote := note } := by
    rw [hget, if_pos rfl, hq, Option.map_some]
  have hnew : DecidedBy d' d.refund.next j :=
    ⟨_, _, by rw [hrefund, Table.get?_insert_self], hrow, rfl, rfl, rfl, actorId, rfl,
      Ne.symm hother⟩
  have hcons := (hpairs.congr (fun _ => Iff.rfl) (fun _ => Iff.rfl)
    fun i k _ hk => hkeep i k hk).cons hnotBig hnotApproved hnew
  refine ⟨⟨_, hcons.congr (fun i => ?_) (fun k => ?_) fun _ _ _ _ hik => hik⟩,
    fun k r hr hrs => ?_⟩
  · rw [bigRefund_insert_iff hrefund]
    simp [hbig]
  · rw [ApprovedRequest, hget]
    by_cases hk : k = j
    · subst hk
      rw [if_pos rfl, hq, Option.map_some]
      exact iff_of_true ⟨_, rfl, rfl⟩ (Or.inl rfl)
    · rw [if_neg hk]
      exact ⟨Or.inr, fun h => h.resolve_left hk⟩
  · rw [hget] at hr
    split_ifs at hr with hk
    · obtain ⟨r', -, rfl⟩ := Option.map_eq_some_iff.mp hr
      cases hrs
    · exact h.pending k r hr hrs

end

/-! ## Every operation -/

/-- The amount of the refund call, if it has one, is on the same side of the threshold before
and after it is rounded to kobo. -/
def RoundsFairly (env : Env) : CommerceOp → Prop
  | .refundPayment _ _ dto _ =>
      ∀ a, dto.amount = some a →
        (refundApprovalThresholdNgn env < a ↔ refundApprovalThresholdNgn env < (money a).toRat)
  | _ => True

/-- A whole number of kobo is not rounded at all. -/
lemma roundsFairly_of_mem_grid (env : Env) (actor : AuthenticatedUser) (paymentId : Id)
    (dto : RefundPaymentDto) (answer : Except String Unit)
    (h : ∀ a, dto.amount = some a → a ∈ Decimal.grid 2) :
    RoundsFairly env (.refundPayment actor paymentId dto answer) := by
  intro a ha
  rw [Decimal.store_toRat_of_mem (h a ha)]

/-- What is asked for is above the threshold exactly when what is written is: the whole rest
of a payment is a number of kobo. -/
lemma RoundsFairly.lt_iff {env : Env} {d : Db} {x : PaymentDetail} {actor : AuthenticatedUser}
    {paymentId : Id} {dto : RefundPaymentDto} {answer : Except String Unit}
    (h : RoundsFairly env (.refundPayment actor paymentId dto answer)) {requested : ℚ}
    (hreq : requested = dto.amount.getD (remaining d x)) :
    refundApprovalThresholdNgn env < requested ↔
      refundApprovalThresholdNgn env < (money requested).toRat := by
  cases ha : dto.amount with
  | none =>
    rw [ha, Option.getD_none] at hreq
    rw [hreq, Decimal.store_toRat_of_mem (remaining_mem_grid d x)]
  | some a =>
    rw [ha, Option.getD_some] at hreq
    rw [hreq]
    exact h a ha

lemma sameRefunds_chargeSuccess (d : Db) (r : Reference) (a : ℚ) :
    SameRefunds d ((handleVerifiedCasePayment r a).exec d) := by
  rw [handleVerifiedCasePayment_exec]
  cases d.paymentByReference r with
  | none => exact ⟨rfl, rfl⟩
  | some x =>
    dsimp only
    split_ifs
    · exact ⟨rfl, rfl⟩
    · exact ⟨rfl, rfl⟩
    · rw [Db.verifyPayment]
      split
      · split <;> exact ⟨rfl, rfl⟩
      · exact ⟨rfl, rfl⟩

lemma sameRefunds_chargeFailed (d : Db) (r : Reference) :
    SameRefunds d ((handleFailedCasePayment r).exec d) := by
  rw [handleFailedCasePayment_exec]
  cases d.paymentByReference r with
  | none => exact ⟨rfl, rfl⟩
  | some x =>
    dsimp only
    split_ifs <;> exact ⟨rfl, rfl⟩

/-- The operations that are not about refunds. -/
def CommerceOp.keepsRefunds : CommerceOp → Bool
  | .refundPayment .. | .approveRefundRequest .. | .rejectRefundRequest .. => false
  | _ => true

lemma CommerceOp.step_sameRefunds (env : Env) (d : Db) {o : CommerceOp}
    (h : o.keepsRefunds = true) : SameRefunds d (o.step env d) := by
  cases o with
  | chargeSuccess r a => exact sameRefunds_chargeSuccess d r a
  | chargeFailed r => exact sameRefunds_chargeFailed d r
  | initiatePayment actor i n checkout =>
    rcases initiatePayment_exec d actor i n checkout with
      heq | ⟨detail, -, -, -, -, heq⟩ <;> rw [CommerceOp.step, heq] <;> exact ⟨rfl, rfl⟩
  | resolveReconciliation actor i dto =>
    rw [CommerceOp.step, resolveReconciliation_exec]
    cases d.paymentDetail i with
    | none => exact ⟨rfl, rfl⟩
    | some x =>
      dsimp only
      split_ifs <;> exact ⟨rfl, rfl⟩
  | paymentExpirySweep =>
    exact runPaymentExpirySweep_keeps d (R := SameRefunds) (fun _ => ⟨rfl, rfl⟩)
      (fun _ _ _ => .trans) env fun _ _ _ => ⟨rfl, rfl⟩
  | paymentVerificationSweep verify =>
    rw [CommerceOp.step, runPaymentVerificationSweep_exec]
    refine (invariant (I := SameRefunds d) (fun d' p hd' => ?_) ⟨rfl, rfl⟩ _).last
    rcases verifyPayment_exec d' verify p.1 p.2 with heq | ⟨a, -, heq⟩ | heq | heq <;> rw [heq]
    · exact hd'
    · exact hd'.trans (sameRefunds_chargeSuccess d' _ a)
    · exact hd'.trans (sameRefunds_chargeFailed d' _)
    · exact hd'
  | acceptQuote actor q =>
    rcases acceptQuote_exec d actor q with
      heq | ⟨x, r, d₁, -, rfl | ⟨e, rfl⟩, ⟨-, heq⟩ | ⟨-, heq⟩⟩ <;> rw [CommerceOp.step, heq] <;>
      exact ⟨rfl, rfl⟩
  | holdCase actor i r =>
    rcases CasesService.holdCase_exec d i actor r with heq | ⟨c, -, -, -, -, heq⟩ <;>
      rw [CommerceOp.step, heq] <;> exact ⟨rfl, rfl⟩
  | resumeCase actor i r =>
    rcases CasesService.resumeCase_exec d i actor r with heq | ⟨c, back, -, -, -, heq⟩ <;>
      rw [CommerceOp.step, heq] <;> exact ⟨rfl, rfl⟩
  | elapse ms => exact ⟨rfl, rfl⟩
  | _ => cases h

/-- Every operation keeps the correspondence. -/
theorem Matched.step {env : Env} {d : Db} (h : Matched env d) (o : CommerceOp)
    (ho : RoundsFairly env o) : Matched env (o.step env d) := by
  cases o with
  | refundPayment actor i dto answer =>
    rcases refundPayment_exec d env actor i dto answer with
      heq | ⟨x, requested, -, -, hreq, -, -, ⟨hbig, heq⟩ | ⟨hsmall, -, heq⟩⟩ <;>
      rw [CommerceOp.step, heq]
    · exact h
    · exact h.insertRequest rfl ((ho.lt_iff hreq).mp hbig)
    · refine h.insertSmall (r := ⟨x.id, money requested, some dto.reason, some actor.id⟩) rfl rfl ?_
      exact not_lt.mp fun hbig => not_lt.mpr hsmall ((ho.lt_iff hreq).mpr hbig)
  | approveRefundRequest actor i note answer =>
    rcases approveRefundRequest_exec d actor i note answer with
      heq | ⟨y, hy, hs, hother, -, -, -, -, heq⟩ <;> rw [CommerceOp.step, heq]
    · exact h
    · obtain ⟨hq, hid, -⟩ := refundRequestDetail_eq_some d hy
      -- The amount is read from one money column and written to another.
      have hrefund : (d.refundPayment y.detail actor.id y.request.amount.toRat
          (some y.request.reason)).refund = d.refund.insert
            ⟨y.request.paymentId, y.request.amount, some y.request.reason, some actor.id⟩ := by
        rw [← hid]
        exact congrArg (fun m => d.refund.insert ⟨y.detail.id, m, _, _⟩)
          (Decimal.store_toRat y.request.amount)
      exact h.approve hq hs hother hrefund rfl
  | rejectRefundRequest actor i note =>
    rcases rejectRefundRequest_exec d actor i note with heq | ⟨y, hy, hs, -, heq⟩ <;>
      rw [CommerceOp.step, heq]
    · exact h
    · exact h.reject (refundRequestDetail_eq_some d hy).1 hs _ _
  | acceptQuote | initiatePayment | chargeSuccess | chargeFailed | resolveReconciliation
  | paymentExpirySweep | paymentVerificationSweep | holdCase | resumeCase | elapse =>
    exact h.congr (CommerceOp.step_sameRefunds env d rfl)

/-- A request that has been decided on stays as it is. -/
theorem decided_step (env : Env) {d : Db} {j : Id} {q : RefundRequest}
    (hq : d.refundRequest.get? j = some q) (hs : q.status ≠ .pending) (o : CommerceOp) :
    (o.step env d).refundRequest.get? j = some q := by
  -- A decision finds its own request pending, so it is about another one.
  have hdecide : ∀ {i q'}, d.refundRequest.get? i = some q' → q'.status = .pending → j ≠ i := by
    rintro i q' hq' hs' rfl
    obtain rfl := Option.some.inj (hq.symm.trans hq')
    exact hs hs'
  cases o with
  | refundPayment actor i dto answer =>
    rcases refundPayment_exec d env actor i dto answer with
      heq | ⟨x, requested, -, -, -, -, -, ⟨-, heq⟩ | ⟨-, -, heq⟩⟩ <;> rw [CommerceOp.step, heq]
    · exact hq
    · exact Table.get?_insert_of_some hq _
    · exact hq
  | approveRefundRequest actor i note answer =>
    rcases approveRefundRequest_exec d actor i note answer with
      heq | ⟨y, hy, hp, -, -, -, -, -, heq⟩ <;> rw [CommerceOp.step, heq]
    · exact hq
    · have hne := hdecide (refundRequestDetail_eq_some d hy).1 hp
      rw [get?_decideRequest, if_neg hne]
      exact hq
  | rejectRefundRequest actor i note =>
    rcases rejectRefundRequest_exec d actor i note with heq | ⟨y, hy, hp, -, heq⟩ <;>
      rw [CommerceOp.step, heq]
    · exact hq
    · have hne := hdecide (refundRequestDetail_eq_some d hy).1 hp
      rw [get?_decideRequest, if_neg hne]
      exact hq
  | acceptQuote | initiatePayment | chargeSuccess | chargeFailed | resolveReconciliation
  | paymentExpirySweep | paymentVerificationSweep | holdCase | resumeCase | elapse =>
    rw [(CommerceOp.step_sameRefunds env d rfl).2]
    exact hq

/-- A request that has been decided on is the same after every run. -/
theorem decided_run (env : Env) {d : Db} {j : Id} {q : RefundRequest}
    (hq : d.refundRequest.get? j = some q) (hs : q.status ≠ .pending) (os : List CommerceOp) :
    (runFrom (CommerceOp.step env) d os).refundRequest.get? j = some q :=
  (invariant (I := fun d' : Db => d'.refundRequest.get? j = some q)
    (fun _ o hd => decided_step env hd hs o) hq os).last

/-- **Maker and checker.**  In every run that starts without refunds and requests, and in which
the rounding of no amount crosses the threshold, the refunds above the threshold are in
every state in one-to-one correspondence with the approved requests, by payment and amount,
each refund made by the user who decided on the request, who is not the one who made it.  A
request that is approved or rejected in some state is the same in every later one. -/
theorem maker_checker (env : Env) (d : Db) (hrefund : d.refund.values = [])
    (hrequest : d.refundRequest.values = []) (os : List CommerceOp)
    (hos : ∀ o ∈ os, RoundsFairly env o) :
    AllStates (CommerceOp.step env) (MakerChecked env) d os ∧
      ∀ os₁ os₂, os = os₁ ++ os₂ → ∀ j q,
        (runFrom (CommerceOp.step env) d os₁).refundRequest.get? j = some q →
        q.status ≠ .pending →
        (runFrom (CommerceOp.step env) d os).refundRequest.get? j = some q := by
  have hnone : Matched env d := by
    have hr : ∀ i r, d.refund.get? i ≠ some r := by
      intro i r hr
      have hmem := (Table.mem_values_iff _).mpr ⟨i, hr⟩
      rw [hrefund] at hmem
      cases hmem
    have hq : ∀ j q, d.refundRequest.get? j ≠ some q := by
      intro j q hq
      have hmem := (Table.mem_values_iff _).mpr ⟨j, hq⟩
      rw [hrequest] at hmem
      cases hmem
    refine ⟨⟨[], .nil ?_ ?_⟩, fun j q h => absurd h (hq j q)⟩
    · rintro i ⟨r, h, -⟩
      exact hr i r h
    · rintro j ⟨q, h, -⟩
      exact hq j q h
  constructor
  · have hsteps : AllSteps (CommerceOp.step env) (fun _ o => RoundsFairly env o) d os :=
      AllSteps.of_forall_mem (fun _ o ho => hos o ho) d
    exact (AllSteps.invariant (I := Matched env) (fun _ o h ho => h.step o ho) hnone hsteps).mono
      fun _ h => h.makerChecked
  · rintro os₁ os₂ rfl j q hq hs
    rw [runFrom_append]
    exact decided_run env hq hs os₂

/-- A payment of 500000 naira that has been verified as paid, with its invoice and case. -/
def largePaymentDb : Db where
  clock := 100
  customer := Table.empty.insert { userId := 7 }
  serviceCase := Table.empty.insert
    { customerId := 0, serviceType := .propertyInspection, description := "Site visit"
      location := "Lekki", status := .scheduled, paymentStatus := .paid }
  invoice := Table.empty.insert ⟨0, none, ⟨50000000⟩, "NGN"⟩
  payment := Table.empty.insert
    { invoiceId := 0, amount := ⟨50000000⟩, providerReference := .caseInvoice 0 0
      providerWebhookVerifiedAt := some 50, status := .paid, createdAt := 40 }

/-- A small refund, and a large one that a second user approves. -/
def twoRefunds : List CommerceOp :=
  [.refundPayment ⟨1, .finance⟩ 0 ⟨some 50000, "Visit cut short"⟩ (.ok ()),
   .refundPayment ⟨1, .finance⟩ 0 ⟨some 250000, "Visit cancelled"⟩ (.ok ()),
   .approveRefundRequest ⟨2, .finance⟩ 0 none (.ok ())]

theorem maker_checker_twoRefunds :
    AllStates (CommerceOp.step {}) (MakerChecked {}) largePaymentDb twoRefunds ∧
      ∀ os₁ os₂, twoRefunds = os₁ ++ os₂ → ∀ j q,
        (runFrom (CommerceOp.step {}) largePaymentDb os₁).refundRequest.get? j = some q →
        q.status ≠ .pending →
        (runFrom (CommerceOp.step {}) largePaymentDb twoRefunds).refundRequest.get? j = some q := by
  refine maker_checker {} largePaymentDb rfl rfl twoRefunds fun o ho => ?_
  simp only [twoRefunds, List.mem_cons, List.not_mem_nil, or_false] at ho
  rcases ho with rfl | rfl | rfl
  · exact roundsFairly_of_mem_grid {} _ _ _ _ fun a ha => by
      cases ha
      exact ⟨⟨5000000⟩, by norm_num [Decimal.toRat]⟩
  · exact roundsFairly_of_mem_grid {} _ _ _ _ fun a ha => by
      cases ha
      exact ⟨⟨25000000⟩, by norm_num [Decimal.toRat]⟩
  · trivial

/-- A refund of 200000.004 naira is above the threshold of 200000 when it is asked for, and
not when it is written. -/
def roundedRefund : List CommerceOp :=
  [.refundPayment ⟨1, .finance⟩ 0 ⟨some (200000 + 4 / 1000), "Visit cancelled"⟩ (.ok ()),
   .approveRefundRequest ⟨2, .finance⟩ 0 none (.ok ())]

/-- Its request has been approved, and no refund is above the threshold. -/
theorem approved_without_big_refund :
    ¬ AllStates (CommerceOp.step {}) (MakerChecked {}) largePaymentDb roundedRefund := by
  intro h
  obtain ⟨e, -⟩ := h.last
  have hrequest : ((runFrom (CommerceOp.step {}) largePaymentDb roundedRefund).refundRequest.get?
      0).map (·.status) = some .approved := by decide +kernel
  have hsmall : ((runFrom (CommerceOp.step {}) largePaymentDb roundedRefund).refund.values.all
      fun r => r.amount.toRat ≤ refundApprovalThresholdNgn {}) = true := by decide +kernel
  obtain ⟨q, hq, hs⟩ := Option.map_eq_some_iff.mp hrequest
  obtain ⟨i, r, hr, hbig⟩ := e.symm ⟨0, q, hq, hs⟩
  have hmem := (Table.mem_values_iff _).mpr ⟨i, hr⟩
  have hle := of_decide_eq_true (List.all_eq_true.mp hsmall r hmem)
  exact absurd hbig (not_lt.mpr hle)

end Asoju
