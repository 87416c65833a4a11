/-
Decisions on one refund request under concurrency.

An approval looks at the request, moves the money, and only at its end writes that the request
is APPROVED; a rejection looks and then writes.  Nothing ties the last step to the first look.
`decided_once` says for which interleavings the money moves at most once, and never for a
request that ends up REJECTED.
-/
import Asoju.PaymentMoves
import Asoju.Protocols

namespace Asoju

open Lib CommerceService

/-- A call that decides on the request. -/
inductive DecisionCall
  | approve (actor : AuthenticatedUser) (note : Option String) (answer : Except String Unit)
  | reject (actor : AuthenticatedUser) (note : Option String)

/-- The request under the key `i` is there, with its payment `paymentId` and, through its
invoice, the case `caseId`. -/
def Db.HasRequest (d : Db) (i paymentId caseId : Id) : Prop :=
  ∃ q x, d.refundRequest.get? i = some q ∧ q.paymentId = x.id ∧ d.Joined x ∧
    x.id = paymentId ∧ x.invoice.caseId = caseId

lemma Db.HasRequest.detail {d : Db} {i paymentId caseId : Id}
    (h : d.HasRequest i paymentId caseId) :
    ∃ y, d.refundRequestDetail i = some y ∧ y.detail.id = paymentId ∧
      y.detail.invoice.caseId = caseId := by
  obtain ⟨q, x, hq, hid, hx, hpayment, hcase⟩ := h
  refine ⟨⟨q, x⟩, ?_, hpayment, hcase⟩
  have hdetail := d.paymentDetail_eq_some_iff.mpr ⟨rfl, hx⟩
  simp [Db.refundRequestDetail, hq, hid, hdetail]

/-- It stays there when invoices, cases and the links of the payments stay. -/
lemma Db.HasRequest.mono {a b : Db} {i paymentId caseId : Id}
    (h : a.HasRequest i paymentId caseId) (hgrows : a.Grows b) (hlinks : a.SameLinks b)
    (hrequest : ∀ q, a.refundRequest.get? i = some q →
      ∃ q', b.refundRequest.get? i = some q' ∧ q'.paymentId = q.paymentId) :
    b.HasRequest i paymentId caseId := by
  obtain ⟨q, x, hq, hid, hx, hpayment, hcase⟩ := h
  obtain ⟨q', hq', hid'⟩ := hrequest q hq
  obtain ⟨p, hp, -, hinv⟩ := hlinks.symm.exists_of_get? hx.payment
  exact ⟨q', ⟨x.id, p, x.invoice⟩, hq', hid'.trans hid, hx.of_grows hgrows hp hinv, hpayment, hcase⟩

namespace DecisionCall

variable (i : Id)

/-- The program of the call, for the request under the key `i`. -/
def code : DecisionCall → Svc Unit
  | approve actor note answer => do
      let _ ← approveRefundRequest actor i note answer
  | reject actor note => do
      let _ ← rejectRefundRequest actor i note

/-! ## The steps of a decision -/

/-- How far a call has come. -/
inductive Phase
  | start
  /-- It has read the request. -/
  | checking
  /-- It has created the refund and has not written its decision yet. -/
  | refunding
  | finished
deriving DecidableEq

/-- The phase that an action leads to. -/
def Phase.after : Phase → Act → Phase
  | .start, .find .refundRequest => .checking
  | .checking, .create .refund => .refunding
  | .checking, .update .refundRequest => .finished
  | .refunding, .update .refundRequest => .finished
  | p, _ => p

/-- An approval reads, creates the refund, writes the payment and the case, and last the
request; a rejection reads and writes the request. -/
def protocol (paymentId caseId : Id) (c : DecisionCall) : Protocol Db Act Phase where
  relies s := s.HasRequest i paymentId caseId
  init := .start
  next p l _ := p.after l
  allows p l s s' :=
    match c, p with
    | _, .start => l = .find .refundRequest ∧ s' = s
    | approve .., .checking =>
        ((l = .find .refund ∨ l = .provider) ∧ s' = s) ∨
          (l = .create .refund ∧ ∃ r, s' = s.insertRow .refund r)
    | approve actor note _, .refunding =>
        (l = .update .payment ∧ ∃ status, s' = s.modifyRow .payment paymentId fun p =>
            { p with status := status }) ∨
          (l = .update .serviceCase ∧ ∃ status, s' = s.modifyRow .serviceCase caseId fun c =>
            { c with paymentStatus := status }) ∨
          (l = .update .refundRequest ∧ s' = s.decideRequest i .approved actor.id note)
    | reject actor note, .checking =>
        l = .update .refundRequest ∧ s' = s.decideRequest i .rejected actor.id note
    | _, _ => False
  final p := p ≠ .refunding

variable {i}

/-- The refund itself, from the first read of it on. -/
lemma follows_executeRefund_bind {paymentId caseId : Id} {actor : AuthenticatedUser}
    {note : Option String} {answer : Except String Unit} {x : PaymentDetail}
    (hx : x.id = paymentId) (hcase : x.invoice.caseId = caseId) (user : AuthenticatedUser)
    (requested : ℚ) (reason : Option String) {k : Id → Svc Unit}
    (hk : ∀ j, (protocol i paymentId caseId (.approve actor note answer)).Follows .refunding
      (k j)) :
    (protocol i paymentId caseId (.approve actor note answer)).Follows .checking
      (executeRefund user x requested reason answer >>= k) := by
  simp only [executeRefund, remainingRefundable, Prog.bind_assoc, Prog.pure_bind]
  refine Protocol.Follows.read_bind _ fun s _ => ⟨Or.inl ⟨Or.inl rfl, rfl⟩, ?_⟩
  refine Prisma.follows_callProvider_bind fun s _ =>
    ⟨Or.inl ⟨Or.inr rfl, rfl⟩, (fun h => by cases h), fun _ => ?_⟩
  refine Prisma.follows_create_bind (r := .refund) fun s _ => ⟨Or.inr ⟨rfl, _, rfl⟩, ?_⟩
  refine Prisma.follows_update_bind (r := .payment) fun s hs => ?_
  obtain ⟨q, y, -, -, hy, hid, -⟩ := id hs
  refine ⟨y.payment, by rw [hx, ← hid]; exact hy.payment, Or.inl ⟨rfl, _, by rw [hx]⟩, ?_⟩
  refine Prisma.follows_update_bind (r := .serviceCase) fun s hs => ?_
  obtain ⟨q, y, -, -, hy, -, hid⟩ := id hs
  obtain ⟨c, hc⟩ := hy.serviceCase
  refine ⟨c, by rw [hcase, ← hid]; exact hc, Or.inr (Or.inl ⟨rfl, _, by rw [hcase]⟩), ?_⟩
  exact hk _

lemma follows (paymentId caseId : Id) (c : DecisionCall) :
    (protocol i paymentId caseId c).Follows (protocol i paymentId caseId c).init (c.code i) := by
  cases c with
  | reject actor note =>
    rw [code, rejectRefundRequest, Prog.bind_assoc]
    refine Protocol.Follows.read_bind _ fun s hs => ⟨⟨rfl, rfl⟩, ?_⟩
    obtain ⟨y, hy, -, -⟩ := hs.detail
    rw [hy]
    dsimp only
    split
    · exact fun h => by cases h
    · split
      · exact fun h => by cases h
      · refine Prisma.follows_update_bind fun s hs => ?_
        obtain ⟨q, y, hq, -⟩ := id hs
        exact ⟨q, hq, ⟨rfl, rfl⟩, fun h => by cases h⟩
  | approve actor note answer =>
    rw [code, approveRefundRequest, Prog.bind_assoc]
    refine Protocol.Follows.read_bind _ fun s hs => ⟨⟨rfl, rfl⟩, ?_⟩
    obtain ⟨y, hy, hid, hcase⟩ := hs.detail
    rw [hy]
    dsimp only
    split
    · exact fun h => by cases h
    · split
      · exact fun h => by cases h
      · split
        · exact fun h => by cases h
        · simp only [remainingRefundable, Prog.bind_assoc, Prog.pure_bind]
          refine Protocol.Follows.read_bind _ fun s _ => ⟨Or.inl ⟨Or.inl rfl, rfl⟩, ?_⟩
          split
          · exact fun h => by cases h
          · simp only [Prog.bind_assoc, Prog.pure_bind]
            refine follows_executeRefund_bind hid hcase _ _ _ fun j => ?_
            refine Prisma.follows_update_bind fun s hs => ?_
            obtain ⟨q, y, hq, -⟩ := id hs
            exact ⟨q, hq, Or.inr (Or.inr ⟨rfl, rfl⟩), fun h => by cases h⟩

/-- What the protocol allows leaves the request in its place. -/
lemma hasRequest_of_allows {paymentId caseId : Id} {c : DecisionCall} {p : Phase} {l : Act}
    {s s' : Db} (h : s.HasRequest i paymentId caseId)
    (hallows : (protocol i paymentId caseId c).allows p l s s') :
    s'.HasRequest i paymentId caseId := by
  -- A decision changes the request and nothing else.
  have hdecide : ∀ status actorId note,
      (s.decideRequest i status actorId note).HasRequest i paymentId caseId := by
    intro status actorId note
    refine h.mono (.of_tables rfl rfl) (.of_payment rfl) fun q hq => ?_
    have hget := s.refundRequest.get?_modify_self i fun q =>
      { q with status, decidedById := some actorId, decidedAt := some s.clock, decisionNote := note }
    rw [hq, Option.map_some] at hget
    exact ⟨_, hget, rfl⟩
  cases p with
  | start => rw [hallows.2]; exact h
  | finished => cases c <;> exact hallows.elim
  | checking =>
    cases c with
    | reject actor note => rw [hallows.2]; exact hdecide _ _ _
    | approve actor note answer =>
      rcases hallows with ⟨-, rfl⟩ | ⟨-, r, rfl⟩
      · exact h
      · exact h.mono (.of_tables rfl rfl) (.of_payment rfl) fun q hq => ⟨q, hq, rfl⟩
  | refunding =>
    cases c with
    | reject actor note => exact hallows.elim
    | approve actor note answer =>
      rcases hallows with ⟨-, status, rfl⟩ | ⟨-, status, rfl⟩ | ⟨-, rfl⟩
      · refine h.mono (.of_tables rfl rfl) ?_ fun q hq => ⟨q, hq, rfl⟩
        exact .of_modify (s.modifyRow_payment _ _) fun _ => by rfl
      · refine h.mono ?_ (.of_payment rfl) fun q hq => ⟨q, hq, rfl⟩
        exact .of_modify rfl (f := fun c => { c with paymentStatus := status }) rfl
      · exact hdecide _ _ _

end DecisionCall

/-! ## What counts -/

/-- What matters of a pool of decisions: the number of refunds, the number of approvals that
have created theirs and not written their decision yet, and the status of the request. -/
@[ext]
structure Tally where
  refunds : ℕ
  refunding : ℕ
  status : Option RefundRequestStatus

namespace Tally

/-- What one action does to the tally. -/
inductive Move
  | other
  | refund
  | approve
  | reject

def apply (t : Tally) : Move → Tally
  | .other => t
  | .refund => { t with refunds := t.refunds + 1, refunding := t.refunding + 1 }
  | .approve => { t with refunding := t.refunding - 1, status := some .approved }
  | .reject => { t with status := some .rejected }

/-- A refund is created while no other one is on its way and the request is not approved; a
rejection is not written over an approval. -/
def Guarded (t : Tally) : Move → Prop
  | .refund => t.refunding = 0 ∧ t.status ≠ some .approved
  | .reject => t.status ≠ some .approved
  | _ => True

/-- Only an approval that has created its refund writes its decision. -/
def Possible (t : Tally) : Move → Prop
  | .approve => 0 < t.refunding
  | _ => True

/-- Beyond the `n` refunds of the start there is one at most: the one on its way, or the one
of the approval. -/
structure Single (n : ℕ) (t : Tally) : Prop where
  refunds : t.refunds = n + t.refunding + if t.status = some .approved then 1 else 0
  le : t.refunds ≤ n + 1

/-- There are two refunds, or there is one and the request is rejected. -/
def Broken (n : ℕ) (t : Tally) : Prop :=
  n + 2 ≤ t.refunds ∨ (t.refunds = n + 1 ∧ t.refunding = 0 ∧ t.status = some .rejected)

variable {n : ℕ} {t : Tally} {m : Move}

lemma Single.apply (h : t.Single n) (hm : t.Possible m) (hguard : t.Guarded m) :
    (t.apply m).Single n := by
  obtain ⟨hrefunds, hle⟩ := h
  cases m with
  | other => exact ⟨hrefunds, hle⟩
  | refund =>
    obtain ⟨hnone, hstatus⟩ := hguard
    rw [if_neg hstatus] at hrefunds
    refine ⟨?_, ?_⟩ <;> simp [Tally.apply, hstatus] <;> omega
  | approve =>
    -- The refund that was on its way becomes the one of the approval.
    have hpos : 0 < t.refunding := hm
    refine ⟨?_, hle⟩
    simp only [Tally.apply, if_true]
    split_ifs at hrefunds <;> omega
  | reject =>
    have hstatus : t.status ≠ some .approved := hguard
    rw [if_neg hstatus] at hrefunds
    exact ⟨by simpa [Tally.apply] using hrefunds, hle⟩

/-- The first move that is not guarded breaks the tally. -/
lemma Single.broken (h : t.Single n) (hguard : ¬ t.Guarded m) : (t.apply m).Broken n := by
  have hrefunds := h.refunds
  cases m with
  | other => exact absurd trivial hguard
  | approve => exact absurd trivial hguard
  | refund =>
    left
    by_cases hstatus : t.status = some .approved
    · simp only [Tally.apply]
      rw [if_pos hstatus] at hrefunds
      omega
    · have hpos : t.refunding ≠ 0 := fun hzero => hguard ⟨hzero, hstatus⟩
      simp only [Tally.apply]
      omega
  | reject =>
    have hstatus : t.status = some .approved := not_not.mp hguard
    rw [if_pos hstatus] at hrefunds
    have hle := h.le
    exact Or.inr ⟨by simp only [Tally.apply]; omega, by simp only [Tally.apply]; omega, rfl⟩

/-- What is broken stays broken. -/
lemma Broken.apply (h : t.Broken n) (hm : t.Possible m) : (t.apply m).Broken n := by
  rcases h with htwo | ⟨hone, hzero, hstatus⟩
  · left
    cases m <;> simp only [Tally.apply] <;> omega
  · cases m with
    | other => exact Or.inr ⟨hone, hzero, hstatus⟩
    | refund => exact Or.inl (by simp only [Tally.apply]; omega)
    | approve => exact absurd hzero (ne_of_gt hm)
    | reject => exact Or.inr ⟨hone, hzero, rfl⟩

end Tally

/-! ## Interleavings -/

/-- The decisions at work on one database. -/
abbrev DecisionPool := Pool Db Act HttpError Unit DecisionCall

/-- How far the call of the thread has come. -/
def DecisionCall.phaseOf (t : Thread Db Act HttpError Unit DecisionCall) : DecisionCall.Phase :=
  t.done.foldl (fun p x => p.after x.1) .start

/-- The call has created its refund and has not written its decision yet. -/
def DecisionCall.refunding (t : Thread Db Act HttpError Unit DecisionCall) : Bool :=
  DecisionCall.phaseOf t = .refunding

lemma DecisionCall.refunding_iff (t : Thread Db Act HttpError Unit DecisionCall) :
    DecisionCall.refunding t = true ↔ DecisionCall.phaseOf t = .refunding := by
  rw [DecisionCall.refunding, decide_eq_true_eq]

lemma DecisionCall.phaseOf_concat (c : DecisionCall) (done : List (Act × Db)) (l : Act) (s : Db)
    (rest rest' : Svc Unit) :
    DecisionCall.phaseOf ⟨c, done ++ [(l, s)], rest⟩ =
      (DecisionCall.phaseOf ⟨c, done, rest'⟩).after l := by
  simp [DecisionCall.phaseOf]

/-- The status of the request. -/
def Db.requestStatus (d : Db) (i : Id) : Option RefundRequestStatus :=
  (d.refundRequest.get? i).map fun q => q.status

def tally (i : Id) (p : DecisionPool) : Tally where
  refunds := p.shared.refund.values.length
  refunding := p.threads.countP DecisionCall.refunding
  status := p.shared.requestStatus i

/-- The step does not refund while another approval has created its refund and not decided, or
after the request was approved, and it does not reject what was approved. -/
def Exclusive (i : Id) (p : DecisionPool) : Event DecisionCall → Prop
  | .start _ => True
  | .sched j => ∀ t, p.threads[j]? = some t →
      (t.rest.next? = some (.create .refund) →
        (∀ t' ∈ p.threads, DecisionCall.refunding t' = false) ∧
          p.shared.requestStatus i ≠ some .approved) ∧
      (∀ actor note, t.call = .reject actor note →
        t.rest.next? = some (.update .refundRequest) →
          p.shared.requestStatus i ≠ some .approved)

namespace DecisionCall

variable {i paymentId caseId : Id}

lemma requestStatus_decideRequest {s : Db} (h : s.HasRequest i paymentId caseId)
    (status : RefundRequestStatus) (actorId : Id) (note : Option String) :
    (s.decideRequest i status actorId note).requestStatus i = some status := by
  obtain ⟨q, x, hq, -⟩ := h
  have hget := s.refundRequest.get?_modify_self i fun q =>
    { q with status, decidedById := some actorId, decidedAt := some s.clock, decisionNote := note }
  rw [hq, Option.map_some] at hget
  show ((s.refundRequest.modify i _).get? i).map _ = _
  rw [hget, Option.map_some]

/-- What an action that the protocol allows does to the refunds and the request. -/
lemma effect_of_allows {c : DecisionCall} {ph : Phase} {l : Act} {s s' : Db}
    (h : s.HasRequest i paymentId caseId)
    (hallows : (protocol i paymentId caseId c).allows ph l s s') :
    (s'.refund = s.refund ∧ s'.requestStatus i = s.requestStatus i ∧
        (ph.after l = .refunding ↔ ph = .refunding) ∧ l ≠ .create .refund ∧
        l ≠ .update .refundRequest) ∨
    ((∃ r, s'.refund = s.refund.insert r) ∧ s'.requestStatus i = s.requestStatus i ∧
        ph = .checking ∧ l = .create .refund) ∨
    (s'.refund = s.refund ∧ s'.requestStatus i = some .approved ∧ ph = .refunding ∧
        l = .update .refundRequest ∧ ∃ actor note answer, c = .approve actor note answer) ∨
    (s'.refund = s.refund ∧ s'.requestStatus i = some .rejected ∧ ph = .checking ∧
        l = .update .refundRequest ∧ ∃ actor note, c = .reject actor note) := by
  cases ph with
  | start =>
    obtain ⟨rfl, rfl⟩ := hallows
    exact Or.inl ⟨rfl, rfl, by decide, by decide, by decide⟩
  | finished => cases c <;> exact hallows.elim
  | checking =>
    cases c with
    | reject actor note =>
      obtain ⟨rfl, rfl⟩ := hallows
      have hstatus := requestStatus_decideRequest h .rejected actor.id note
      exact Or.inr (Or.inr (Or.inr ⟨rfl, hstatus, rfl, rfl, actor, note, rfl⟩))
    | approve actor note answer =>
      rcases hallows with ⟨rfl | rfl, rfl⟩ | ⟨rfl, r, rfl⟩
      · exact Or.inl ⟨rfl, rfl, by decide, by decide, by decide⟩
      · exact Or.inl ⟨rfl, rfl, by decide, by decide, by decide⟩
      · exact Or.inr (Or.inl ⟨⟨r, rfl⟩, rfl, rfl, rfl⟩)
  | refunding =>
    cases c with
    | reject actor note => exact hallows.elim
    | approve actor note answer =>
      rcases hallows with ⟨rfl, status, rfl⟩ | ⟨rfl, status, rfl⟩ | ⟨rfl, rfl⟩
      · exact Or.inl ⟨rfl, rfl, by decide, by decide, by decide⟩
      · exact Or.inl ⟨rfl, rfl, by decide, by decide, by decide⟩
      · have hstatus := requestStatus_decideRequest h .approved actor.id note
        exact Or.inr (Or.inr (Or.inl ⟨rfl, hstatus, rfl, rfl, actor, note, answer, rfl⟩))

end DecisionCall

/-- The calls keep to their protocol, on a request that is there. -/
structure OrderlyDecisions (i paymentId caseId : Id) (p : DecisionPool) : Prop where
  tracked : Pool.Tracked (DecisionCall.protocol i paymentId caseId) p
  request : p.shared.HasRequest i paymentId caseId

namespace OrderlyDecisions

variable {i paymentId caseId : Id} {p : DecisionPool}

lemma relies (h : OrderlyDecisions i paymentId caseId p) (c : DecisionCall) :
    (c.protocol i paymentId caseId).relies p.shared := h.request

/-- **The tally follows the pool**: each step is one of its moves, and the condition on the
step is the guard of that move. -/
theorem simulates (h : OrderlyDecisions i paymentId caseId p) (e : Event DecisionCall) :
    ∃ m, tally i (p.step (DecisionCall.code i) e) = (tally i p).apply m ∧
      (tally i p).Possible m ∧ (Exclusive i p e ↔ (tally i p).Guarded m) := by
  rcases h.tracked.step (DecisionCall.code i) h.relies e with
    ⟨j, rfl, hfinished, heq⟩ | ⟨c, rfl, heq⟩ | ⟨j, t, l, w, k, rfl, hj, hrest, hallows, heq⟩
  · -- A thread that is finished has no next action.
    have hnext : Exclusive i p (.sched j) := by
      intro t ht
      have hnone := hfinished t ht
      rw [Thread.Finished] at hnone
      exact ⟨fun hl => by simp [hnone] at hl, fun _ _ _ hl => by simp [hnone] at hl⟩
    exact ⟨.other, by rw [heq]; rfl, trivial, iff_of_true hnext trivial⟩
  · refine ⟨.other, ?_, trivial, iff_of_true trivial trivial⟩
    have hnew : DecisionCall.refunding ⟨c, [], c.code i⟩ = false := rfl
    rw [heq]
    simp [tally, Tally.apply, List.countP_append, hnew]
  · obtain ⟨c, done, rest⟩ := t
    have hnext : Exclusive i p (.sched j) ↔
        (l = .create .refund → (∀ t' ∈ p.threads, DecisionCall.refunding t' = false) ∧
          p.shared.requestStatus i ≠ some .approved) ∧
        (∀ actor note, c = .reject actor note → l = .update .refundRequest →
          p.shared.requestStatus i ≠ some .approved) := by
      have hl : rest.next? = some l := congrArg Prog.next? hrest
      constructor
      · intro hall
        have ht := hall _ hj
        simpa only [hl, Option.some.injEq] using ht
      · intro hall t' ht'
        obtain rfl := Option.some.inj (hj.symm.trans ht')
        simpa only [hl, Option.some.injEq] using hall
    have hcount := Pool.countP_set hj DecisionCall.refunding
      ⟨c, done ++ [(l, p.shared)], k p.shared⟩
    have hphase : DecisionCall.phaseOf ⟨c, done, rest⟩ =
      (c.protocol i paymentId caseId).phase done := rfl
    simp only [DecisionCall.refunding_iff, hphase,
      DecisionCall.phaseOf_concat c done l p.shared (k p.shared) rest] at hcount
    rw [heq]
    rcases DecisionCall.effect_of_allows h.request hallows with
      ⟨hrefund, hstatus, hsame, hl, hl'⟩ | ⟨⟨r, hrefund⟩, hstatus, hbefore, rfl⟩ |
      ⟨hrefund, hstatus, hbefore, rfl, actor, note, answer, rfl⟩ |
      ⟨hrefund, hstatus, hbefore, rfl, actor, note, rfl⟩
    · rw [if_congr hsame rfl rfl, Nat.add_right_cancel_iff] at hcount
      refine ⟨.other, Tally.ext ?_ hcount hstatus, trivial, iff_of_true (hnext.mpr ?_) trivial⟩
      · exact congrArg (fun t : Table Refund => t.values.length) hrefund
      · exact ⟨fun h => absurd h hl, fun _ _ _ h => absurd h hl'⟩
    · rw [hbefore, if_neg (by decide), if_pos (by decide)] at hcount
      refine ⟨.refund, Tally.ext ?_ hcount hstatus, trivial, hnext.trans ?_⟩
      · show (w p.shared).refund.values.length = p.shared.refund.values.length + 1
        simp [hrefund]
      · simp [Tally.Guarded, tally, List.countP_eq_zero]
    · rw [hbefore, if_pos rfl, if_neg (by decide)] at hcount
      have hpos : 0 < p.threads.countP DecisionCall.refunding := by omega
      refine ⟨.approve, Tally.ext ?_ (Nat.eq_sub_of_add_eq hcount) hstatus, hpos,
        iff_of_true (hnext.mpr ?_) trivial⟩
      · exact congrArg (fun t : Table Refund => t.values.length) hrefund
      · exact ⟨fun h => (by cases h), fun _ _ h => by cases h⟩
    · rw [hbefore, if_neg (by decide), if_neg (by decide)] at hcount
      refine ⟨.reject, Tally.ext ?_ hcount hstatus, trivial, hnext.trans ?_⟩
      · exact congrArg (fun t : Table Refund => t.values.length) hrefund
      · simp [Tally.Guarded, tally]

lemma step (h : OrderlyDecisions i paymentId caseId p) (e : Event DecisionCall) :
    OrderlyDecisions i paymentId caseId (p.step (DecisionCall.code i) e) where
  tracked := h.tracked.preserved _ (DecisionCall.follows paymentId caseId) h.relies e
  request := by
    rcases h.tracked.step (DecisionCall.code i) h.relies e with
      ⟨j, -, -, heq⟩ | ⟨c, -, heq⟩ | ⟨j, t, l, w, k, -, -, -, hallows, heq⟩ <;> rw [heq]
    · exact h.request
    · exact h.request
    · exact DecisionCall.hasRequest_of_allows h.request hallows

/-- When all calls are finished, none is between its refund and its decision. -/
lemma refunding_eq_zero (h : OrderlyDecisions i paymentId caseId p) (hquiet : p.Quiet) :
    (tally i p).refunding = 0 := by
  refine List.countP_eq_zero.mpr fun t ht => ?_
  rw [DecisionCall.refunding_iff]
  exact h.tracked.final ht (hquiet t ht)

end OrderlyDecisions

/-- The claim about a pool of decisions that has started in `d`: there is one refund more at
most, and none if all calls are finished and the request is rejected. -/
def DecidedOnce (i : Id) (d : Db) (p : DecisionPool) : Prop :=
  p.shared.refund.values.length ≤ d.refund.values.length + 1 ∧
    (p.Quiet → p.shared.requestStatus i = some .rejected →
      p.shared.refund.values.length = d.refund.values.length)

variable {i paymentId caseId : Id}

lemma OrderlyDecisions.decidedOnce {d : Db} {p : DecisionPool} (h : OrderlyDecisions i paymentId caseId p)
    (hsingle : (tally i p).Single d.refund.values.length) : DecidedOnce i d p := by
  refine ⟨hsingle.le, fun hquiet hrejected => ?_⟩
  have hstatus : (tally i p).status ≠ some .approved := by
    intro happroved
    cases hrejected.symm.trans happroved
  have hrefunds := hsingle.refunds
  rwa [h.refunding_eq_zero hquiet, if_neg hstatus] at hrefunds

lemma not_decidedOnce {d : Db} {p : DecisionPool}
    (hquiet : p.Quiet) (hbroken : (tally i p).Broken d.refund.values.length) :
    ¬ DecidedOnce i d p := by
  rintro ⟨hle, hnone⟩
  rcases hbroken with htwo | ⟨hone, -, hrejected⟩
  · have htwo' : d.refund.values.length + 2 ≤ p.shared.refund.values.length := htwo
    omega
  · have hone' : p.shared.refund.values.length = d.refund.values.length + 1 := hone
    have := hnone hquiet hrejected
    omega

lemma OrderlyDecisions.single_step {n : ℕ} {p : DecisionPool}
    (h : OrderlyDecisions i paymentId caseId p ∧ (tally i p).Single n) (e : Event DecisionCall)
    (he : Exclusive i p e) :
    OrderlyDecisions i paymentId caseId (p.step (DecisionCall.code i) e) ∧
      (tally i (p.step (DecisionCall.code i) e)).Single n := by
  obtain ⟨m, heq, hm, hguard⟩ := h.1.simulates e
  rw [heq]
  exact ⟨h.1.step e, h.2.apply hm (hguard.mp he)⟩

/-- The pool after a schedule of decisions on the request under the key `i`. -/
abbrev decisionRun (i : Id) (d : Db) (es : List (Event DecisionCall)) : DecisionPool :=
  runFrom (Pool.step (DecisionCall.code i)) (Pool.idle d) es

/-- **A request is decided once.**  In every interleaving of decisions on a pending request, as
long as no step refunds or rejects where another decision stands in its way, at most one refund
is created, and none if the request ends up rejected.  For the interleavings in which all calls
come to their end the condition is exact. -/
theorem decided_once_iff (i : Id) (d : Db) (y : RefundRequestDetail)
    (hy : d.refundRequestDetail i = some y) (hpending : y.request.status = .pending)
    (es : List (Event DecisionCall)) :
    (AllSteps (Pool.step (DecisionCall.code i)) (Exclusive i) (Pool.idle d) es →
      AllStates (Pool.step (DecisionCall.code i)) (DecidedOnce i d) (Pool.idle d) es) ∧
    ((decisionRun i d es).Quiet → (DecidedOnce i d (decisionRun i d es) ↔
      AllSteps (Pool.step (DecisionCall.code i)) (Exclusive i) (Pool.idle d) es)) := by
  obtain ⟨hq, hid, hx⟩ := CommerceService.refundRequestDetail_eq_some d hy
  obtain ⟨n, hn⟩ : ∃ n, n = d.refund.values.length := ⟨_, rfl⟩
  have horderly : OrderlyDecisions i y.detail.id y.detail.invoice.caseId (Pool.idle d) :=
    ⟨Pool.tracked_idle _ d, y.request, y.detail, hq, hid.symm, hx, rfl, rfl⟩
  have hsingle : (tally i (Pool.idle d)).Single n := by
    have hstatus : (tally i (Pool.idle d)).status = some .pending := by
      show (d.refundRequest.get? i).map _ = _
      rw [hq, Option.map_some, hpending]
    refine ⟨?_, ?_⟩
    · rw [hstatus, if_neg (by decide), hn]
      rfl
    · rw [hn]
      exact Nat.le_succ _
  have hfirst : AllSteps (Pool.step (DecisionCall.code i)) (Exclusive i) (Pool.idle d) es →
      AllStates (Pool.step (DecisionCall.code i)) (DecidedOnce i d) (Pool.idle d) es := by
    intro hes
    have hall := AllSteps.invariant
      (I := fun p => OrderlyDecisions i y.detail.id y.detail.invoice.caseId p ∧ (tally i p).Single n)
      (fun p e hp he => OrderlyDecisions.single_step hp e he) ⟨horderly, hsingle⟩ hes
    refine hall.mono ?_
    rintro p ⟨hp, hsingle⟩
    exact hp.decidedOnce (hn ▸ hsingle)
  refine ⟨hfirst, fun hquiet => ⟨fun honce => ?_, fun hes => (hfirst hes).last⟩⟩
  -- A step that breaks the tally breaks it for good.
  refine AllSteps.of_not_last
    (I := fun p => OrderlyDecisions i y.detail.id y.detail.invoice.caseId p ∧ (tally i p).Single n)
    (B := fun p => OrderlyDecisions i y.detail.id y.detail.invoice.caseId p ∧ (tally i p).Broken n)
    (fun p e hp he => OrderlyDecisions.single_step hp e he) ?_ ?_ ⟨horderly, hsingle⟩ ?_
  · rintro p e ⟨hp, hsingle⟩ he
    obtain ⟨m, heq, -, hguard⟩ := hp.simulates e
    refine ⟨hp.step e, ?_⟩
    rw [heq]
    exact hsingle.broken fun hm => he (hguard.mpr hm)
  · rintro p e ⟨hp, hbroken⟩
    obtain ⟨m, heq, hm, -⟩ := hp.simulates e
    refine ⟨hp.step e, ?_⟩
    rw [heq]
    exact hbroken.apply hm
  · rintro ⟨-, hbroken⟩
    exact not_decidedOnce hquiet (hn ▸ hbroken) honce

/-- A payment of 500000 naira, and a pending request for a refund of the half of it. -/
def requestedDb : Db where
  clock := 100
  customer := Table.empty.insert { userId := 7 }
  serviceCase := Table.empty.insert
    { customerId := 0, serviceType := .propertyInspection, description := "Site visit"
      location := "Lekki", status := .scheduled, paymentStatus := .paid }
  invoice := Table.empty.insert ⟨0, none, ⟨50000000⟩, "NGN"⟩
  payment := Table.empty.insert
    { invoiceId := 0, amount := ⟨50000000⟩, providerReference := .caseInvoice 0 0
      providerWebhookVerifiedAt := some 50, status := .paid, createdAt := 40 }
  refundRequest := Table.empty.insert
    { paymentId := 0, amount := ⟨25000000⟩, reason := "Visit cut short", requestedById := 1 }

/-- An approval by another actor than the one who asked for the refund. -/
def approval : DecisionCall := .approve ⟨2, .finance⟩ none (.ok ())

/-- Alone, it takes eight actions. -/
def approvedAlone : List (Event DecisionCall) := .start approval :: List.replicate 8 (.sched 0)

theorem decided_once_iff_requestedDb :
    (AllSteps (Pool.step (DecisionCall.code 0)) (Exclusive 0) (Pool.idle requestedDb)
        approvedAlone →
      AllStates (Pool.step (DecisionCall.code 0)) (DecidedOnce 0 requestedDb)
        (Pool.idle requestedDb) approvedAlone) ∧
    ((decisionRun 0 requestedDb approvedAlone).Quiet →
      (DecidedOnce 0 requestedDb (decisionRun 0 requestedDb approvedAlone) ↔
        AllSteps (Pool.step (DecisionCall.code 0)) (Exclusive 0) (Pool.idle requestedDb)
          approvedAlone)) :=
  decided_once_iff 0 requestedDb ⟨_, ⟨0, _, _⟩⟩ rfl rfl approvedAlone

/-- Two approvals that have both read the request before either writes. -/
def approvedTwice : List (Event DecisionCall) :=
  [.start approval, .start (.approve ⟨3, .finance⟩ none (.ok ())), .sched 0, .sched 1] ++
    List.replicate 7 (.sched 0) ++ List.replicate 7 (.sched 1)

/-- A rejection that has read the request before an approval, and writes after it. -/
def rejectedLast : List (Event DecisionCall) :=
  [.start approval, .start (.reject ⟨3, .finance⟩ none), .sched 1] ++
    List.replicate 8 (.sched 0) ++ [.sched 1]

/-- The first run leaves two refunds of one request, and the second one a refund of a request
that is rejected. -/
theorem decided_twice :
    ¬ DecidedOnce 0 requestedDb (decisionRun 0 requestedDb approvedTwice) ∧
      ¬ DecidedOnce 0 requestedDb (decisionRun 0 requestedDb rejectedLast) := by
  constructor
  · rintro ⟨hle, -⟩
    have hrefunds : (decisionRun 0 requestedDb approvedTwice).shared.refund.values.length = 2 := by
      decide +kernel
    have hnone : requestedDb.refund.values.length = 0 := rfl
    omega
  · rintro ⟨-, hnone⟩
    have hrefunds : (decisionRun 0 requestedDb rejectedLast).shared.refund.values.length = 1 := by
      decide +kernel
    have hrejected : (decisionRun 0 requestedDb rejectedLast).shared.requestStatus 0 =
        some .rejected := by decide +kernel
    have hquiet : ((decisionRun 0 requestedDb rejectedLast).threads.all
        fun t => t.rest.next?.isNone) = true := by decide +kernel
    have hzero := hnone
      (fun t ht => Option.isNone_iff_eq_none.mp (List.all_eq_true.mp hquiet t ht)) hrejected
    rw [hrefunds] at hzero
    cases hzero

end Asoju
