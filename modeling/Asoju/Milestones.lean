/-
Milestones of a case, and what backs them.

A case is SCHEDULED when it has been paid, handed to the customer with a report, and APPROVED by the
customer: each of these statuses has an operation that writes what the status stands for and then
moves the case.  The endpoint for transitions moves a case along any edge of the transition table,
these three included, and writes nothing else.  `milestones_backed` shows that there is no third
way: each entry has its cause, or the endpoint has taken the edge.

The operations are those of the case and commerce controllers that touch a case, with their guards.
-/
import Asoju.Assignments
import Asoju.CaseAccess
import Asoju.Lib.Milestone
import Asoju.Lifecycle
import Asoju.Operations
import Asoju.QualityControl

namespace Asoju

open Lib

/-! ## The operations -/

/-- A request with its user, or an event of the provider. -/
inductive CaseRequest
  | transition (user : AuthenticatedUser) (caseId : Id) (toStatus : CaseStatus)
      (reason : Option String)
  | createQuote (user : AuthenticatedUser) (caseId : Id) (dto : CommerceService.CreateQuoteDto)
  | acceptQuote (user : AuthenticatedUser) (quoteId : Id)
  | initiatePayment (user : AuthenticatedUser) (invoiceId : Id) (nonce : Fin (2 ^ 32))
      (checkout : Except String Unit)
  | chargeSuccess (reference : Reference) (amountKobo : ℚ)
  | chargeFailed (reference : Reference)
  | resolveReconciliation (user : AuthenticatedUser) (paymentId : Id)
      (dto : CommerceService.ResolveReconciliationDto)
  | createAssignment (user : AuthenticatedUser) (caseId : Id)
      (dto : AssignmentsService.CreateAssignmentDto)
  | acceptAssignment (user : AuthenticatedUser) (assignmentId : Id)
  | declineAssignment (user : AuthenticatedUser) (assignmentId : Id)
  | completeFieldwork (user : AuthenticatedUser) (caseId : Id)
  | performQc (user : AuthenticatedUser) (caseId : Id) (dto : EvidenceService.PerformQcDto)
  | recordApproval (user : AuthenticatedUser) (caseId : Id) (action : ApprovalAction)
      (note : Option String)
  | hold (user : AuthenticatedUser) (caseId : Id) (reason : String)
  | resume (user : AuthenticatedUser) (caseId : Id) (reason : Option String)
  | raiseDispute (user : AuthenticatedUser) (caseId : Id) (dto : CasesService.RaiseDisputeDto)
  | resolveDispute (user : AuthenticatedUser) (caseId : Id) (note : Option String)
  | elapse (ms : ℕ)

namespace CaseRequest

/-- The role is one of the endpoint's, and the user has access to the case. -/
def mayAct (d : Db) (user : AuthenticatedUser) (roles : List Role) (caseId : Id) : Bool :=
  user.role ∈ roles && (CaseAccessGuard.canActivate d user caseId).isOk

/-- The guards of the endpoint let the request through. -/
def permitted (d : Db) : CaseRequest → Bool
  | transition user i _ _ => mayAct d user staffTransitionRoles i
  | createQuote user i _ => mayAct d user staffQuoteRoles i
  | acceptQuote user _ => user.role = .customer
  | initiatePayment user _ _ _ => user.role = .customer
  | chargeSuccess .. | chargeFailed .. => true
  | resolveReconciliation user _ _ => user.role ∈ financeRoles
  | createAssignment user i _ => mayAct d user staffAssignRoles i
  | acceptAssignment user _ => user.role ∈ fieldRoles
  | declineAssignment user _ => user.role ∈ fieldRoles
  | completeFieldwork user i => mayAct d user fieldRoles i
  | performQc user i _ => mayAct d user qcRoles i
  | recordApproval user i _ _ => mayAct d user [.customer] i
  | hold user i _ => mayAct d user opsRoles i
  | resume user i _ => mayAct d user opsRoles i
  | raiseDispute user i _ => mayAct d user [.customer] i
  | resolveDispute user i _ => mayAct d user opsRoles i
  | elapse _ => true

/-- The service behind the endpoint, run alone to its end. -/
def serve (env : Env) (d : Db) : CaseRequest → Db
  | transition user i s r => (CasesService.transitionCase user i s r).exec d
  | createQuote user i dto => (CommerceService.createQuote env user i dto).exec d
  | acceptQuote user q => (CommerceService.acceptQuote user q).exec d
  | initiatePayment user i n checkout => (CommerceService.initiatePayment user i n checkout).exec d
  | chargeSuccess r a => (CommerceService.handleVerifiedCasePayment r a).exec d
  | chargeFailed r => (CommerceService.handleFailedCasePayment r).exec d
  | resolveReconciliation user i dto => (CommerceService.resolveReconciliation user i dto).exec d
  | createAssignment user i dto => (AssignmentsService.createAssignment user i dto).exec d
  | acceptAssignment user i => (AssignmentsService.acceptAssignment user i).exec d
  | declineAssignment user i => (AssignmentsService.declineAssignment user i).exec d
  | completeFieldwork user i => (EvidenceService.completeFieldwork user i).exec d
  | performQc user i dto => (EvidenceService.performQc user i dto).exec d
  | recordApproval user i act n => (CasesService.recordApproval user i act n).exec d
  | hold user i r => (CasesService.holdCase user i r).exec d
  | resume user i r => (CasesService.resumeCase user i r).exec d
  | raiseDispute user i dto => (CasesService.raiseDispute user i dto).exec d
  | resolveDispute user i n => (CasesService.resolveDispute user i n).exec d
  | elapse ms => { d with clock := d.clock + ms }

/-- The request, with its guards. -/
def step (env : Env) (d : Db) (o : CaseRequest) : Db := if o.permitted d then o.serve env d else d

/-- A request for a transition. -/
def isTransition : CaseRequest → Bool
  | transition .. => true
  | _ => false

end CaseRequest

/-- A database, and the rows of the status history that the endpoint for transitions has written so
far.  No table tells them from the rows of the other operations. -/
structure CaseRun where
  db : Db
  posted : List CaseStatusHistory := []

/-- The rows that have been added to the status history. -/
def newHistory (d d' : Db) : List CaseStatusHistory :=
  d'.caseStatusHistory.values.drop d.caseStatusHistory.values.length

def CaseRun.step (env : Env) (r : CaseRun) (o : CaseRequest) : CaseRun where
  db := o.step env r.db
  posted := if o.isTransition then r.posted ++ newHistory r.db (o.step env r.db) else r.posted

/-! ## The case as a record of its machine -/

/-- Where the case is, or where it resumes to. -/
def ServiceCase.place (c : ServiceCase) : CaseStatus :=
  if c.status = .onHold then c.heldFromStatus.getD .onHold else c.status

namespace Db

variable (d : Db) (i : Id)

def place : CaseStatus := ((d.serviceCase.get? i).map ServiceCase.place).getD .onHold

/-- The status history of the case, as moves with their times. -/
def timeline : List (Time × Move CaseStatus) :=
  (d.caseStatusHistory.values.filter fun h => h.caseId = i).map
    fun h => (h.createdAt, ⟨h.fromStatus, h.toStatus⟩)

/-- What the causes of the milestones rest on is kept: paid payments, invoices, reports, approvals
and the customers of the cases. -/
structure Retains (d d' : Db) : Prop where
  clock : d.clock ≤ d'.clock
  payment : ∀ j p, d.payment.get? j = some p → p.status = .paid → d'.payment.get? j = some p
  invoice : ∀ j v, d.invoice.get? j = some v → d'.invoice.get? j = some v
  report : ∀ j r, d.report.get? j = some r → d'.report.get? j = some r
  approval : ∀ j a, d.approval.get? j = some a → d'.approval.get? j = some a
  customer : d'.customer = d.customer
  owner : ∀ j, (d'.serviceCase.get? j).map ServiceCase.customerId =
    (d.serviceCase.get? j).map ServiceCase.customerId

end Db

/-- A milestone of a case, with what counts as a cause of it in the database. -/
structure CaseMilestone extends caseMachine.Milestone where
  /-- There is a cause for the case, of the given time. -/
  Cause : Db → Id → Time → Prop
  cause_mono : ∀ {d d' : Db}, d.Retains d' → ∀ {i t}, Cause d i t → Cause d' i t

/-- The record of a case, as far as the milestone is concerned. -/
def CaseMilestone.record (m : CaseMilestone) (r : CaseRun) (i : Id) : Record CaseStatus Time where
  now := r.db.clock
  log := r.db.timeline i
  place := r.db.place i
  causes := {t | m.Cause r.db i t}
  waivers := {t | ∃ h ∈ r.posted, h.caseId = i ∧ h.fromStatus = some m.source ∧
    h.toStatus = m.entry ∧ h.createdAt = t}

/-! ## The three milestones -/

/-- What holds of the edges of the table and of the two moves of a dispute holds of every edge. -/
lemma CaseEdge.all {P : CaseStatus → CaseStatus → Prop} (htable : ∀ s, ∀ t ∈ transitions s, P s t)
    (hraise : P .customerReview .disputed) (hresolve : P .disputed .additionalWork)
    {s t : CaseStatus} (h : CaseEdge s t) : P s t := by
  rcases h with hmem | ⟨rfl, rfl⟩ | ⟨rfl, rfl⟩
  · exact htable s t hmem
  · exact hraise
  · exact hresolve

namespace Db

variable (d : Db) (i : Id) (t : Time)

/-- A payment of one of the case's invoices is PAID, and was verified at the time `t`. -/
def PaidAt : Prop :=
  ∃ j p v, d.payment.get? j = some p ∧ p.status = .paid ∧ p.providerWebhookVerifiedAt = some t ∧
    d.invoice.get? p.invoiceId = some v ∧ v.caseId = i

/-- A report of the case was issued at the time `t`, on a pass. -/
def ReportedAt : Prop :=
  ∃ j r, d.report.get? j = some r ∧ r.caseId = i ∧ r.passes = true ∧ r.createdAt = t

/-- The customer of the case approved at the time `t`. -/
def ApprovedAt : Prop :=
  ∃ j a c customer, d.approval.get? j = some a ∧ a.caseId = i ∧ a.action = .approved ∧
    a.createdAt = t ∧ d.serviceCase.get? i = some c ∧
    d.customer.get? c.customerId = some customer ∧ a.byUserId = customer.userId

end Db

/-- From the payment on. -/
def scheduledStatuses : List CaseStatus :=
  [.scheduled, .assigned, .inProgress, .evidenceSubmitted, .qualityControl, .customerReview,
    .additionalWork, .approved, .completed, .disputed]

/-- A case is SCHEDULED when it has been paid. -/
def scheduling : CaseMilestone where
  source := .awaitingPayment
  entry := .scheduled
  Span s := s ∈ scheduledStatuses
  Stale _ := False
  span_entry := by decide
  not_span_start := by decide
  entry_ne_hold := by decide
  fresh_start := id
  fresh_entry := id
  fresh_suspend := fun _ => id
  fresh_resume := fun _ => id
  edge := by
    refine CaseEdge.all (P := fun s t => t ∈ scheduledStatuses →
      (s ∈ scheduledStatuses ∧ ¬ False) ∨ (s = .awaitingPayment ∧ t = .scheduled))
      (fun s => ?_) (by decide) (by decide)
    cases s <;> decide
  Cause := Db.PaidAt
  cause_mono := by
    rintro d d' h i t ⟨j, p, v, hp, hpaid, ht, hv, hcase⟩
    exact ⟨j, p, v, h.payment j p hp hpaid, hpaid, ht, h.invoice _ v hv, hcase⟩

/-- A case is handed to its customer with a report on what has been done since it last left
IN_PROGRESS. -/
def reviewing : CaseMilestone where
  source := .qualityControl
  entry := .customerReview
  Span s := s = .customerReview
  Stale mv := mv.source = some .inProgress
  span_entry := rfl
  not_span_start := by decide
  entry_ne_hold := by decide
  fresh_start := by decide
  fresh_entry := by decide
  fresh_suspend := by
    rintro s rfl
    decide
  fresh_resume := by
    rintro s rfl
    decide
  edge := by
    refine CaseEdge.all (P := fun s t => t = .customerReview →
      (s = .customerReview ∧ ¬ some s = some .inProgress) ∨
        (s = .qualityControl ∧ t = .customerReview))
      (fun s => ?_) (by decide) (by decide)
    cases s <;> decide
  Cause := Db.ReportedAt
  cause_mono := by
    rintro d d' h i t ⟨j, r, hr, hcase, hpasses, ht⟩
    exact ⟨j, r, h.report j r hr, hcase, hpasses, ht⟩

/-- A case is APPROVED when its customer has approved what was last handed over. -/
def approving : CaseMilestone where
  source := .customerReview
  entry := .approved
  Span s := s = .approved
  Stale mv := mv.target = .customerReview
  span_entry := rfl
  not_span_start := by decide
  entry_ne_hold := by decide
  fresh_start := by decide
  fresh_entry := by decide
  fresh_suspend := by
    rintro s rfl
    decide
  fresh_resume := by
    rintro s rfl
    decide
  edge := by
    refine CaseEdge.all (P := fun s t => t = .approved →
      (s = .approved ∧ ¬ t = .customerReview) ∨ (s = .customerReview ∧ t = .approved))
      (fun s => ?_) (by decide) (by decide)
    cases s <;> decide
  Cause := Db.ApprovedAt
  cause_mono := by
    rintro d d' h i t ⟨j, a, c, customer, ha, hcase, haction, ht, hc, hcustomer, huser⟩
    have howner := h.owner i
    rw [hc, Option.map_some] at howner
    obtain ⟨c', hc', hid⟩ := Option.map_eq_some_iff.mp howner
    refine ⟨j, a, c', customer, h.approval j a ha, hcase, haction, ht, hc', ?_, huser⟩
    rw [h.customer, hid, hcustomer]

def milestones : List CaseMilestone := [scheduling, reviewing, approving]

/-! ## What a change of the database does to the record -/

namespace Db

lemma Retains.refl (d : Db) : d.Retains d :=
  ⟨le_refl _, fun _ _ h _ => h, fun _ _ h => h, fun _ _ h => h, fun _ _ h => h, rfl, fun _ => rfl⟩

lemma Retains.trans {d d₁ d₂ : Db} (h : d.Retains d₁) (h' : d₁.Retains d₂) : d.Retains d₂ where
  clock := h.clock.trans h'.clock
  payment j p hp hpaid := h'.payment j p (h.payment j p hp hpaid) hpaid
  invoice j v hv := h'.invoice j v (h.invoice j v hv)
  report j r hr := h'.report j r (h.report j r hr)
  approval j a ha := h'.approval j a (h.approval j a ha)
  customer := h'.customer.trans h.customer
  owner j := (h'.owner j).trans (h.owner j)

/-- Nothing happens to the history of any case, or to where it is. -/
structure Quiet (d d' : Db) : Prop extends d.Retains d' where
  history : d'.caseStatusHistory = d.caseStatusHistory
  place : ∀ i, d'.place i = d.place i

lemma Quiet.refl (d : Db) : d.Quiet d := ⟨.refl d, rfl, fun _ => rfl⟩

lemma Quiet.trans {d d₁ d₂ : Db} (h : d.Quiet d₁) (h' : d₁.Quiet d₂) : d.Quiet d₂ :=
  ⟨h.toRetains.trans h'.toRetains, h'.history.trans h.history,
    fun i => (h'.place i).trans (h.place i)⟩

lemma Quiet.timeline {d d' : Db} (h : d.Quiet d') (i : Id) : d'.timeline i = d.timeline i := by
  rw [Db.timeline, h.history, Db.timeline]

variable (d : Db) {i : Id} {c : ServiceCase}

lemma timeline_moveCase (dst : CaseStatus) (held : Option CaseStatus) (a : Option Id)
    (r : Option String) (j : Id) :
    (d.moveCase i c dst held a r).timeline j =
      if i = j then d.timeline j ++ [(d.clock + 1, ⟨some c.status, dst⟩)] else d.timeline j := by
  by_cases h : i = j <;>
    simp [Db.timeline, Db.moveCase, Db.insertRow, Db.modifyRow, Db.tick, h]

variable {d}

lemma place_moveCase (hc : d.serviceCase.get? i = some c) (dst : CaseStatus)
    (held : Option CaseStatus) (a : Option Id) (r : Option String) (j : Id) :
    (d.moveCase i c dst held a r).place j =
      if i = j then ServiceCase.place { c with status := dst, heldFromStatus := held }
      else d.place j := by
  rw [Db.place, get?_moveCase d hc]
  split_ifs <;> rfl

lemma retains_moveCase (hc : d.serviceCase.get? i = some c) (dst : CaseStatus)
    (held : Option CaseStatus) (a : Option Id) (r : Option String) :
    d.Retains (d.moveCase i c dst held a r) where
  clock := by
    show d.clock ≤ d.clock + 1 + 1
    exact ((Int.lt_succ d.clock).trans (Int.lt_succ _)).le
  payment _ _ h _ := h
  invoice _ _ h := h
  report _ _ h := h
  approval _ _ h := h
  customer := rfl
  owner j := by
    rw [get?_moveCase d hc]
    split_ifs with h
    · rw [← h, hc]
      rfl
    · rfl

end Db

end Asoju
