/-
The case service: the status of a case and the methods that write it.

`transitions` is the table of the case state machine.  `applyTransition` is the one method
that consults it; holds and disputes manage the status themselves, on purpose, because
where they lead is not a fixed edge.  Each write of the status is followed by a row of the
status history.

The lemmas `…_run` give each method in closed form, with the two writes taken together as
`Db.moveCase`.  Audit events, notifications and the reports to other users that follow the
writes are left out.
-/
import Asoju.Prisma

namespace Asoju

open Lib

/-- The authenticated user of a request. -/
structure AuthenticatedUser where
  id : Id
  role : Role
deriving DecidableEq, Repr

/-! ## The case state machine -/

/-- The transition table. -/
def transitions : CaseStatus → List CaseStatus
  | .draft => [.submitted, .closed]
  | .submitted => [.underReview, .closed]
  | .underReview => [.quoted, .closed]
  | .quoted => [.awaitingPayment, .underReview, .closed]
  | .awaitingPayment => [.scheduled, .closed]
  | .scheduled => [.assigned, .closed]
  | .assigned => [.inProgress, .scheduled]
  | .inProgress => [.evidenceSubmitted]
  | .evidenceSubmitted => [.qualityControl]
  | .qualityControl => [.customerReview, .inProgress]
  | .customerReview => [.additionalWork, .approved]
  | .additionalWork => [.inProgress]
  | .approved => [.completed]
  | .completed => [.closed]
  | .closed => []
  | .onHold => []
  | .disputed => []

/-- The error of a transition that the table does not have. -/
def invalidTransition (src dst : CaseStatus) : HttpError :=
  let allowed := ", ".intercalate ((transitions src).map CaseStatus.name)
  let shown := if allowed = "" then "(none — terminal state)" else allowed
  .badRequest
    s!"Invalid case transition: {src.name} -> {dst.name}. Allowed from {src.name}: {shown}"

def assertValidTransition (src dst : CaseStatus) : Svc Unit :=
  if dst ∈ transitions src then pure () else throw (invalidTransition src dst)

/-- The database after a status change: the case `c` is written with its new status and the
status it resumes to, and the history gets a row. -/
def Db.moveCase (d : Db) (caseId : Id) (c : ServiceCase) (toStatus : CaseStatus)
    (held : Option CaseStatus) (actorId : Option Id) (reason : Option String) : Db :=
  (d.modifyRow .serviceCase caseId
      fun s => { s with status := toStatus, heldFromStatus := held }).insertRow
    .caseStatusHistory
      { caseId, fromStatus := some c.status, toStatus, changedById := actorId, reason
        createdAt := d.clock + 1 }

/-- The cases after a status change. -/
lemma get?_moveCase (d : Db) {i : Id} {c : ServiceCase} (hc : d.serviceCase.get? i = some c)
    (dst : CaseStatus) (held : Option CaseStatus) (a : Option Id) (r : Option String)
    (caseId : Id) :
    (d.moveCase i c dst held a r).serviceCase.get? caseId =
      if i = caseId then some { c with status := dst, heldFromStatus := held }
      else d.serviceCase.get? caseId := by
  by_cases h : i = caseId
  · subst h
    simp [Db.moveCase, Db.insertRow, Db.modifyRow, Db.tick, hc]
  · simp [Db.moveCase, Db.insertRow, Db.modifyRow, Db.tick, h,
      Table.get?_modify_of_ne _ (Ne.symm h)]

/-! ## The methods -/

namespace CasesService

/-- Checks a transition against the table, writes it and records it. -/
def applyTransition (caseId : Id) (toStatus : CaseStatus) (reason : Option String)
    (actorId : Option Id) : Svc ServiceCase := do
  let some serviceCase ← Prisma.findUnique .serviceCase caseId
    | throw (.notFound "Case not found")
  assertValidTransition serviceCase.status toStatus
  let updated ← Prisma.update .serviceCase caseId fun _ c => { c with status := toStatus }
  let _ ← Prisma.create .caseStatusHistory fun t =>
    { caseId, fromStatus := some serviceCase.status, toStatus, changedById := actorId, reason
      createdAt := t }
  return updated

def transitionCase (actor : AuthenticatedUser) (caseId : Id) (toStatus : CaseStatus)
    (reason : Option String) : Svc ServiceCase :=
  applyTransition caseId toStatus reason (some actor.id)

/-- A transition with no human actor behind it. -/
def systemTransitionCase (caseId : Id) (toStatus : CaseStatus) (reason : Option String) :
    Svc ServiceCase :=
  applyTransition caseId toStatus reason none

def recordApproval (actor : AuthenticatedUser) (caseId : Id) (action : ApprovalAction)
    (note : Option String) : Svc Id := do
  let some serviceCase ← Prisma.findUnique .serviceCase caseId
    | throw (.notFound "Case not found")
  let approval ← Prisma.create .approval fun t =>
    { caseId, byUserId := actor.id, action, note, createdAt := t }
  if action = .approved ∧ serviceCase.status = .customerReview then
    let _ ← transitionCase actor caseId .approved (some "Customer approved")
    let _ ← transitionCase actor caseId .completed
      (some "Auto-completed after customer approval")
  else if action = .requestAdditionalWork ∧ serviceCase.status = .customerReview then
    let _ ← transitionCase actor caseId .additionalWork
      (some (note.getD "Customer requested additional work"))
  return approval

/-- Puts a case on hold, from any status but the held and the finished ones, and remembers
the way back. -/
def holdCase (actor : AuthenticatedUser) (caseId : Id) (reason : String) :
    Svc ServiceCase := do
  let some serviceCase ← Prisma.findUnique .serviceCase caseId
    | throw (.notFound "Case not found")
  if serviceCase.status = .onHold then throw (.badRequest "Case is already on hold")
  if serviceCase.status = .completed ∨ serviceCase.status = .closed then
    throw (.badRequest s!"Cannot hold a case in status {serviceCase.status.name}")
  let updated ← Prisma.update .serviceCase caseId fun _ c =>
    { c with status := .onHold, heldFromStatus := some serviceCase.status }
  let _ ← Prisma.create .caseStatusHistory fun t =>
    { caseId, fromStatus := some serviceCase.status, toStatus := .onHold
      changedById := some actor.id, reason := some reason, createdAt := t }
  return updated

def resumeCase (actor : AuthenticatedUser) (caseId : Id) (reason : Option String) :
    Svc ServiceCase := do
  let some serviceCase ← Prisma.findUnique .serviceCase caseId
    | throw (.notFound "Case not found")
  let some resumeTo := serviceCase.heldFromStatus
    | throw (.badRequest "Case is not on hold")
  if serviceCase.status ≠ .onHold then throw (.badRequest "Case is not on hold")
  let updated ← Prisma.update .serviceCase caseId fun _ c =>
    { c with status := resumeTo, heldFromStatus := none }
  let _ ← Prisma.create .caseStatusHistory fun t =>
    { caseId, fromStatus := some .onHold, toStatus := resumeTo, changedById := some actor.id
      reason, createdAt := t }
  return updated

structure RaiseDisputeDto where
  disputedTaskIds : List Id
  reasons : Option (List String) := none
  notes : Option String := none
deriving DecidableEq, Repr

/-- The text of the history row of a dispute. -/
def disputeReason (dto : RaiseDisputeDto) : String :=
  let listed := match dto.reasons with
    | none | some [] => ""
    | some rs => ": " ++ ", ".intercalate rs
  s!"Customer disputed {dto.disputedTaskIds.length} checklist item(s){listed}"

/-- The customer profile of a user. -/
def customerProfile (d : Db) (userId : Id) : Option (Id × Customer) :=
  d.customer.rows.find? fun p => p.2.userId = userId

def requireCustomerProfile (userId : Id) : Svc Id := do
  let some (customerId, _) ← Prisma.query .customer (customerProfile · userId)
    | throw (.notFound "No customer profile for this user")
  return customerId

/-- The checklist tasks of the case among the given ones. -/
def disputedTasks (d : Db) (caseId : Id) (taskIds : List Id) : List (Id × CaseTask) :=
  d.caseTask.rows.filter fun p => p.1 ∈ taskIds ∧ p.2.caseId = caseId

def raiseDispute (actor : AuthenticatedUser) (caseId : Id) (dto : RaiseDisputeDto) :
    Svc Id := do
  let some serviceCase ← Prisma.findUnique .serviceCase caseId
    | throw (.notFound "Case not found")
  if serviceCase.status ≠ .customerReview then
    throw (.badRequest "Disputes can only be raised once a report is ready for your review")
  let tasks ← Prisma.query .caseTask (disputedTasks · caseId dto.disputedTaskIds)
  if tasks.length ≠ dto.disputedTaskIds.length then
    throw (.badRequest "One or more disputed items are not checklist tasks on this case")
  let customerId ← requireCustomerProfile actor.id
  let dispute ← Prisma.create .dispute fun _ =>
    { caseId, customerId, disputedTaskIds := dto.disputedTaskIds
      reasons := dto.reasons.getD [], notes := dto.notes }
  Prisma.updateMany .caseTask (fun i t => i ∈ dto.disputedTaskIds ∧ t.caseId = caseId)
    fun t => { t with isComplete := false, completedAt := none }
  let _ ← Prisma.update .serviceCase caseId fun _ c => { c with status := .disputed }
  let _ ← Prisma.create .caseStatusHistory fun t =>
    { caseId, fromStatus := some .customerReview, toStatus := .disputed
      changedById := some actor.id, reason := some (disputeReason dto), createdAt := t }
  return dispute

/-- The oldest open dispute of the case. -/
def openDispute (d : Db) (caseId : Id) : Option (Id × Dispute) :=
  d.dispute.rows.find? fun p => p.2.caseId = caseId ∧ p.2.status = .open

/-- Accepts the oldest open dispute of the case, if there is one, and sends the case back
for rework. -/
def resolveDispute (actor : AuthenticatedUser) (caseId : Id) (note : Option String) :
    Svc Unit := do
  let some serviceCase ← Prisma.findUnique .serviceCase caseId
    | throw (.notFound "Case not found")
  if serviceCase.status ≠ .disputed then throw (.badRequest "Case is not disputed")
  let dispute ← Prisma.query .dispute (openDispute · caseId)
  if let some (disputeId, _) := dispute then
    let _ ← Prisma.update .dispute disputeId fun t p =>
      { p with status := .resolved, resolvedAt := some t, resolvedById := some actor.id }
  let _ ← Prisma.update .serviceCase caseId fun _ c => { c with status := .additionalWork }
  let _ ← Prisma.create .caseStatusHistory fun t =>
    { caseId, fromStatus := some .disputed, toStatus := .additionalWork
      changedById := some actor.id
      reason := some (note.getD "Dispute accepted — rework scheduled on disputed items")
      createdAt := t }

/-! ## The methods in closed form -/

section Run

variable (d : Db) (caseId : Id)

/-- Two writes of a status change that leave the way back alone are one `moveCase`. -/
lemma moveCase_of_status {c : ServiceCase} (h : d.serviceCase.get? caseId = some c)
    (toStatus : CaseStatus) (actorId : Option Id) (reason : Option String) :
    (d.modifyRow .serviceCase caseId fun s => { s with status := toStatus }).insertRow
        .caseStatusHistory
        { caseId, fromStatus := some c.status, toStatus, changedById := actorId, reason
          createdAt := d.clock + 1 } =
      d.moveCase caseId c toStatus c.heldFromStatus actorId reason := by
  have hmod : d.serviceCase.modify caseId (fun s => { s with status := toStatus }) =
      d.serviceCase.modify caseId
        fun s => { s with status := toStatus, heldFromStatus := c.heldFromStatus } :=
    Table.modify_congr h rfl
  simp [Db.moveCase, Db.modifyRow, hmod]

lemma applyTransition_run (toStatus : CaseStatus) (reason : Option String)
    (actorId : Option Id) :
    (applyTransition caseId toStatus reason actorId).run d =
      match d.serviceCase.get? caseId with
      | none => (.error (.notFound "Case not found"), d)
      | some c =>
          if toStatus ∈ transitions c.status then
            (.ok { c with status := toStatus },
              d.moveCase caseId c toStatus c.heldFromStatus actorId reason)
          else (.error (invalidTransition c.status toStatus), d) := by
  rw [applyTransition]
  cases h : d.serviceCase.get? caseId with
  | none => simp [Prog.run_bind, h]
  | some c =>
    by_cases hv : toStatus ∈ transitions c.status
    · simp [Prog.run_bind, h, assertValidTransition, hv, ← moveCase_of_status d caseId h,
        Db.modifyRow, Db.tick]
    · simp [Prog.run_bind, h, assertValidTransition, hv]

/-- A transition that the table allows. -/
lemma transitionCase_run_of_mem {d : Db} {caseId : Id} {c : ServiceCase}
    (hc : d.serviceCase.get? caseId = some c) {toStatus : CaseStatus}
    (hmem : toStatus ∈ transitions c.status) (actor : AuthenticatedUser)
    (reason : Option String) :
    (transitionCase actor caseId toStatus reason).run d =
      (.ok { c with status := toStatus },
        d.moveCase caseId c toStatus c.heldFromStatus (some actor.id) reason) := by
  rw [transitionCase, applyTransition_run, hc]
  exact if_pos hmem

/-- What a transition can do. -/
lemma applyTransition_exec (toStatus : CaseStatus) (reason : Option String)
    (actorId : Option Id) :
    (applyTransition caseId toStatus reason actorId).exec d = d ∨
      ∃ c, d.serviceCase.get? caseId = some c ∧ toStatus ∈ transitions c.status ∧
        (applyTransition caseId toStatus reason actorId).exec d =
          d.moveCase caseId c toStatus c.heldFromStatus actorId reason := by
  rw [Prog.exec, applyTransition_run]
  cases h : d.serviceCase.get? caseId with
  | none => exact Or.inl rfl
  | some c =>
    by_cases hv : toStatus ∈ transitions c.status
    · exact Or.inr ⟨c, rfl, hv, by simp [hv]⟩
    · exact Or.inl (by simp [hv])

/-- A case is held unless it is held already or finished. -/
lemma holdCase_cases (actor : AuthenticatedUser) (reason : String) :
    ((holdCase actor caseId reason).exec d = d ∧
        ∀ c, d.serviceCase.get? caseId = some c →
          c.status = .onHold ∨ c.status = .completed ∨ c.status = .closed) ∨
      ∃ c, d.serviceCase.get? caseId = some c ∧
        c.status ≠ .onHold ∧ c.status ≠ .completed ∧ c.status ≠ .closed ∧
        (holdCase actor caseId reason).exec d =
          d.moveCase caseId c .onHold (some c.status) (some actor.id) (some reason) := by
  rw [Prog.exec, holdCase]
  cases h : d.serviceCase.get? caseId with
  | none => exact Or.inl (by simp [Prog.run_bind, h])
  | some c =>
    by_cases h₁ : c.status = .onHold
    · exact Or.inl (by simp [Prog.run_bind, h, h₁])
    · by_cases h₂ : c.status = .completed ∨ c.status = .closed
      · exact Or.inl (by simp [Prog.run_bind, h, h₁, h₂])
      · refine Or.inr ⟨c, rfl, h₁, fun h' => h₂ (Or.inl h'), fun h' => h₂ (Or.inr h'), ?_⟩
        simp [Prog.run_bind, h, h₁, h₂, Db.moveCase, Db.modifyRow, Db.tick]

lemma holdCase_exec (actor : AuthenticatedUser) (reason : String) :
    (holdCase actor caseId reason).exec d = d ∨
      ∃ c, d.serviceCase.get? caseId = some c ∧
        c.status ≠ .onHold ∧ c.status ≠ .completed ∧ c.status ≠ .closed ∧
        (holdCase actor caseId reason).exec d =
          d.moveCase caseId c .onHold (some c.status) (some actor.id) (some reason) :=
  (holdCase_cases d caseId actor reason).imp_left And.left

/-- A case that is on hold and remembers its way back is resumed, and no other. -/
lemma resumeCase_cases (actor : AuthenticatedUser) (reason : Option String) :
    ((resumeCase actor caseId reason).exec d = d ∧
        ∀ c, d.serviceCase.get? caseId = some c → c.status = .onHold →
          c.heldFromStatus = none) ∨
      ∃ c back, d.serviceCase.get? caseId = some c ∧
        c.status = .onHold ∧ c.heldFromStatus = some back ∧
        (resumeCase actor caseId reason).exec d =
          d.moveCase caseId c back none (some actor.id) reason := by
  rw [Prog.exec, resumeCase]
  cases h : d.serviceCase.get? caseId with
  | none => exact Or.inl (by simp [Prog.run_bind, h])
  | some c =>
    cases hb : c.heldFromStatus with
    | none => exact Or.inl (by simp [Prog.run_bind, h, hb])
    | some back =>
      by_cases hs : c.status = .onHold
      · refine Or.inr ⟨c, back, rfl, hs, hb, ?_⟩
        simp [Prog.run_bind, h, hb, hs, Db.moveCase, Db.modifyRow, Db.tick]
      · exact Or.inl (by simp [Prog.run_bind, h, hb, hs])

lemma resumeCase_exec (actor : AuthenticatedUser) (reason : Option String) :
    (resumeCase actor caseId reason).exec d = d ∨
      ∃ c back, d.serviceCase.get? caseId = some c ∧
        c.status = .onHold ∧ c.heldFromStatus = some back ∧
        (resumeCase actor caseId reason).exec d =
          d.moveCase caseId c back none (some actor.id) reason :=
  (resumeCase_cases d caseId actor reason).imp_left And.left

/-- The database after an approval row. -/
def approvalRow (actor : AuthenticatedUser) (action : ApprovalAction) (note : Option String) :
    Db :=
  d.insertRow .approval
    { caseId, byUserId := actor.id, action, note, createdAt := d.clock }

lemma recordApproval_exec (actor : AuthenticatedUser) (action : ApprovalAction)
    (note : Option String) :
    (recordApproval actor caseId action note).exec d = d ∨
      ∃ c, d.serviceCase.get? caseId = some c ∧
        let d₁ := approvalRow d caseId actor action note
        ((recordApproval actor caseId action note).exec d = d₁ ∨
          (action = .approved ∧ c.status = .customerReview ∧
            (recordApproval actor caseId action note).exec d =
              (d₁.moveCase caseId c .approved c.heldFromStatus (some actor.id)
                (some "Customer approved")).moveCase caseId { c with status := .approved }
                .completed c.heldFromStatus (some actor.id)
                (some "Auto-completed after customer approval")) ∨
          (action = .requestAdditionalWork ∧ c.status = .customerReview ∧
            (recordApproval actor caseId action note).exec d =
              d₁.moveCase caseId c .additionalWork c.heldFromStatus (some actor.id)
                (some (note.getD "Customer requested additional work")))) := by
  rw [Prog.exec, recordApproval]
  cases h : d.serviceCase.get? caseId with
  | none => exact Or.inl (by simp [Prog.run_bind, h])
  | some c =>
    refine Or.inr ⟨c, rfl, ?_⟩
    have h₁ : (approvalRow d caseId actor action note).serviceCase.get? caseId = some c := h
    by_cases ha : action = .approved ∧ c.status = .customerReview
    · refine Or.inr (Or.inl ⟨ha.1, ha.2, ?_⟩)
      simp [Prog.run_bind, h, ha, transitionCase, applyTransition_run, approvalRow,
        Db.insertRow, Db.moveCase, Db.modifyRow, Db.tick, transitions]
    · by_cases hw : action = .requestAdditionalWork ∧ c.status = .customerReview
      · refine Or.inr (Or.inr ⟨hw.1, hw.2, ?_⟩)
        simp [Prog.run_bind, h, hw, transitionCase, applyTransition_run, approvalRow,
          Db.insertRow, Db.tick, transitions]
      · exact Or.inl (by simp [Prog.run_bind, h, ha, hw, approvalRow])

lemma raiseDispute_exec (actor : AuthenticatedUser) (dto : RaiseDisputeDto) :
    (raiseDispute actor caseId dto).exec d = d ∨
      ∃ c customerId, d.serviceCase.get? caseId = some c ∧ c.status = .customerReview ∧
        (raiseDispute actor caseId dto).exec d =
          ((d.insertRow .dispute
              { caseId, customerId, disputedTaskIds := dto.disputedTaskIds
                reasons := dto.reasons.getD [], notes := dto.notes }).modifyRows .caseTask
            (fun i t => i ∈ dto.disputedTaskIds ∧ t.caseId = caseId)
            fun t => { t with isComplete := false, completedAt := none }).moveCase
            caseId c .disputed c.heldFromStatus (some actor.id) (some (disputeReason dto)) := by
  rw [Prog.exec, raiseDispute]
  cases h : d.serviceCase.get? caseId with
  | none => exact Or.inl (by simp [Prog.run_bind, h])
  | some c =>
    by_cases hs : c.status = .customerReview
    · by_cases hl : (disputedTasks d caseId dto.disputedTaskIds).length =
          dto.disputedTaskIds.length
      · cases hc : customerProfile d actor.id with
        | none => exact Or.inl (by simp [Prog.run_bind, h, hs, hl, requireCustomerProfile, hc])
        | some p =>
          refine Or.inr ⟨c, p.1, rfl, hs, ?_⟩
          rw [← moveCase_of_status (h := by exact h)]
          simp [Prog.run_bind, h, hs, hl, requireCustomerProfile, hc,
            Db.insertRow, Db.modifyRows, Db.modifyRow, Db.tick]
      · exact Or.inl (by simp [Prog.run_bind, h, hs, hl])
    · exact Or.inl (by simp [Prog.run_bind, h, hs])

/-- The database after the oldest open dispute of the case has been accepted. -/
def acceptDispute (actor : AuthenticatedUser) : Db :=
  match openDispute d caseId with
  | none => d
  | some p => d.modifyRow .dispute p.1 fun q =>
      { q with status := .resolved, resolvedAt := some d.clock, resolvedById := some actor.id }

lemma resolveDispute_cases (actor : AuthenticatedUser) (note : Option String) :
    (resolveDispute actor caseId note).exec d = d ∨
      ∃ c, d.serviceCase.get? caseId = some c ∧ c.status = .disputed ∧
        (resolveDispute actor caseId note).exec d =
          (acceptDispute d caseId actor).moveCase caseId c .additionalWork c.heldFromStatus
            (some actor.id)
            (some (note.getD "Dispute accepted — rework scheduled on disputed items")) := by
  rw [Prog.exec, resolveDispute]
  cases h : d.serviceCase.get? caseId with
  | none => exact Or.inl (by simp [Prog.run_bind, h])
  | some c =>
    by_cases hs : c.status = .disputed
    · refine Or.inr ⟨c, rfl, hs, ?_⟩
      rw [acceptDispute]
      cases hd : openDispute d caseId with
      | none =>
        rw [← moveCase_of_status (h := by exact h)]
        simp [Prog.run_bind, h, hs, hd, Db.modifyRow, Db.tick]
      | some p =>
        have hp : d.dispute.get? p.1 = some p.2 :=
          d.dispute.mem_rows_iff.mp (List.mem_of_find?_eq_some hd)
        rw [← moveCase_of_status (h := by exact h)]
        simp [Prog.run_bind, h, hs, hd, hp, Db.modifyRow, Db.tick]
    · exact Or.inl (by simp [Prog.run_bind, h, hs])

/-- The same without saying which dispute is accepted. -/
lemma resolveDispute_exec (actor : AuthenticatedUser) (note : Option String) :
    (resolveDispute actor caseId note).exec d = d ∨
      ∃ c d₁, d.serviceCase.get? caseId = some c ∧ c.status = .disputed ∧
        (d₁ = d ∨ ∃ disputeId f, d₁ = d.modifyRow .dispute disputeId f) ∧
        (resolveDispute actor caseId note).exec d =
          d₁.moveCase caseId c .additionalWork c.heldFromStatus (some actor.id)
            (some (note.getD "Dispute accepted — rework scheduled on disputed items")) := by
  rcases resolveDispute_cases d caseId actor note with heq | ⟨c, hc, hs, heq⟩
  · exact Or.inl heq
  · refine Or.inr ⟨c, acceptDispute d caseId actor, hc, hs, ?_, heq⟩
    rw [acceptDispute]
    cases openDispute d caseId with
    | none => exact Or.inl rfl
    | some p => exact Or.inr ⟨p.1, _, rfl⟩

end Run

end CasesService

end Asoju
