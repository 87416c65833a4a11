/-
Assignments: staff offer a case to an agent or a provider, who accepts or declines.

The first assignment of a SCHEDULED case moves it to ASSIGNED; an acceptance moves an ASSIGNED case
on to execution, and a decline moves it back.  Each method writes the assignment before it moves the
case.  The audit events and the notifications that follow the writes are left out.
-/
import Asoju.Cases

namespace Asoju

open Lib

/-- An assignment with its case and the users behind it. -/
structure AssignmentDetail where
  assignment : Assignment
  serviceCase : ServiceCase
  agentUserId : Option Id
  providerUserId : Option Id
deriving DecidableEq, Repr

/-- The assignment with its agent or provider and its case. -/
def Db.assignmentDetail (d : Db) (i : Id) : Option AssignmentDetail := do
  let a ← d.assignment.get? i
  let serviceCase ← d.serviceCase.get? a.caseId
  return ⟨a, serviceCase, (a.agentId.bind d.agent.get?).map Agent.userId,
    (a.providerId.bind d.provider.get?).map Provider.userId⟩

lemma Db.rows_of_assignmentDetail {d : Db} {i : Id} {x : AssignmentDetail}
    (h : d.assignmentDetail i = some x) :
    d.assignment.get? i = some x.assignment ∧
      d.serviceCase.get? x.assignment.caseId = some x.serviceCase := by
  simp only [assignmentDetail, Option.bind_eq_bind, Option.bind_eq_some_iff] at h
  obtain ⟨a, ha, c, hc, h⟩ := h
  cases h
  exact ⟨ha, hc⟩

namespace AssignmentsService

structure CreateAssignmentDto where
  role : AssignmentRole
  agentId : Option Id := none
  providerId : Option Id := none
  scheduledFor : Option Time := none
deriving DecidableEq, Repr

/-- The provider has to be verified, and the agent active. -/
def checkAssignee (dto : CreateAssignmentDto) : Svc Unit :=
  match dto.role with
  | .provider => do
      let some provider ← Prisma.query .provider fun d => dto.providerId.bind d.provider.get?
        | throw (.notFound "Provider not found")
      if provider.status ≠ .verified ∧ provider.status ≠ .active then
        throw (.badRequest "Provider is not yet verified for assignment")
  | .fieldAgent => do
      let agent ← Prisma.query .agent fun d => dto.agentId.bind d.agent.get?
      if !agent.any Agent.isActive then throw (.notFound "Agent not found or inactive")

/-- The row of a new assignment. -/
def newAssignment (caseId : Id) (dto : CreateAssignmentDto) : Assignment :=
  { caseId, role := dto.role
    agentId := if dto.role = .fieldAgent then dto.agentId else none
    providerId := if dto.role = .provider then dto.providerId else none
    scheduledFor := dto.scheduledFor }

def assignableStatuses : List CaseStatus := [.scheduled, .assigned, .inProgress]

/-- Offers the case to an agent or a provider. -/
def createAssignment (actor : AuthenticatedUser) (caseId : Id) (dto : CreateAssignmentDto) :
    Svc Id := do
  let some serviceCase ← Prisma.findUnique .serviceCase caseId
    | throw (.notFound "Case not found")
  if serviceCase.status ∉ assignableStatuses then
    throw (.badRequest s!"Cannot assign a case in status {serviceCase.status.name}")
  checkAssignee dto
  let assignment ← Prisma.create .assignment fun _ => newAssignment caseId dto
  if serviceCase.status = .scheduled then
    let _ ← CasesService.transitionCase actor caseId .assigned (some s!"{dto.role.name} assigned")
  return assignment

/-- The assignment, if it is the user's own. -/
def requireOwnedAssignment (actor : AuthenticatedUser) (assignmentId : Id) :
    Svc AssignmentDetail := do
  let some x ← Prisma.query .assignment (·.assignmentDetail assignmentId)
    | throw (.notFound "Assignment not found")
  if ¬ (x.agentUserId = some actor.id ∨ x.providerUserId = some actor.id) then
    throw (.forbidden "Not your assignment")
  return x

/-- An answer to an assignment: it is marked, and an ASSIGNED case moves. -/
def answer (actor : AuthenticatedUser) (assignmentId : Id) (x : AssignmentDetail)
    (mark : Time → Assignment → Assignment) (toStatus : CaseStatus) (reason : String) :
    Svc Assignment := do
  let updated ← Prisma.update .assignment assignmentId mark
  if x.serviceCase.status = .assigned then
    let _ ← CasesService.transitionCase actor x.assignment.caseId toStatus (some reason)
  return updated

/-- The assigned person accepts. -/
def acceptAssignment (actor : AuthenticatedUser) (assignmentId : Id) : Svc Assignment := do
  let x ← requireOwnedAssignment actor assignmentId
  if x.assignment.status ≠ .offered then
    throw (.badRequest s!"Assignment already {x.assignment.status.lowerName}")
  answer actor assignmentId x (fun t a => { a with status := .accepted, acceptedAt := some t })
    .inProgress "Assignment accepted"

/-- The assigned person declines, whatever the status of the assignment is. -/
def declineAssignment (actor : AuthenticatedUser) (assignmentId : Id) : Svc Assignment := do
  let x ← requireOwnedAssignment actor assignmentId
  answer actor assignmentId x (fun _ a => { a with status := .declined }) .scheduled
    "Assignment declined"

/-! ## The methods in closed form -/

section Run

variable (d : Db) (actor : AuthenticatedUser)

/-- The check of the assignee writes nothing. -/
lemma checkAssignee_run (dto : CreateAssignmentDto) :
    (∃ e, (checkAssignee dto).run d = (.error e, d)) ∨ (checkAssignee dto).run d = (.ok (), d) := by
  rw [checkAssignee]
  cases dto.role with
  | provider =>
    cases hp : dto.providerId.bind d.provider.get? with
    | none => exact Or.inl ⟨_, by simp [Prog.run_bind, hp]; rfl⟩
    | some provider =>
      by_cases hs : provider.status ≠ .verified ∧ provider.status ≠ .active
      · exact Or.inl ⟨_, by simp [Prog.run_bind, hp, hs]; rfl⟩
      · exact Or.inr (by simp [Prog.run_bind, hp, hs])
  | fieldAgent =>
    cases ha : (dto.agentId.bind d.agent.get?).any Agent.isActive with
    | false => exact Or.inl ⟨_, by simp [Prog.run_bind, ha]; rfl⟩
    | true => exact Or.inr (by simp [Prog.run_bind, ha])

/-- The database after an offer: the first one of a SCHEDULED case moves it on. -/
def offered (caseId : Id) (c : ServiceCase) (dto : CreateAssignmentDto) : Db :=
  let d₁ := d.insertRow .assignment (newAssignment caseId dto)
  if c.status = .scheduled then
    d₁.moveCase caseId c .assigned c.heldFromStatus (some actor.id)
      (some s!"{dto.role.name} assigned")
  else d₁

lemma createAssignment_exec (caseId : Id) (dto : CreateAssignmentDto) :
    (createAssignment actor caseId dto).exec d = d ∨
      ∃ c, d.serviceCase.get? caseId = some c ∧
        (createAssignment actor caseId dto).exec d = offered d actor caseId c dto := by
  rw [Prog.exec, createAssignment]
  cases h : d.serviceCase.get? caseId with
  | none => exact Or.inl (by simp [Prog.run_bind, h])
  | some c =>
    by_cases hs : c.status ∈ assignableStatuses
    · rcases checkAssignee_run d dto with ⟨e, he⟩ | hok
      · exact Or.inl (by simp [Prog.run_bind, h, hs, he])
      · refine Or.inr ⟨c, rfl, ?_⟩
        have h₁ : (d.insertRow .assignment (newAssignment caseId dto)).serviceCase.get? caseId =
          some c := h
        by_cases hscheduled : c.status = .scheduled
        · have hmem : CaseStatus.scheduled ∈ assignableStatuses := by decide
          simp [offered, Prog.run_bind, h, hmem, hok, hscheduled, CasesService.transitionCase,
            CasesService.applyTransition_run, h₁, transitions]
        · simp [offered, Prog.run_bind, h, hs, hok, hscheduled]
    · exact Or.inl (by simp [Prog.run_bind, h, hs])

/-- The user is the person behind the assignment. -/
def Owns (assignmentId : Id) (x : AssignmentDetail) : Prop :=
  d.assignmentDetail assignmentId = some x ∧
    (x.agentUserId = some actor.id ∨ x.providerUserId = some actor.id)

lemma requireOwnedAssignment_run (assignmentId : Id) :
    ((∃ e, (requireOwnedAssignment actor assignmentId).run d = (.error e, d)) ∧
        ∀ x, ¬ Owns d actor assignmentId x) ∨
      ∃ x, Owns d actor assignmentId x ∧
        (requireOwnedAssignment actor assignmentId).run d = (.ok x, d) := by
  rw [requireOwnedAssignment, Prog.run_bind_ok (Prisma.run_query d _ _)]
  cases hx : d.assignmentDetail assignmentId with
  | none =>
    refine Or.inl ⟨⟨_, rfl⟩, ?_⟩
    rintro x ⟨hx', -⟩
    rw [hx] at hx'
    cases hx'
  | some x =>
    dsimp only
    by_cases howner : x.agentUserId = some actor.id ∨ x.providerUserId = some actor.id
    · rw [if_neg (not_not.mpr howner)]
      exact Or.inr ⟨x, ⟨hx, howner⟩, rfl⟩
    · rw [if_pos howner]
      refine Or.inl ⟨⟨_, rfl⟩, ?_⟩
      rintro y ⟨hy, howns⟩
      obtain rfl := Option.some.inj (hx.symm.trans hy)
      exact howner howns

/-- The database after an answer: the assignment is changed by `mark`, and an ASSIGNED case
moves. -/
def answered (assignmentId : Id) (x : AssignmentDetail) (mark : Assignment → Assignment)
    (toStatus : CaseStatus) (reason : String) : Db :=
  let d₁ := d.modifyRow .assignment assignmentId mark
  if x.serviceCase.status = .assigned then
    d₁.moveCase x.assignment.caseId x.serviceCase toStatus x.serviceCase.heldFromStatus
      (some actor.id) (some reason)
  else d₁

lemma answer_exec {x : AssignmentDetail} {assignmentId : Id} (mark : Time → Assignment → Assignment)
    {toStatus : CaseStatus} (hmem : toStatus ∈ transitions .assigned) (reason : String)
    (hx : d.assignmentDetail assignmentId = some x) :
    (answer actor assignmentId x mark toStatus reason).exec d =
      answered d actor assignmentId x (mark d.clock) toStatus reason := by
  obtain ⟨ha, hc⟩ := Db.rows_of_assignmentDetail hx
  have hc₁ : (d.modifyRow .assignment assignmentId (mark d.clock)).serviceCase.get?
    x.assignment.caseId = some x.serviceCase := hc
  rw [Prog.exec, answer, Prog.run_bind_ok (Prisma.run_update_of_some ha mark)]
  by_cases hassigned : x.serviceCase.status = .assigned
  · simp [answered, Prog.run_bind, hassigned, hmem, CasesService.transitionCase,
      CasesService.applyTransition_run, hc₁]
  · simp [answered, hassigned]

/-- An acceptance is refused, or it is the answer to an offer. -/
lemma acceptAssignment_exec (assignmentId : Id) :
    (acceptAssignment actor assignmentId).exec d = d ∨
      ∃ x, Owns d actor assignmentId x ∧ x.assignment.status = .offered ∧
        (acceptAssignment actor assignmentId).exec d =
          answered d actor assignmentId x
            (fun a => { a with status := .accepted, acceptedAt := some d.clock }) .inProgress
              "Assignment accepted" := by
  rw [Prog.exec, acceptAssignment]
  rcases requireOwnedAssignment_run d actor assignmentId with ⟨⟨e, he⟩, -⟩ | ⟨x, howns, hx⟩
  · exact Or.inl (by rw [Prog.run_bind, he])
  · rw [Prog.run_bind_ok hx]
    by_cases hoffered : x.assignment.status = .offered
    · rw [if_neg (not_not.mpr hoffered)]
      exact Or.inr ⟨x, howns, hoffered,
        answer_exec d actor (fun t a => { a with status := .accepted, acceptedAt := some t })
          (by decide) "Assignment accepted" howns.1⟩
    · rw [if_pos hoffered]
      exact Or.inl rfl

/-- A decline is refused exactly for a user who is not the person behind the assignment. -/
lemma declineAssignment_exec (assignmentId : Id) :
    ((declineAssignment actor assignmentId).exec d = d ∧ ∀ x, ¬ Owns d actor assignmentId x) ∨
      ∃ x, Owns d actor assignmentId x ∧
        (declineAssignment actor assignmentId).exec d =
          answered d actor assignmentId x (fun a => { a with status := .declined }) .scheduled
            "Assignment declined" := by
  rw [Prog.exec, declineAssignment]
  rcases requireOwnedAssignment_run d actor assignmentId with ⟨⟨e, he⟩, hnot⟩ | ⟨x, howns, hx⟩
  · exact Or.inl ⟨by rw [Prog.run_bind, he], hnot⟩
  · rw [Prog.run_bind_ok hx]
    exact Or.inr ⟨x, howns,
      answer_exec d actor (fun _ a => { a with status := .declined }) (by decide)
        "Assignment declined" howns.1⟩

end Run

end AssignmentsService

end Asoju
