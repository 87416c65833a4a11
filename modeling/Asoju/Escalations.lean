/-
Escalations: what staff have to decide, from its creation to its end.

An escalation is resolved or cancelled once, and both are refused for one that has ended.  An
assignment is not: it takes an escalation under review again, also one that has ended, and leaves
the time and the notes of its end on it.  `ended_once_iff` says that nothing else does.
-/
import Asoju.Automation
import Asoju.Cases
import Asoju.Lib.Run

namespace Asoju

open Lib

/-- The escalation has been resolved or cancelled. -/
def Escalation.Ended (e : Escalation) : Prop := e.status = .resolved ∨ e.status = .cancelled

instance decidableEnded (e : Escalation) : Decidable e.Ended :=
  inferInstanceAs (Decidable (_ ∨ _))

namespace EscalationService

def opsRoles : List Role :=
  [.caseManager, .relationshipManager, .qualityControl, .finance, .complianceRisk, .admin,
    .superAdmin]

structure CreateEscalationDto where
  reasonCategory : EscalationReasonCategory
  customerMessage : String
  internalReason : Option String := none
deriving DecidableEq, Repr

/-- Staff escalate a case. -/
def create (caseId : Id) (dto : CreateEscalationDto) : Svc Id := do
  let some _ ← Prisma.findUnique .serviceCase caseId
    | throw (.notFound "Case not found")
  let escalation ← Prisma.create .escalation fun _ =>
    { caseId := some caseId, reasonCategory := dto.reasonCategory
      internalReason := dto.internalReason, customerMessage := dto.customerMessage }
  Prisma.audit
  return escalation

def requireEscalation (id : Id) : Svc Escalation := do
  let some escalation ← Prisma.findUnique .escalation id
    | throw (.notFound "Escalation not found")
  return escalation

/-- The escalation under review of the assignee. -/
def assigned (assignedToId : Id) (e : Escalation) : Escalation :=
  { e with assignedToId := some assignedToId, status := .reviewing }

def assign (id assignedToId : Id) : Svc Escalation := do
  let _ ← requireEscalation id
  let assignee ← Prisma.findUnique .user assignedToId
  if (assignee.any fun user => user.role ∈ opsRoles) = false then
    throw (.badRequest "Escalations can only be assigned to operations staff")
  let updated ← Prisma.update .escalation id fun _ => assigned assignedToId
  Prisma.audit
  return updated

/-- The escalation when it has come to its end. -/
def closed (status : EscalationStatus) (notes : Option String) (t : Time) (e : Escalation) :
    Escalation :=
  { e with status, resolvedAt := some t, resolutionNotes := notes }

/-- An escalation comes to an end, unless it has ended already. -/
def close (status : EscalationStatus) (id : Id) (notes : Option String) : Svc Escalation := do
  let escalation ← requireEscalation id
  if escalation.status = .resolved ∨ escalation.status = .cancelled then
    throw (.badRequest s!"Escalation is already {escalation.status.lowerName}")
  let updated ← Prisma.update .escalation id (closed status notes)
  Prisma.audit
  return updated

def resolve (id : Id) (resolutionNotes : String) : Svc Escalation :=
  close .resolved id (some resolutionNotes)

def cancel (id : Id) (reason : Option String) : Svc Escalation := close .cancelled id reason

end EscalationService

/-! ## The methods in closed form -/

namespace EscalationService

variable (d : Db) (id : Id)

lemma requireEscalation_run :
    (requireEscalation id).run d = match d.escalation.get? id with
      | some e => (.ok e, d)
      | none => (.error (.notFound "Escalation not found"), d) := by
  have hfind : (Prisma.findUnique .escalation id).run d = (.ok (d.escalation.get? id), d) := rfl
  rw [requireEscalation, Prog.run_bind_ok hfind]
  cases d.escalation.get? id <;> rfl

/-- The user is there, and belongs to the operations staff. -/
def isStaff (d : Db) (userId : Id) : Bool :=
  (d.user.get? userId).any fun user => user.role ∈ opsRoles

lemma create_exec (caseId : Id) (dto : CreateEscalationDto) :
    (create caseId dto).exec d = d ∨
      ∃ e : Escalation, ¬ e.Ended ∧ e.resolvedAt = none ∧
        (create caseId dto).exec d = d.insertRow .escalation e := by
  have hfind : (Prisma.findUnique .serviceCase caseId).run d =
      (.ok (d.serviceCase.get? caseId), d) := rfl
  rw [Prog.exec, create, Prog.run_bind_ok hfind]
  cases d.serviceCase.get? caseId with
  | none => exact Or.inl rfl
  | some c => exact Or.inr ⟨_, by simp [Escalation.Ended], rfl, rfl⟩

lemma createForServiceRequest_exec (serviceRequestId : Id)
    (reasonCategory : EscalationReasonCategory) (customerMessage : String)
    (internalReason : Option String) :
    ∃ e : Escalation, ¬ e.Ended ∧ e.resolvedAt = none ∧
      (createForServiceRequest serviceRequestId reasonCategory customerMessage
        internalReason).exec d = d.insertRow .escalation e :=
  ⟨_, by simp [Escalation.Ended], rfl, rfl⟩

/-- An escalation that is there is assigned to staff, and nothing else is assigned. -/
lemma assign_exec (assignedToId : Id) :
    (assign id assignedToId).exec d =
      if (d.escalation.get? id).isSome ∧ isStaff d assignedToId then
        d.modifyRow .escalation id (assigned assignedToId)
      else d := by
  have hfind : (Prisma.findUnique .user assignedToId).run d =
      (.ok (d.user.get? assignedToId), d) := rfl
  rw [Prog.exec, assign, Prog.run_bind, requireEscalation_run]
  cases he : d.escalation.get? id with
  | none => simp
  | some e =>
    dsimp only
    rw [Prog.run_bind_ok hfind]
    by_cases hstaff : isStaff d assignedToId = true
    · have hany : ((d.user.get? assignedToId).any fun user => user.role ∈ opsRoles) = true := hstaff
      rw [if_neg (by simp [hany]), if_pos ⟨rfl, hstaff⟩,
        Prog.run_bind_ok (Prisma.run_update_of_some he _)]
      rfl
    · rw [Bool.not_eq_true] at hstaff
      have hany : ((d.user.get? assignedToId).any fun user => user.role ∈ opsRoles) = false :=
        hstaff
      rw [if_pos hany, if_neg (by simp [hstaff])]
      rfl

/-- An escalation that is there comes to its end, if it has not ended. -/
lemma close_exec (status : EscalationStatus) (notes : Option String) :
    (close status id notes).exec d = d ∨
      ∃ e, d.escalation.get? id = some e ∧ ¬ e.Ended ∧
        (close status id notes).exec d =
          d.modifyRow .escalation id (closed status notes d.clock) := by
  rw [Prog.exec, close, Prog.run_bind, requireEscalation_run]
  cases he : d.escalation.get? id with
  | none => exact Or.inl rfl
  | some e =>
    dsimp only
    by_cases hended : e.status = .resolved ∨ e.status = .cancelled
    · rw [if_pos hended]
      exact Or.inl rfl
    · rw [if_neg hended, Prog.run_bind_ok (Prisma.run_update_of_some he _)]
      exact Or.inr ⟨e, rfl, hended, rfl⟩

end EscalationService

/-! ## Every run -/

/-- A call, or the passing of time. -/
inductive EscalationOp
  | create (caseId : Id) (dto : EscalationService.CreateEscalationDto)
  | createForServiceRequest (serviceRequestId : Id) (reasonCategory : EscalationReasonCategory)
      (customerMessage : String) (internalReason : Option String)
  | assign (id assignedToId : Id)
  | resolve (id : Id) (resolutionNotes : String)
  | cancel (id : Id) (reason : Option String)
  | elapse (ms : ℕ)
deriving DecidableEq, Repr

def EscalationOp.step (d : Db) : EscalationOp → Db
  | create caseId dto => (EscalationService.create caseId dto).exec d
  | createForServiceRequest serviceRequestId reasonCategory customerMessage internalReason =>
      (EscalationService.createForServiceRequest serviceRequestId reasonCategory customerMessage
        internalReason).exec d
  | assign id assignedToId => (EscalationService.assign id assignedToId).exec d
  | resolve id resolutionNotes => (EscalationService.resolve id resolutionNotes).exec d
  | cancel id reason => (EscalationService.cancel id reason).exec d
  | elapse ms => { d with clock := d.clock + ms }

/-- The time of the end is there exactly for what has ended. -/
def Db.EndsStamped (d : Db) : Prop :=
  ∀ i e, d.escalation.get? i = some e → (e.resolvedAt.isSome = true ↔ e.Ended)

/-- What has ended is as it was after the call. -/
def EscalationOp.KeepsEnded (d : Db) (o : EscalationOp) : Prop :=
  ∀ i e, d.escalation.get? i = some e → e.Ended →
    ∃ e', (o.step d).escalation.get? i = some e' ∧ e'.status = e.status ∧
      e'.resolvedAt = e.resolvedAt ∧ e'.resolutionNotes = e.resolutionNotes

/-- The call does not assign an escalation that has ended to staff. -/
def EscalationOp.Reopens (d : Db) : EscalationOp → Prop
  | assign id assignedToId =>
      (∃ e, d.escalation.get? id = some e ∧ e.Ended) ∧
        EscalationService.isStaff d assignedToId = true
  | _ => False

section Runs

variable {d d' : Db} {o : EscalationOp} {i : Id} {e : Escalation}

/-- What a call that does not reopen anything can do to the escalations. -/
lemma EscalationOp.step_cases (h : ¬ o.Reopens d) :
    (o.step d).escalation = d.escalation ∨
      (∃ e : Escalation, ¬ e.Ended ∧ e.resolvedAt = none ∧
        (o.step d).escalation = d.escalation.insert e) ∨
      ∃ i e f, d.escalation.get? i = some e ∧ ¬ e.Ended ∧
        (o.step d).escalation = d.escalation.modify i f ∧
        ((f e).resolvedAt.isSome = true ↔ (f e).Ended ∨ e.resolvedAt.isSome = true) := by
  cases o with
  | create caseId dto =>
    rcases EscalationService.create_exec d caseId dto with heq | ⟨e, hended, hstamp, heq⟩
    · exact Or.inl (congrArg Db.escalation heq)
    · exact Or.inr (Or.inl ⟨e, hended, hstamp, congrArg Db.escalation heq⟩)
  | createForServiceRequest serviceRequestId reasonCategory customerMessage internalReason =>
    obtain ⟨e, hended, hstamp, heq⟩ := EscalationService.createForServiceRequest_exec d
      serviceRequestId reasonCategory customerMessage internalReason
    exact Or.inr (Or.inl ⟨e, hended, hstamp, congrArg Db.escalation heq⟩)
  | assign id assignedToId =>
    have heq := EscalationService.assign_exec d id assignedToId
    by_cases hgo : (d.escalation.get? id).isSome ∧ EscalationService.isStaff d assignedToId
    · rw [if_pos hgo] at heq
      obtain ⟨e, he⟩ := Option.isSome_iff_exists.mp hgo.1
      have hended : ¬ e.Ended := fun hended => h ⟨⟨e, he, hended⟩, hgo.2⟩
      refine Or.inr (Or.inr ⟨id, e, _, he, hended, congrArg Db.escalation heq, ?_⟩)
      -- under review it has not ended, and its time is the one it had
      simp [EscalationService.assigned, Escalation.Ended]
    · rw [if_neg hgo] at heq
      exact Or.inl (congrArg Db.escalation heq)
  | resolve id resolutionNotes =>
    rcases EscalationService.close_exec d id .resolved (some resolutionNotes) with
      heq | ⟨e, he, hended, heq⟩
    · exact Or.inl (congrArg Db.escalation heq)
    · refine Or.inr (Or.inr ⟨id, e, _, he, hended, congrArg Db.escalation heq, ?_⟩)
      simp [EscalationService.closed, Escalation.Ended]
  | cancel id reason =>
    rcases EscalationService.close_exec d id .cancelled reason with heq | ⟨e, he, hended, heq⟩
    · exact Or.inl (congrArg Db.escalation heq)
    · refine Or.inr (Or.inr ⟨id, e, _, he, hended, congrArg Db.escalation heq, ?_⟩)
      simp [EscalationService.closed, Escalation.Ended]
  | elapse ms => exact Or.inl rfl

lemma Db.EndsStamped.step (h : d.EndsStamped) (ho : ¬ o.Reopens d) :
    (o.step d).EndsStamped := by
  intro i e he
  rcases EscalationOp.step_cases ho with htable | ⟨new, hended, hstamp, htable⟩ |
    ⟨j, old, f, hold, hended, htable, hf⟩
  · rw [htable] at he
    exact h i e he
  · rw [htable] at he
    rcases Table.get?_insert_cases he with he | ⟨-, rfl⟩
    · exact h i e he
    · rw [hstamp]
      simpa using hended
  · rw [htable] at he
    rcases Table.get?_modify_cases hold he with he | ⟨-, rfl⟩
    · exact h i e he
    · rw [hf, or_iff_left fun hstamp => hended ((h j old hold).mp hstamp)]

lemma EscalationOp.keepsEnded (ho : ¬ o.Reopens d) : o.KeepsEnded d := by
  intro i e he hended
  rcases EscalationOp.step_cases ho with htable | ⟨new, -, -, htable⟩ |
    ⟨j, old, f, hold, hold', htable, -⟩
  · exact ⟨e, by rw [htable, he], rfl, rfl, rfl⟩
  · exact ⟨e, by rw [htable, Table.get?_insert_of_some he], rfl, rfl, rfl⟩
  · -- what is changed has not ended
    have hne : i ≠ j := by
      rintro rfl
      exact hold' (Option.some.inj (hold.symm.trans he) ▸ hended)
    exact ⟨e, by rw [htable, Table.get?_modify_of_ne _ hne, he], rfl, rfl, rfl⟩

/-- An assignment of what has ended changes its status. -/
lemma EscalationOp.not_keepsEnded (ho : o.Reopens d) : ¬ o.KeepsEnded d := by
  cases o with
  | assign id assignedToId =>
    obtain ⟨⟨e, he, hended⟩, hstaff⟩ := ho
    intro hkeeps
    obtain ⟨e', he', hstatus, -⟩ := hkeeps id e he hended
    have heq := EscalationService.assign_exec d id assignedToId
    rw [if_pos ⟨by rw [he]; rfl, hstaff⟩] at heq
    have hnow : (EscalationOp.step d (.assign id assignedToId)).escalation.get? id =
        some (EscalationService.assigned assignedToId e) := by
      refine (congrArg (fun d => d.escalation.get? id) heq).trans ?_
      show (d.escalation.modify id _).get? id = _
      rw [Table.get?_modify_self, he, Option.map_some]
    rw [hnow, Option.some.injEq] at he'
    rw [← he'] at hstatus
    rcases hended with h | h <;> rw [h] at hstatus <;> cases hstatus
  | create => exact ho.elim
  | createForServiceRequest => exact ho.elim
  | resolve => exact ho.elim
  | cancel => exact ho.elim
  | elapse => exact ho.elim

end Runs

/-- **Escalations end once.**  In a run all that has ended stays as it is, and the time of the end
is there exactly for what has ended, if and only if no call assigns an escalation that has ended to
staff. -/
theorem ended_once_iff (d : Db) (h : d.EndsStamped) (os : List EscalationOp) :
    (AllStates EscalationOp.step Db.EndsStamped d os ∧
        AllSteps EscalationOp.step (fun d o => o.KeepsEnded d) d os) ↔
      AllSteps EscalationOp.step (fun d o => ¬ o.Reopens d) d os := by
  refine allStates_and_allSteps_iff (I := fun _ => True) (fun _ _ _ => trivial)
    (fun d o _ hd => ?_) trivial h os
  constructor
  · rintro ⟨-, hkeeps⟩ hreopens
    exact EscalationOp.not_keepsEnded hreopens hkeeps
  · exact fun ho => ⟨hd.step ho, EscalationOp.keepsEnded ho⟩

/-- A case and a case manager, and no escalation. -/
def managedCaseDb : Db :=
  { user := Table.empty.insert { email := none, role := .caseManager }
    serviceCase := Table.empty.insert
      { customerId := 0, serviceType := .propertyInspection, description := "", location := "" } }

/-- An escalation that is taken up and resolved. -/
def resolvedEscalation : List EscalationOp :=
  [.create 0 ⟨.manual, "We are looking into it", none⟩, .assign 0 0, .elapse 1000,
   .resolve 0 "Agreed with the customer"]

theorem ended_once_resolved :
    AllStates EscalationOp.step Db.EndsStamped managedCaseDb resolvedEscalation ∧
      AllSteps EscalationOp.step (fun d o => o.KeepsEnded d) managedCaseDb
        resolvedEscalation := by
  refine (ended_once_iff managedCaseDb (fun i e he => by cases he) resolvedEscalation).mpr
    ⟨id, ?_, id, id, trivial⟩
  rintro ⟨⟨e, he, hended⟩, -⟩
  cases he
  rcases hended with h | h <;> cases h

/-- A resolved escalation is assigned, and under review again. -/
def reopenedEscalation : List EscalationOp := resolvedEscalation ++ [.assign 0 0]

theorem not_ended_once :
    ¬ (AllStates EscalationOp.step Db.EndsStamped managedCaseDb reopenedEscalation ∧
      AllSteps EscalationOp.step (fun d o => o.KeepsEnded d) managedCaseDb
        reopenedEscalation) := by
  rintro ⟨hstates, -⟩
  have hrow : (runFrom EscalationOp.step managedCaseDb reopenedEscalation).escalation.get? 0 =
      some { caseId := some 0, reasonCategory := .manual
             customerMessage := "We are looking into it", status := .reviewing, assignedToId := some 0, resolvedAt := some 1002
             resolutionNotes := some "Agreed with the customer" } := by decide +kernel
  rcases (hstates.last 0 _ hrow).mp rfl with h | h <;> cases h

end Asoju
