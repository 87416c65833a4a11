/-
The emergency alert of an agent in the field.

A severe alert about a case puts the case on hold, through the ordinary operation.  The assignment
that the alert names is looked up after that, and when there is none the alert is refused, with the
case on hold and nothing that says why.  `triggerSosAlert_clean_iff` says that this is the only
way to leave something behind.

The handling of an alert by the staff is left out.
-/
import Asoju.Cases

namespace Asoju

open Lib

namespace AgentSosService

structure TriggerSosDto where
  alertType : SosAlertType
  severity : SosSeverity
  message : Option String := none
  latitude : ℚ
  longitude : ℚ
  accuracy : Option ℚ := none
  address : Option String := none
  caseId : Option Id := none
  assignmentId : Option Id := none
deriving DecidableEq, Repr

def holdTriggeringSeverities : List SosSeverity := [.high, .critical]

/-- Of the cases with these statuses none can be put on hold. -/
def notHoldableStatuses : List CaseStatus := [.onHold, .completed, .closed]

/-- The agent that the user is. -/
def agentOfUser (d : Db) (userId : Id) : Option (Id × Agent) :=
  d.agent.rows.find? fun p => p.2.userId = userId

def requireOwnAgent (actor : AuthenticatedUser) : Svc Id := do
  let some agent ← Prisma.query .agent (agentOfUser · actor.id)
    | throw (.forbidden "Only a field agent can trigger an SOS alert")
  return agent.1

def TriggerSosDto.Misplaced (dto : TriggerSosDto) : Prop :=
  dto.latitude < -90 ∨ 90 < dto.latitude ∨ dto.longitude < -180 ∨ 180 < dto.longitude

instance decidableMisplaced (dto : TriggerSosDto) : Decidable dto.Misplaced :=
  inferInstanceAs (Decidable (_ ∨ _))

/-- The alert holds up the case. -/
def TriggerSosDto.Holds (dto : TriggerSosDto) (c : ServiceCase) : Prop :=
  dto.severity ∈ holdTriggeringSeverities ∧ c.status ∉ notHoldableStatuses

instance decidableHolds (dto : TriggerSosDto) (c : ServiceCase) : Decidable (dto.Holds c) :=
  inferInstanceAs (Decidable (_ ∧ _))

def holdReason (severity : SosSeverity) : String :=
  s!"Emergency SOS alert triggered by field agent ({severity.name})"

/-- The case that the alert is about has to be there, and is put on hold by a severe alert. -/
def holdForAlert (actor : AuthenticatedUser) (dto : TriggerSosDto) : Svc Bool :=
  match dto.caseId with
  | none => return false
  | some caseId => do
      let some serviceCase ← Prisma.findUnique .serviceCase caseId
        | throw (.notFound "Case not found")
      if dto.Holds serviceCase then
        let _ ← CasesService.holdCase actor caseId (holdReason dto.severity)
        return true
      return false

def checkAssignment : Option Id → Svc Unit
  | none => return ()
  | some assignmentId => do
      let some _ ← Prisma.findUnique .assignment assignmentId
        | throw (.notFound "Assignment not found")
      return ()

/-- The row of the alert. -/
def newAlert (agentId : Id) (dto : TriggerSosDto) (caseHeld : Bool) : SosAlert :=
  { agentId, caseId := dto.caseId, assignmentId := dto.assignmentId, alertType := dto.alertType
    severity := dto.severity, message := dto.message, latitude := dto.latitude
    longitude := dto.longitude, accuracy := dto.accuracy, address := dto.address, caseHeld }

def triggerSosAlert (actor : AuthenticatedUser) (dto : TriggerSosDto) : Svc Id := do
  let agentId ← requireOwnAgent actor
  if dto.Misplaced then throw (.badRequest "Invalid GPS coordinates for SOS alert")
  let caseHeld ← holdForAlert actor dto
  checkAssignment dto.assignmentId
  let alert ← Prisma.create .sosAlert fun _ => newAlert agentId dto caseHeld
  Prisma.audit
  Prisma.notify
  return alert

/-! ## The parts in closed form -/

section Run

variable (d : Db) (actor : AuthenticatedUser) (dto : TriggerSosDto)

/-- The case is on hold because of the alert. -/
def heldDb (caseId : Id) (c : ServiceCase) : Db :=
  d.moveCase caseId c .onHold (some c.status) (some actor.id) (some (holdReason dto.severity))

/-- The alert puts its case on hold. -/
def Severe : Prop := ∃ i c, dto.caseId = some i ∧ d.serviceCase.get? i = some c ∧ dto.Holds c

variable {d actor dto}

/-- The hold that the alert asks for is granted: it is asked for where it would be. -/
lemma holdForAlert_severe {i : Id} {c : ServiceCase} (hi : dto.caseId = some i)
    (hc : d.serviceCase.get? i = some c) (hholds : dto.Holds c) :
    (holdForAlert actor dto).run d = (.ok true, heldDb d actor dto i c) := by
  have hstatus : c.status ≠ .onHold ∧ c.status ≠ .completed ∧ c.status ≠ .closed := by
    simpa [notHoldableStatuses] using hholds.2
  obtain ⟨h₁, h₂, h₃⟩ := hstatus
  have hfind : (Prisma.findUnique .serviceCase i).run d = (.ok (some c), d) := by
    rw [Prisma.run_findUnique, Rel.serviceCase_get, hc]
  simp only [holdForAlert, hi]
  rw [Prog.run_bind_ok hfind]
  simp [hholds, CasesService.holdCase, Prog.run_bind, hc, h₁, h₂, h₃, heldDb, Db.moveCase,
    Db.modifyRow, Db.tick]

/-- Without a hold nothing is written. -/
lemma holdForAlert_mild (hmild : ¬ Severe d dto) :
    (∃ e, (holdForAlert actor dto).run d = (.error e, d)) ∨
      (holdForAlert actor dto).run d = (.ok false, d) := by
  cases hi : dto.caseId with
  | none =>
    right
    simp only [holdForAlert, hi]
    rfl
  | some i =>
    have hfind : (Prisma.findUnique .serviceCase i).run d = (.ok (d.serviceCase.get? i), d) := rfl
    simp only [holdForAlert, hi]
    rw [Prog.run_bind_ok hfind]
    cases hc : d.serviceCase.get? i with
    | none => exact Or.inl ⟨_, rfl⟩
    | some c =>
      have hnot : ¬ dto.Holds c := fun h => hmild ⟨i, c, hi, hc, h⟩
      right
      simp [hnot]

/-- The assignment that the alert names is there. -/
def Assigned (d : Db) (dto : TriggerSosDto) : Prop :=
  ∀ a, dto.assignmentId = some a → (d.assignment.get? a).isSome = true

lemma checkAssignment_run (h : Assigned d dto) :
    (checkAssignment dto.assignmentId).run d = (.ok (), d) := by
  cases ha : dto.assignmentId with
  | none => rfl
  | some a =>
    obtain ⟨row, hrow⟩ := Option.isSome_iff_exists.mp (h a ha)
    have hfind : (Prisma.findUnique .assignment a).run d = (.ok (some row), d) := by
      rw [Prisma.run_findUnique, Rel.assignment_get, hrow]
    rw [checkAssignment, Prog.run_bind_ok hfind]
    rfl

lemma checkAssignment_run_of_not (h : ¬ Assigned d dto) :
    (checkAssignment dto.assignmentId).run d = (.error (.notFound "Assignment not found"), d) := by
  simp only [Assigned, not_forall, Bool.not_eq_true, Option.isSome_eq_false_iff,
    Option.isNone_iff_eq_none] at h
  obtain ⟨a, ha, hnone⟩ := h
  have hfind : (Prisma.findUnique .assignment a).run d = (.ok none, d) := by
    rw [Prisma.run_findUnique, Rel.assignment_get, hnone]
  rw [ha, checkAssignment, Prog.run_bind_ok hfind]
  rfl

/-- The actor is an agent and says where he is. -/
def Placed (d : Db) (actor : AuthenticatedUser) (dto : TriggerSosDto) : Prop :=
  (agentOfUser d actor.id).isSome = true ∧ ¬ dto.Misplaced

/-- What is left to do when the case has been seen to. -/
def sendAlert (agentId : Id) (dto : TriggerSosDto) (caseHeld : Bool) : Svc Id := do
  checkAssignment dto.assignmentId
  let alert ← Prisma.create .sosAlert fun _ => newAlert agentId dto caseHeld
  Prisma.audit
  Prisma.notify
  return alert

lemma triggerSosAlert_run (h : Placed d actor dto) :
    ∃ agentId, (triggerSosAlert actor dto).run d =
      (holdForAlert actor dto >>= sendAlert agentId dto).run d := by
  obtain ⟨agent, hagent⟩ := Option.isSome_iff_exists.mp h.1
  refine ⟨agent.1, ?_⟩
  have hown : (requireOwnAgent actor).run d = (.ok agent.1, d) := by
    rw [requireOwnAgent, Prog.run_bind_ok (Prisma.run_query d _ _), hagent]
    rfl
  rw [triggerSosAlert, Prog.run_bind_ok hown, if_neg h.2]
  rfl

lemma triggerSosAlert_run_of_not (h : ¬ Placed d actor dto) :
    ∃ e, (triggerSosAlert actor dto).run d = (.error e, d) := by
  rw [triggerSosAlert, requireOwnAgent, Prog.bind_assoc, Prog.run_bind_ok (Prisma.run_query d _ _)]
  cases hagent : agentOfUser d actor.id with
  | none => exact ⟨_, rfl⟩
  | some agent =>
    have hmisplaced : dto.Misplaced := not_not.mp fun hplaced => h ⟨by simp [hagent], hplaced⟩
    refine ⟨.badRequest "Invalid GPS coordinates for SOS alert", ?_⟩
    simp only [Prog.run_bind, hmisplaced]
    rfl

lemma sendAlert_run (agentId : Id) (caseHeld : Bool) (h : Assigned d dto) :
    (sendAlert agentId dto caseHeld).run d =
      (.ok d.sosAlert.next, d.insertRow .sosAlert (newAlert agentId dto caseHeld)) := by
  rw [sendAlert, Prog.run_bind_ok (checkAssignment_run h), Prog.run_bind_ok (Prisma.run_create ..)]
  rfl

lemma sendAlert_run_of_not (agentId : Id) (caseHeld : Bool) (h : ¬ Assigned d dto) :
    (sendAlert agentId dto caseHeld).run d = (.error (.notFound "Assignment not found"), d) := by
  rw [sendAlert, Prog.run_bind, checkAssignment_run_of_not h]

end Run

end AgentSosService

/-! ## What a call leaves behind -/

section Clean

open AgentSosService

/-- What a failed call must leave alone: the cases, their history and the alerts. -/
structure AlertView where
  cases : Table ServiceCase
  history : Table CaseStatusHistory
  alerts : Table SosAlert

def alertView (d : Db) : AlertView := ⟨d.serviceCase, d.caseStatusHistory, d.sosAlert⟩

/-- For every case that has been put on hold there is a new alert that says so. -/
def HoldsAlerted (d d' : Db) : Prop :=
  ∀ i c, d'.serviceCase.get? i = some c → c.status = .onHold →
    (∀ c₀, d.serviceCase.get? i = some c₀ → c₀.status ≠ .onHold) →
      ∃ k a, d.sosAlert.get? k = none ∧ d'.sosAlert.get? k = some a ∧ a.caseHeld = true ∧
        a.caseId = some i

variable {d : Db} {actor : AuthenticatedUser} {dto : TriggerSosDto}

lemma HoldsAlerted.of_serviceCase {d' : Db} (h : d'.serviceCase = d.serviceCase) :
    HoldsAlerted d d' := by
  intro i c hc hheld hnot
  rw [h] at hc
  exact absurd hheld (hnot c hc)

/-- The history of the case shows the hold. -/
lemma alertView_heldDb_ne (i : Id) (c : ServiceCase) :
    alertView (heldDb d actor dto i c) ≠ alertView d := by
  intro h
  have hhistory : (heldDb d actor dto i c).caseStatusHistory = d.caseStatusHistory :=
    congrArg AlertView.history h
  have hnext : (heldDb d actor dto i c).caseStatusHistory.next = d.caseStatusHistory.next + 1 := rfl
  rw [hhistory] at hnext
  omega

/-- The alert that is recorded after the hold is the one for it. -/
lemma holdsAlerted_sent {i : Id} {c : ServiceCase} (agentId : Id) (hi : dto.caseId = some i)
    (hc : d.serviceCase.get? i = some c) :
    HoldsAlerted d ((heldDb d actor dto i c).insertRow .sosAlert (newAlert agentId dto true)) := by
  intro j c' hc' hheld hnot
  have hcase : (heldDb d actor dto i c).serviceCase.get? j = some c' := hc'
  rw [heldDb, get?_moveCase d hc] at hcase
  by_cases hij : i = j
  · subst hij
    refine ⟨d.sosAlert.next, newAlert agentId dto true, d.sosAlert.get?_next, ?_, rfl, hi⟩
    exact d.sosAlert.get?_insert_self _
  · rw [if_neg hij] at hcase
    exact absurd hheld (hnot c' hcase)

/-- **A failed alert has no effect.**  In every state, for every actor and request, a call that
fails leaves the cases, their history and the alerts as they were, and a case that is put on hold
has an alert that says so, if and only if the call does not come to look for an assignment that is
not there after a severe alert has put its case on hold. -/
theorem triggerSosAlert_clean_iff (d : Db) (actor : AuthenticatedUser) (dto : TriggerSosDto) :
    (Prog.FailsCleanly alertView (triggerSosAlert actor dto) d ∧
        HoldsAlerted d ((triggerSosAlert actor dto).exec d)) ↔
      ¬ (Placed d actor dto ∧ Severe d dto ∧ ¬ Assigned d dto) := by
  by_cases hplaced : Placed d actor dto
  · obtain ⟨agentId, hrun⟩ := triggerSosAlert_run hplaced
    by_cases hsevere : Severe d dto
    · obtain ⟨i, c, hi, hc, hholds⟩ := hsevere
      rw [Prog.run_bind_ok (holdForAlert_severe hi hc hholds)] at hrun
      by_cases hassigned : Assigned d dto
      · have hheld : Assigned (heldDb d actor dto i c) dto := hassigned
        rw [sendAlert_run agentId true hheld] at hrun
        refine iff_of_true ⟨fun e d' h => ?_, ?_⟩ fun h => h.2.2 hassigned
        · rw [hrun] at h
          cases h
        · rw [Prog.exec, hrun]
          exact holdsAlerted_sent agentId hi hc
      · have hheld : ¬ Assigned (heldDb d actor dto i c) dto := hassigned
        rw [sendAlert_run_of_not agentId true hheld] at hrun
        refine iff_of_false (fun h => alertView_heldDb_ne i c (h.1 _ _ hrun)) fun h => h ?_
        exact ⟨hplaced, ⟨i, c, hi, hc, hholds⟩, hassigned⟩
    · -- nothing is written before the alert itself
      refine iff_of_true ?_ fun h => hsevere h.2.1
      rcases holdForAlert_mild hsevere with ⟨e, hhold⟩ | hhold
      · rw [Prog.run_bind, hhold] at hrun
        refine ⟨fun e' d' h => ?_, .of_serviceCase (by rw [Prog.exec, hrun])⟩
        rw [hrun] at h
        cases h
        rfl
      · rw [Prog.run_bind_ok hhold] at hrun
        by_cases hassigned : Assigned d dto
        · rw [sendAlert_run agentId false hassigned] at hrun
          refine ⟨fun e d' h => ?_, .of_serviceCase (by rw [Prog.exec, hrun]; rfl)⟩
          rw [hrun] at h
          cases h
        · rw [sendAlert_run_of_not agentId false hassigned] at hrun
          refine ⟨fun e d' h => ?_, .of_serviceCase (by rw [Prog.exec, hrun])⟩
          rw [hrun] at h
          cases h
          rfl
  · obtain ⟨e, hrun⟩ := triggerSosAlert_run_of_not hplaced
    refine iff_of_true ⟨fun e' d' h => ?_, .of_serviceCase (by rw [Prog.exec, hrun])⟩
      fun h => hplaced h.1
    rw [hrun] at h
    cases h
    rfl

/-- An agent, and a case that is being worked on. -/
def fieldDb : Db where
  clock := 100
  agent := Table.empty.insert { userId := 7, isActive := true }
  serviceCase := Table.empty.insert
    { customerId := 0, serviceType := .propertyInspection, description := "Site visit"
      location := "Lekki", status := .inProgress }

/-- A critical alert about the case that names an assignment there is not. -/
def straySos : TriggerSosDto :=
  { alertType := .security, severity := .critical, latitude := 13 / 2, longitude := 7 / 2
    caseId := some 0, assignmentId := some 3 }

/-- The alert is refused, and the case is on hold without one. -/
theorem triggerSosAlert_not_clean :
    ¬ (Prog.FailsCleanly alertView (triggerSosAlert ⟨7, .fieldAgent⟩ straySos) fieldDb ∧
        HoldsAlerted fieldDb ((triggerSosAlert ⟨7, .fieldAgent⟩ straySos).exec fieldDb)) ∧
      (let s := (triggerSosAlert ⟨7, .fieldAgent⟩ straySos).run fieldDb
       s.1 = .error (.notFound "Assignment not found") ∧
        s.2.serviceCase.values.map (·.status) = [.onHold] ∧
        s.2.caseStatusHistory.values.map (·.toStatus) = [.onHold] ∧
        s.2.sosAlert.values = []) := by
  refine ⟨fun h => ?_, by decide +kernel⟩
  have hview := h.1 (.notFound "Assignment not found")
    ((triggerSosAlert ⟨7, .fieldAgent⟩ straySos).exec fieldDb)
    (Prod.ext (by decide +kernel) rfl)
  have hnext : ((triggerSosAlert ⟨7, .fieldAgent⟩ straySos).exec fieldDb).caseStatusHistory.next =
      fieldDb.caseStatusHistory.next := congrArg (fun v => v.history.next) hview
  exact absurd hnext (by decide +kernel)

end Clean

end Asoju
