/-
Quality control: from the evidence of a case to its report.

A review is recorded whatever its outcome is.  Two outcomes issue a report and hand the case to the
customer, two send it back to the field, and two leave it where it is and raise an incident.  The
checks of what an outcome requires come after the record of the review.

As soon as it is recorded, the tiers of the agents of the case are computed again.

Audit events, notifications and the assessment of the risk are left out.
-/
import Asoju.AgentTiering
import Asoju.Cases

namespace Asoju

open Lib

/-- The report was issued on a pass. -/
def Report.passes (r : Report) : Bool :=
  r.qcOutcome = some .approved ∨ r.qcOutcome = some .passWithLimitation

namespace Db

variable (d : Db) (caseId : Id)

def evidenceCount : ℕ := d.evidence.values.countP fun e => e.caseId = caseId

/-- The highest position on the checklist of the case. -/
def maxSortOrder : Option ℤ :=
  ((d.caseTask.values.filter fun t => t.caseId = caseId).map CaseTask.sortOrder).max?

end Db

namespace EvidenceService

def incidentSeverityByOutcome : QcOutcome → Option IncidentSeverity
  | .escalate => some .high
  | .incident => some .critical
  | _ => none

/-- The people in the field hand in what they have captured. -/
def completeFieldwork (actor : AuthenticatedUser) (caseId : Id) : Svc ServiceCase := do
  let evidenceCount ← Prisma.query .evidence (·.evidenceCount caseId)
  if evidenceCount = 0 then
    throw (.badRequest "Cannot submit a case with no evidence captured")
  CasesService.transitionCase actor caseId .evidenceSubmitted
    (some "Field agent submitted evidence")

structure PerformQcDto where
  outcome : QcOutcome
  summary : Option String := none
  note : Option String := none
deriving DecidableEq, Repr

/-- The outcome, with the report, the task or the incident it has led to. -/
structure QcResult where
  outcome : QcOutcome
  report : Option Id := none
  task : Option Id := none
  incident : Option Id := none
deriving DecidableEq, Repr

def qcEligibleStatuses : List CaseStatus := [.evidenceSubmitted, .qualityControl]

/-- The review starts when the first one looks at the evidence. -/
def startReview (actor : AuthenticatedUser) (caseId : Id) (serviceCase : ServiceCase) : Svc Unit :=
  if serviceCase.status = .evidenceSubmitted then do
    let _ ← CasesService.transitionCase actor caseId .qualityControl (some "QC review started")
  else return ()

/-- The report of a pass. -/
def newReport (actor : AuthenticatedUser) (caseId : Id) (dto : PerformQcDto) (summary : String)
    (t : Time) : Report :=
  { caseId, summary, qcOutcome := some dto.outcome
    limitation := if dto.outcome = .passWithLimitation then dto.note else none
    qcReviewedById := some actor.id, createdAt := t }

/-- A pass issues the report and hands the case to the customer. -/
def issueReport (actor : AuthenticatedUser) (caseId : Id) (dto : PerformQcDto) : Svc QcResult := do
  let some summary := dto.summary.filter (· ≠ "")
    | throw (.badRequest "summary is required to approve and issue a report")
  if dto.outcome = .passWithLimitation ∧ isBlank dto.note = true then
    throw (.badRequest "note is required as the recorded limitation for PASS_WITH_LIMITATION")
  let report ← Prisma.create .report (newReport actor caseId dto summary)
  let _ ← CasesService.transitionCase actor caseId .customerReview
    (some "QC approved — report issued")
  return { outcome := dto.outcome, report := some report }

/-- The work is sent back. -/
def requestRework (actor : AuthenticatedUser) (caseId : Id) (dto : PerformQcDto) :
    Svc QcResult := do
  let _ ← CasesService.transitionCase actor caseId .inProgress
    (some (dto.note.getD "QC requested rework"))
  return { outcome := dto.outcome }

/-- The work is sent back with a new task. -/
def requireRevisit (actor : AuthenticatedUser) (caseId : Id) (dto : PerformQcDto) :
    Svc QcResult := do
  let some note := dto.note.filter fun note => isBlank (some note) = false
    | throw (.badRequest "note is required describing what the revisit needs to cover")
  let maxSortOrder ← Prisma.query .caseTask (·.maxSortOrder caseId)
  let task ← Prisma.create .caseTask fun _ =>
    { caseId, label := s!"Revisit required: {note}", isRequired := true
      sortOrder := maxSortOrder.getD 0 + 1 }
  let _ ← CasesService.transitionCase actor caseId .inProgress
    (some s!"QC requires a revisit — {note}")
  return { outcome := dto.outcome, task := some task }

/-- The case stays in review, and what was found is made visible. -/
def raiseIncident (actor : AuthenticatedUser) (caseId : Id) (dto : PerformQcDto) :
    Svc QcResult := do
  let _ ← Prisma.create .caseRiskFlag fun _ =>
    { caseId, label := s!"QC outcome: {dto.outcome.name}", detail := dto.note
      raisedById := some actor.id }
  let incident ← Prisma.create .incident fun _ =>
    { caseId, severity := (incidentSeverityByOutcome dto.outcome).getD .medium
      summary := dto.summary.getD s!"QC {dto.outcome.lowerName} on case", detail := dto.note }
  return { outcome := dto.outcome, incident := some incident }

/-- What follows from the outcome. -/
def followUp (actor : AuthenticatedUser) (caseId : Id) (dto : PerformQcDto) : Svc QcResult :=
  match dto.outcome with
  | .approved | .passWithLimitation => issueReport actor caseId dto
  | .rework => requestRework actor caseId dto
  | .revisitRequired => requireRevisit actor caseId dto
  | .escalate | .incident => raiseIncident actor caseId dto

/-- Every outcome is recorded, and the tiers of the agents of the case follow. -/
def recordReview (actor : AuthenticatedUser) (caseId : Id) (dto : PerformQcDto) : Svc Unit := do
  let _ ← Prisma.create .qcReview fun _ => ⟨caseId, dto.outcome, actor.id⟩
  AgentTieringService.recomputeAgentsForCase caseId

/-- The review of a case by quality control. -/
def performQc (actor : AuthenticatedUser) (caseId : Id) (dto : PerformQcDto) : Svc QcResult := do
  let some serviceCase ← Prisma.findUnique .serviceCase caseId
    | throw (.notFound "Case not found")
  if serviceCase.status ∉ qcEligibleStatuses then
    throw (.badRequest s!"Cannot perform QC on a case in status {serviceCase.status.name}")
  startReview actor caseId serviceCase
  recordReview actor caseId dto
  followUp actor caseId dto

/-! ## The methods in closed form -/

section Run

variable (d : Db) (actor : AuthenticatedUser) (caseId : Id)

lemma completeFieldwork_exec :
    (completeFieldwork actor caseId).exec d = d ∨
      ∃ c, d.serviceCase.get? caseId = some c ∧ .evidenceSubmitted ∈ transitions c.status ∧
        (completeFieldwork actor caseId).exec d =
          d.moveCase caseId c .evidenceSubmitted c.heldFromStatus (some actor.id)
            (some "Field agent submitted evidence") := by
  rw [Prog.exec, completeFieldwork, Prog.run_bind_ok (Prisma.run_query d _ _)]
  split_ifs
  · exact Or.inl rfl
  · exact CasesService.applyTransition_exec d caseId .evidenceSubmitted _ (some actor.id)

/-- The effect of a pass. -/
def passCase (c : ServiceCase) (dto : PerformQcDto) (summary : String) : Db :=
  (d.insertRow .report (newReport actor caseId dto summary d.clock)).moveCase caseId c
    .customerReview c.heldFromStatus (some actor.id) (some "QC approved — report issued")

variable {d} {caseId} {c : ServiceCase}

lemma issueReport_exec (hc : d.serviceCase.get? caseId = some c)
    (hs : c.status = .qualityControl) (dto : PerformQcDto) :
    (issueReport actor caseId dto).exec d = d ∨
      ∃ summary, (issueReport actor caseId dto).exec d = passCase d actor caseId c dto summary := by
  rw [Prog.exec, issueReport]
  cases hsummary : dto.summary.filter (· ≠ "") with
  | none => exact Or.inl rfl
  | some summary =>
    dsimp only
    split_ifs
    · exact Or.inl rfl
    · have hc₁ : (d.insertRow .report
          (newReport actor caseId dto summary d.clock)).serviceCase.get? caseId = some c := hc
      have hmem : .customerReview ∈ transitions c.status := by rw [hs]; decide
      rw [Prog.run_bind_ok (Prisma.run_create ..),
        Prog.run_bind_ok (CasesService.transitionCase_run_of_mem hc₁ hmem ..)]
      exact Or.inr ⟨summary, rfl⟩

/-- The case goes back to the field, with a new task or without. -/
lemma sendBack_exec (hc : d.serviceCase.get? caseId = some c) (hs : c.status = .qualityControl)
    (dto : PerformQcDto) :
    ∀ m ∈ [requestRework actor caseId dto, requireRevisit actor caseId dto],
      m.exec d = d ∨ ∃ d₁ reason, (d₁ = d ∨ ∃ task, d₁ = d.insertRow .caseTask task) ∧
        m.exec d = d₁.moveCase caseId c .inProgress c.heldFromStatus (some actor.id)
          (some reason) := by
  have hmem : .inProgress ∈ transitions c.status := by rw [hs]; decide
  simp only [List.forall_mem_cons, List.not_mem_nil, false_imp_iff, implies_true, and_true]
  constructor
  · rw [Prog.exec, requestRework,
      Prog.run_bind_ok (CasesService.transitionCase_run_of_mem hc hmem ..)]
    exact Or.inr ⟨d, _, Or.inl rfl, rfl⟩
  · rw [Prog.exec, requireRevisit]
    cases dto.note.filter fun note => isBlank (some note) = false with
    | none => exact Or.inl rfl
    | some note =>
      dsimp only
      rw [Prog.run_bind_ok (Prisma.run_query d _ _), Prog.run_bind_ok (Prisma.run_create ..),
        Prog.run_bind_ok (CasesService.transitionCase_run_of_mem (by exact hc) hmem ..)]
      exact Or.inr ⟨_, _, Or.inr ⟨_, rfl⟩, rfl⟩

lemma raiseIncident_exec (dto : PerformQcDto) :
    ∃ flag incident, (raiseIncident actor caseId dto).exec d =
      (d.insertRow .caseRiskFlag flag).insertRow .incident incident := by
  rw [Prog.exec, raiseIncident, Prog.run_bind_ok (Prisma.run_create ..),
    Prog.run_bind_ok (Prisma.run_create ..)]
  exact ⟨_, _, rfl⟩

/-- What follows from an outcome is nothing, a pass, more work in the field, or an incident. -/
lemma followUp_exec (hc : d.serviceCase.get? caseId = some c) (hs : c.status = .qualityControl)
    (dto : PerformQcDto) :
    (followUp actor caseId dto).exec d = d ∨
      (∃ summary, (dto.outcome = .approved ∨ dto.outcome = .passWithLimitation) ∧
        (followUp actor caseId dto).exec d = passCase d actor caseId c dto summary) ∨
      (∃ d₁ reason, (d₁ = d ∨ ∃ task, d₁ = d.insertRow .caseTask task) ∧
        (followUp actor caseId dto).exec d = d₁.moveCase caseId c .inProgress c.heldFromStatus
          (some actor.id) (some reason)) ∨
      ∃ flag incident, (followUp actor caseId dto).exec d =
        (d.insertRow .caseRiskFlag flag).insertRow .incident incident := by
  rw [followUp]
  cases houtcome : dto.outcome with
  | approved =>
    rcases issueReport_exec actor hc hs dto with h | ⟨summary, h⟩
    · exact Or.inl h
    · exact Or.inr (Or.inl ⟨summary, Or.inl rfl, h⟩)
  | passWithLimitation =>
    rcases issueReport_exec actor hc hs dto with h | ⟨summary, h⟩
    · exact Or.inl h
    · exact Or.inr (Or.inl ⟨summary, Or.inr rfl, h⟩)
  | rework =>
    exact (sendBack_exec actor hc hs dto _ (by simp)).imp_right fun h => Or.inr (Or.inl h)
  | revisitRequired =>
    exact (sendBack_exec actor hc hs dto _ (by simp)).imp_right fun h => Or.inr (Or.inl h)
  | escalate => exact Or.inr (Or.inr (Or.inr (raiseIncident_exec actor dto)))
  | incident => exact Or.inr (Or.inr (Or.inr (raiseIncident_exec actor dto)))

variable (d) (caseId)

/-- The case when its review has started. -/
def reviewed (c : ServiceCase) : ServiceCase := { c with status := .qualityControl }

/-- The database when the review has started and is recorded. -/
def reviewDb (c : ServiceCase) (dto : PerformQcDto) : Db :=
  (if c.status = .evidenceSubmitted then
    d.moveCase caseId c .qualityControl c.heldFromStatus (some actor.id) (some "QC review started")
  else d).insertRow .qcReview ⟨caseId, dto.outcome, actor.id⟩

/-- A case that is not up for review is refused. -/
lemma performQc_run_of_not (dto : PerformQcDto)
    (h : ∀ c, d.serviceCase.get? caseId = some c → c.status ∉ qcEligibleStatuses) :
    ∃ e, (performQc actor caseId dto).run d = (.error e, d) := by
  have hfind : (Prisma.findUnique .serviceCase caseId).run d =
      (.ok (d.serviceCase.get? caseId), d) := rfl
  rw [performQc, Prog.run_bind_ok hfind]
  cases hc : d.serviceCase.get? caseId with
  | none => exact ⟨_, rfl⟩
  | some c =>
    dsimp only
    rw [if_pos (h c hc)]
    exact ⟨_, rfl⟩

/-- The review of a case that is up for it is recorded, whatever comes of it. -/
lemma performQc_run (dto : PerformQcDto) {c : ServiceCase}
    (hc : d.serviceCase.get? caseId = some c) (heligible : c.status ∈ qcEligibleStatuses) :
    (reviewDb d actor caseId c dto).serviceCase.get? caseId = some (reviewed c) ∧
      (performQc actor caseId dto).run d =
        (AgentTieringService.recomputeAgentsForCase caseId >>= fun _ =>
          followUp actor caseId dto).run (reviewDb d actor caseId c dto) := by
  have hfind : (Prisma.findUnique .serviceCase caseId).run d = (.ok (some c), d) := by
    rw [Prisma.run_findUnique, Rel.serviceCase_get, hc]
  -- what is left to do once the review has started
  have hrest : ∀ d₁ : Db, (recordReview actor caseId dto >>= fun _ =>
      followUp actor caseId dto).run d₁ =
        (AgentTieringService.recomputeAgentsForCase caseId >>= fun _ =>
          followUp actor caseId dto).run
            (d₁.insertRow .qcReview ⟨caseId, dto.outcome, actor.id⟩) := by
    intro d₁
    rw [recordReview, Prog.bind_assoc, Prog.run_bind_ok (Prisma.run_create ..)]
  rw [performQc, Prog.run_bind_ok hfind]
  dsimp only
  rw [if_neg (not_not.mpr heligible), reviewDb, startReview]
  by_cases hs : c.status = .evidenceSubmitted
  · have hmem : .qualityControl ∈ transitions c.status := by rw [hs]; decide
    rw [if_pos hs, if_pos hs, Prog.bind_assoc,
      Prog.run_bind_ok (CasesService.transitionCase_run_of_mem hc hmem ..)]
    refine ⟨?_, hrest _⟩
    refine (get?_moveCase d hc .qualityControl c.heldFromStatus (some actor.id)
      (some "QC review started") caseId).trans ?_
    rw [if_pos rfl]
    rfl
  · have hqc : c.status = .qualityControl := by
      rcases List.mem_cons.mp heligible with h | h
      · exact absurd h hs
      · exact List.mem_singleton.mp h
    have hreviewed : reviewed c = c := by rw [reviewed, ← hqc]
    rw [if_neg hs, if_neg hs, hreviewed]
    exact ⟨hc, hrest d⟩

/-- A review is refused, or it is recorded, and followed up unless the tiers cannot be computed. -/
lemma performQc_exec (dto : PerformQcDto) :
    (performQc actor caseId dto).exec d = d ∨
      ∃ c agents t, d.serviceCase.get? caseId = some c ∧ c.status ∈ qcEligibleStatuses ∧
        (reviewDb d actor caseId c dto).serviceCase.get? caseId = some (reviewed c) ∧
        (reviewDb d actor caseId c dto).clock ≤ t ∧
        ((performQc actor caseId dto).exec d =
            (reviewDb d actor caseId c dto).withAgents agents t ∨
          (performQc actor caseId dto).exec d = (followUp actor caseId dto).exec
            ((reviewDb d actor caseId c dto).withAgents agents t)) := by
  by_cases hup : ∃ c, d.serviceCase.get? caseId = some c ∧ c.status ∈ qcEligibleStatuses
  · obtain ⟨c, hc, heligible⟩ := hup
    obtain ⟨hreviewed, hrun⟩ := performQc_run d actor caseId dto hc heligible
    obtain ⟨r, agents, t, hclock, htiers, -⟩ :=
      AgentTieringService.recomputeAgentsForCase_run (reviewDb d actor caseId c dto) caseId
    refine Or.inr ⟨c, agents, t, hc, heligible, hreviewed, hclock, ?_⟩
    rw [Prog.run_bind, htiers] at hrun
    rw [Prog.exec, hrun]
    cases r with
    | error e => exact Or.inl rfl
    | ok u => exact Or.inr rfl
  · obtain ⟨e, hrun⟩ := performQc_run_of_not d actor caseId dto fun c hc heligible =>
      hup ⟨c, hc, heligible⟩
    exact Or.inl (by rw [Prog.exec, hrun])

end Run

end EvidenceService

end Asoju
