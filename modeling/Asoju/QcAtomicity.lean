/-
When a review by quality control is all or nothing.

The review is started and recorded, and the tiers of the agents are computed again, before the
checks of what the outcome requires.  `performQc_failsCleanly_iff` says for which states and requests
that order does harm.
-/
import Asoju.QualityControl

namespace Asoju

open Lib EvidenceService

namespace EvidenceService

/-- Something is missing that the outcome requires. -/
def PerformQcDto.Lacks (dto : PerformQcDto) : Prop :=
  match dto.outcome with
  | .approved => dto.summary.filter (· ≠ "") = none
  | .passWithLimitation => dto.summary.filter (· ≠ "") = none ∨ isBlank dto.note = true
  | .revisitRequired => isBlank dto.note = true
  | .rework | .escalate | .incident => False

/-! ## What follows from an outcome -/

section FollowUp

variable {d : Db} {caseId : Id} {c : ServiceCase} (actor : AuthenticatedUser) (dto : PerformQcDto)

/-- A pass is refused without what it requires. -/
lemma issueReport_run (hc : d.serviceCase.get? caseId = some c) (hs : c.status = .qualityControl) :
    (∃ e, (issueReport actor caseId dto).run d = (.error e, d)) ∧
        (dto.summary.filter (· ≠ "") = none ∨
          dto.outcome = .passWithLimitation ∧ isBlank dto.note = true) ∨
      (∃ r d', (issueReport actor caseId dto).run d = (.ok r, d')) ∧
        ¬ (dto.summary.filter (· ≠ "") = none ∨
          dto.outcome = .passWithLimitation ∧ isBlank dto.note = true) := by
  rw [issueReport]
  cases hsummary : dto.summary.filter (· ≠ "") with
  | none => exact Or.inl ⟨⟨_, rfl⟩, Or.inl rfl⟩
  | some summary =>
    dsimp only
    by_cases hnote : dto.outcome = .passWithLimitation ∧ isBlank dto.note = true
    · rw [if_pos hnote]
      exact Or.inl ⟨⟨_, rfl⟩, Or.inr hnote⟩
    · rw [if_neg hnote]
      have hc₁ : (d.insertRow .report
          (newReport actor caseId dto summary d.clock)).serviceCase.get? caseId = some c := hc
      have hmem : .customerReview ∈ transitions c.status := by rw [hs]; decide
      rw [Prog.run_bind_ok (Prisma.run_create ..),
        Prog.run_bind_ok (CasesService.transitionCase_run_of_mem hc₁ hmem ..)]
      exact Or.inr ⟨⟨_, _, rfl⟩, fun h => h.elim (fun h => by cases h) hnote⟩

lemma requestRework_run (hc : d.serviceCase.get? caseId = some c)
    (hs : c.status = .qualityControl) :
    ∃ r d', (requestRework actor caseId dto).run d = (.ok r, d') := by
  have hmem : .inProgress ∈ transitions c.status := by rw [hs]; decide
  rw [requestRework, Prog.run_bind_ok (CasesService.transitionCase_run_of_mem hc hmem ..)]
  exact ⟨_, _, rfl⟩

/-- A note that is there is one that is not blank. -/
lemma filter_note (note : Option String) :
    note.filter (fun note => isBlank (some note) = false) = none ↔ isBlank note = true := by
  cases note with
  | none => exact iff_of_true rfl rfl
  | some note => cases h : isBlank (some note) <;> simp [h]

/-- Another visit is refused without a note. -/
lemma requireRevisit_run (hc : d.serviceCase.get? caseId = some c)
    (hs : c.status = .qualityControl) :
    (∃ e, (requireRevisit actor caseId dto).run d = (.error e, d)) ∧ isBlank dto.note = true ∨
      (∃ r d', (requireRevisit actor caseId dto).run d = (.ok r, d')) ∧
        ¬ isBlank dto.note = true := by
  have hmem : .inProgress ∈ transitions c.status := by rw [hs]; decide
  rw [requireRevisit, ← filter_note]
  cases dto.note.filter fun note => isBlank (some note) = false with
  | none => exact Or.inl ⟨⟨_, rfl⟩, rfl⟩
  | some note =>
    dsimp only
    rw [Prog.run_bind_ok (Prisma.run_query d _ _), Prog.run_bind_ok (Prisma.run_create ..),
      Prog.run_bind_ok (CasesService.transitionCase_run_of_mem (by exact hc) hmem ..)]
    exact Or.inr ⟨⟨_, _, rfl⟩, fun h => by cases h⟩

/-- What follows from an outcome fails if and only if something is missing, and then it writes
nothing. -/
lemma followUp_run (hc : d.serviceCase.get? caseId = some c) (hs : c.status = .qualityControl) :
    (∃ e, (followUp actor caseId dto).run d = (.error e, d)) ∧ dto.Lacks ∨
      (∃ r d', (followUp actor caseId dto).run d = (.ok r, d')) ∧ ¬ dto.Lacks := by
  have hissue := issueReport_run actor dto hc hs
  rw [followUp, PerformQcDto.Lacks]
  cases houtcome : dto.outcome with
  | approved => simpa [houtcome] using hissue
  | passWithLimitation => simpa [houtcome] using hissue
  | rework => exact Or.inr ⟨requestRework_run actor dto hc hs, id⟩
  | revisitRequired => exact requireRevisit_run actor dto hc hs
  | escalate => exact Or.inr ⟨⟨_, _, rfl⟩, id⟩
  | incident => exact Or.inr ⟨⟨_, _, rfl⟩, id⟩

end FollowUp

end EvidenceService

/-! ## All or nothing -/

/-- What a failed review must leave alone: the cases, their history, the reviews and the agents. -/
structure ReviewView where
  cases : Table ServiceCase
  history : Table CaseStatusHistory
  reviews : Table QcReview
  agents : Table Agent

def reviewView (d : Db) : ReviewView := ⟨d.serviceCase, d.caseStatusHistory, d.qcReview, d.agent⟩

/-- The record of the review can be seen. -/
lemma reviewView_ne (d : Db) (actor : AuthenticatedUser) (caseId : Id) (c : ServiceCase)
    (dto : PerformQcDto) (agents : Table Agent) (t : Time) :
    reviewView ((reviewDb d actor caseId c dto).withAgents agents t) ≠ reviewView d := by
  intro h
  have hreviews : ((reviewDb d actor caseId c dto).withAgents agents t).qcReview = d.qcReview :=
    congrArg ReviewView.reviews h
  have hnext : ((reviewDb d actor caseId c dto).withAgents agents t).qcReview.next =
      d.qcReview.next + 1 := by
    rw [reviewDb]
    split_ifs <;> rfl
  rw [hreviews] at hnext
  omega

/-- The agents that have worked on the case are there. -/
def AgentsPresent (d : Db) (caseId : Id) : Prop :=
  ∀ agentId ∈ AgentTieringService.agentsOfCase d caseId, (d.agent.get? agentId).isSome = true

/-- **When a failed review changes nothing.**  In every state, for every actor, case and request:
exactly if the case is not up for review, or nothing is missing that the outcome requires and the
agents of the case are there. -/
theorem performQc_failsCleanly_iff (d : Db) (actor : AuthenticatedUser) (caseId : Id)
    (dto : PerformQcDto) :
    Prog.FailsCleanly reviewView (performQc actor caseId dto) d ↔
      ∀ c, d.serviceCase.get? caseId = some c → c.status ∈ qcEligibleStatuses →
        ¬ dto.Lacks ∧ AgentsPresent d caseId := by
  by_cases hup : ∃ c, d.serviceCase.get? caseId = some c ∧ c.status ∈ qcEligibleStatuses
  · obtain ⟨c, hc, heligible⟩ := hup
    have hiff : (∀ c, d.serviceCase.get? caseId = some c → c.status ∈ qcEligibleStatuses →
        ¬ dto.Lacks ∧ AgentsPresent d caseId) ↔ ¬ dto.Lacks ∧ AgentsPresent d caseId := by
      exact ⟨fun h => h c hc heligible, fun h _ _ _ => h⟩
    obtain ⟨hreviewed, hrun⟩ := performQc_run d actor caseId dto hc heligible
    obtain ⟨r, agents, t, -, htiers, hok⟩ :=
      AgentTieringService.recomputeAgentsForCase_run (reviewDb d actor caseId c dto) caseId
    have hagents : AgentTieringService.agentsOfCase (reviewDb d actor caseId c dto) caseId =
          AgentTieringService.agentsOfCase d caseId ∧
        (reviewDb d actor caseId c dto).agent = d.agent := by
      rw [reviewDb]
      split_ifs <;> exact ⟨rfl, rfl⟩
    rw [hagents.1, hagents.2] at hok
    rw [hiff]
    rw [Prog.run_bind, htiers] at hrun
    cases r with
    | error e =>
      -- the tiers cannot be computed, and the review has been recorded
      have hmissing : ¬ AgentsPresent d caseId := fun h => by cases hok.mpr h
      refine iff_of_false (fun h => ?_) fun h => hmissing h.2
      exact reviewView_ne d actor caseId c dto agents t (h e _ hrun)
    | ok u =>
      have hpresent : AgentsPresent d caseId := hok.mp rfl
      have hc₁ : ((reviewDb d actor caseId c dto).withAgents agents t).serviceCase.get? caseId =
          some (reviewed c) := hreviewed
      rcases followUp_run actor dto hc₁ rfl with ⟨⟨e, hfollow⟩, hlacks⟩ | ⟨⟨r, d', hfollow⟩, hlacks⟩
      · refine iff_of_false (fun h => ?_) fun h => h.1 hlacks
        exact reviewView_ne d actor caseId c dto agents t (h e _ (hrun.trans hfollow))
      · refine iff_of_true (fun e d'' h => ?_) ⟨hlacks, hpresent⟩
        rw [hrun.trans hfollow] at h
        cases h
  · obtain ⟨e, hrun⟩ := performQc_run_of_not d actor caseId dto fun c hc heligible =>
      hup ⟨c, hc, heligible⟩
    refine iff_of_true (fun e' d' h => ?_) fun c hc heligible => absurd ⟨c, hc, heligible⟩ hup
    rw [hrun] at h
    cases h
    rfl

/-- A case whose evidence has been handed in. -/
def submittedDb : Db where
  clock := 100
  serviceCase := Table.empty.insert
    { customerId := 0, serviceType := .propertyInspection, description := "Site visit"
      location := "Lekki", status := .evidenceSubmitted }

/-- The approval of that case without a summary is refused, after its review has been started and
recorded. -/
theorem performQc_not_failsCleanly :
    ¬ Prog.FailsCleanly reviewView (performQc ⟨3, .qualityControl⟩ 0 { outcome := .approved })
        submittedDb ∧
      (let s := (performQc ⟨3, .qualityControl⟩ 0 { outcome := .approved }).run submittedDb
       s.1 = .error (.badRequest "summary is required to approve and issue a report") ∧
        s.2.serviceCase.values.map (·.status) = [.qualityControl] ∧
        s.2.caseStatusHistory.values.map (·.toStatus) = [.qualityControl] ∧
        s.2.qcReview.values.map (·.outcome) = [.approved]) := by
  refine ⟨fun h => ?_, by decide +kernel⟩
  have hview := h (.badRequest "summary is required to approve and issue a report")
    ((performQc ⟨3, .qualityControl⟩ 0 { outcome := .approved }).exec submittedDb)
    (Prod.ext (by decide +kernel) rfl)
  have hnext : ((performQc ⟨3, .qualityControl⟩ 0
      { outcome := .approved }).exec submittedDb).qcReview.next = submittedDb.qcReview.next :=
    congrArg (fun v => v.reviews.next) hview
  exact absurd hnext (by decide +kernel)

end Asoju
