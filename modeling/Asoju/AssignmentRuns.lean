/-
Assignments and the status of their case, as long as a decline leaves nobody behind.

A case may carry any number of assignments, but an answer decides from the status of the case alone
where the case goes.  A decline moves an ASSIGNED case back although others may still be asked, and
it leaves a case IN_PROGRESS although nobody may be left to work on it.
`assignments_agree_iff` says that every run keeps assignments and status in agreement exactly if no
decline does either.
-/
import Asoju.Assignments
import Asoju.Lib.Run

namespace Asoju

open Lib

/-! ## Agreement -/

/-- Somebody has been asked to work on the case, and has not declined. -/
def Assignment.active (a : Assignment) : Bool := a.status = .offered ∨ a.status = .accepted

def Db.statusOf (d : Db) (caseId : Id) : Option CaseStatus :=
  (d.serviceCase.get? caseId).map ServiceCase.status

lemma statusOf_moveCase {d : Db} {i : Id} {c : ServiceCase}
    (hc : d.serviceCase.get? i = some c) (dst : CaseStatus) (held : Option CaseStatus)
    (actorId : Option Id) (reason : Option String) (caseId : Id) :
    (d.moveCase i c dst held actorId reason).statusOf caseId =
      if i = caseId then some dst else d.statusOf caseId := by
  rw [Db.statusOf, get?_moveCase d hc]
  split_ifs <;> rfl

/-- A SCHEDULED case has no active assignment, and a case IN_PROGRESS has an accepted one. -/
structure AssignmentsAgree (caseId : Id) (d : Db) : Prop where
  scheduled : d.statusOf caseId = some .scheduled →
    ∀ i a, d.assignment.get? i = some a → a.caseId = caseId → a.active = false
  inProgress : d.statusOf caseId = some .inProgress →
    ∃ i a, d.assignment.get? i = some a ∧ a.caseId = caseId ∧ a.status = .accepted

/-- A decline of this assignment leaves nobody behind: no other active assignment while the case is
ASSIGNED, and another accepted one while it is IN_PROGRESS. -/
structure DeclinesCleanly (d : Db) (assignmentId : Id) (x : AssignmentDetail) : Prop where
  assigned : x.serviceCase.status = .assigned → ∀ j a, j ≠ assignmentId →
    d.assignment.get? j = some a → a.caseId = x.assignment.caseId → a.active = false
  inProgress : x.serviceCase.status = .inProgress → ∃ j a, j ≠ assignmentId ∧
    d.assignment.get? j = some a ∧ a.caseId = x.assignment.caseId ∧ a.status = .accepted

section Effects

open AssignmentsService

variable {d : Db} (actor : AuthenticatedUser) {i : Id} {c : ServiceCase}

lemma offered_assignment (dto : CreateAssignmentDto) :
    (offered d actor i c dto).assignment = d.assignment.insert (newAssignment i dto) := by
  rw [offered]
  split_ifs <;> rfl

/-- An offer makes a SCHEDULED case ASSIGNED. -/
lemma statusOf_offered (hc : d.serviceCase.get? i = some c) (dto : CreateAssignmentDto)
    (caseId : Id) :
    (offered d actor i c dto).statusOf caseId =
      if c.status = .scheduled ∧ i = caseId then some .assigned else d.statusOf caseId := by
  have hc₁ : (d.insertRow .assignment (newAssignment i dto)).serviceCase.get? i = some c := hc
  rw [offered]
  split_ifs with hs hboth hboth
  · rw [statusOf_moveCase hc₁, if_pos hboth.2]
  · rw [statusOf_moveCase hc₁, if_neg fun hi => hboth ⟨hs, hi⟩]
    rfl
  · exact absurd hboth.1 hs
  · rfl

lemma answered_assignment (x : AssignmentDetail) (mark : Assignment → Assignment) (dst : CaseStatus) (reason : String) :
    (answered d actor i x mark dst reason).assignment = d.assignment.modify i mark := by
  rw [answered]
  split_ifs <;> rfl

/-- An answer moves an ASSIGNED case. -/
lemma statusOf_answered {x : AssignmentDetail} (hx : d.assignmentDetail i = some x) (mark : Assignment → Assignment)
    (dst : CaseStatus) (reason : String) (caseId : Id) :
    (answered d actor i x mark dst reason).statusOf caseId =
      if x.serviceCase.status = .assigned ∧ x.assignment.caseId = caseId then some dst
      else d.statusOf caseId := by
  have hc₁ : (d.modifyRow .assignment i mark).serviceCase.get? x.assignment.caseId =
    some x.serviceCase := (Db.rows_of_assignmentDetail hx).2
  rw [answered]
  split_ifs with hs hboth hboth
  · rw [statusOf_moveCase hc₁, if_pos hboth.2]
  · rw [statusOf_moveCase hc₁, if_neg fun hi => hboth ⟨hs, hi⟩]
    rfl
  · exact absurd hboth.1 hs
  · rfl

end Effects

namespace AssignmentsAgree

open AssignmentsService

variable {caseId i : Id} {d : Db} {actor : AuthenticatedUser} {x : AssignmentDetail}

/-- What becomes of another case. -/
lemma congr {d' : Db} (h : AssignmentsAgree caseId d)
    (hstatus : d'.statusOf caseId = d.statusOf caseId)
    (hrows : ∀ j a, a.caseId = caseId →
      (d'.assignment.get? j = some a ↔ d.assignment.get? j = some a)) :
    AssignmentsAgree caseId d' where
  scheduled hs j a ha hcase := h.scheduled (hstatus ▸ hs) j a ((hrows j a hcase).mp ha) hcase
  inProgress hs := by
    obtain ⟨j, a, ha, hcase, haccepted⟩ := h.inProgress (hstatus ▸ hs)
    exact ⟨j, a, (hrows j a hcase).mpr ha, hcase, haccepted⟩

lemma offered {c : ServiceCase} (h : AssignmentsAgree caseId d)
    (hc : d.serviceCase.get? i = some c) (dto : CreateAssignmentDto) :
    AssignmentsAgree caseId (AssignmentsService.offered d actor i c dto) := by
  have hstatus := statusOf_offered actor hc dto caseId
  by_cases hi : i = caseId
  · subst hi
    have hnow : d.statusOf i = some c.status := by rw [Db.statusOf, hc]; rfl
    refine ⟨fun hscheduled => ?_, fun hprogress => ?_⟩
    · -- a SCHEDULED case does not stay so
      rw [hstatus] at hscheduled
      split_ifs at hscheduled with hs
      · cases hscheduled
      · exact absurd ⟨Option.some.inj (hnow.symm.trans hscheduled), rfl⟩ hs
    · rw [hstatus] at hprogress
      split_ifs at hprogress
      · cases hprogress
      · obtain ⟨j, a, ha, hcase, haccepted⟩ := h.inProgress hprogress
        refine ⟨j, a, ?_, hcase, haccepted⟩
        rw [offered_assignment]
        exact Table.get?_insert_of_some ha _
  · refine h.congr (by rw [hstatus, if_neg fun hboth => hi hboth.2]) fun j a hcase => ?_
    rw [offered_assignment]
    refine ⟨fun ha => ?_, fun ha => Table.get?_insert_of_some ha _⟩
    rcases Table.get?_insert_cases ha with ha | ⟨-, rfl⟩
    · exact ha
    · exact absurd hcase hi

/-- An answer to an assignment of another case. -/
lemma answered_of_ne (h : AssignmentsAgree caseId d) (hx : d.assignmentDetail i = some x)
    (hcase : x.assignment.caseId ≠ caseId) {mark : Assignment → Assignment}
    (hmark : ∀ a, (mark a).caseId = a.caseId) (dst : CaseStatus) (reason : String) :
    AssignmentsAgree caseId (answered d actor i x mark dst reason) := by
  have ha := (Db.rows_of_assignmentDetail hx).1
  refine h.congr ?_ fun j a hj => ?_
  · rw [statusOf_answered actor hx, if_neg fun hboth => hcase hboth.2]
  · rw [answered_assignment]
    by_cases hji : j = i
    · subst hji
      rw [Table.get?_modify_self, ha]
      refine ⟨fun heq => ?_, fun heq => ?_⟩
      · obtain rfl := Option.some.inj heq
        exact absurd ((hmark _).symm.trans hj) hcase
      · obtain rfl := Option.some.inj heq
        exact absurd hj hcase
    · rw [Table.get?_modify_of_ne _ hji]

lemma accepted (h : AssignmentsAgree caseId d) (hx : d.assignmentDetail i = some x)
    (hoffered : x.assignment.status = .offered) (t : Time) :
    AssignmentsAgree caseId (answered d actor i x
      (fun a => { a with status := .accepted, acceptedAt := some t }) .inProgress
        "Assignment accepted") := by
  by_cases hcase : x.assignment.caseId = caseId
  · subst hcase
    have ha := (Db.rows_of_assignmentDetail hx).1
    let mark (a : Assignment) : Assignment := { a with status := .accepted, acceptedAt := some t }
    have hmarked : (answered d actor i x mark .inProgress "Assignment accepted").assignment.get? i =
        some (mark x.assignment) := by
      rw [answered_assignment actor x mark, Table.get?_modify_self, ha, Option.map_some]
    refine ⟨fun hscheduled => ?_, fun _ => ⟨i, mark x.assignment, hmarked, rfl, rfl⟩⟩
    -- a SCHEDULED case has nothing to accept
    rw [statusOf_answered actor hx] at hscheduled
    split_ifs at hscheduled
    · cases hscheduled
    · have hinactive := h.scheduled hscheduled i _ ha rfl
      rw [Assignment.active, hoffered] at hinactive
      cases hinactive
  · refine h.answered_of_ne hx hcase ?_ _ _
    exact fun _ => rfl

/-- **A decline keeps the agreement exactly if it leaves nobody behind.** -/
lemma declined_iff (h : AssignmentsAgree caseId d) (hx : d.assignmentDetail i = some x) :
    AssignmentsAgree caseId (answered d actor i x (fun a => { a with status := .declined })
        .scheduled "Assignment declined") ↔
      (x.assignment.caseId = caseId → DeclinesCleanly d i x) := by
  by_cases hcase : x.assignment.caseId = caseId
  · subst hcase
    obtain ⟨ha, hc⟩ := Db.rows_of_assignmentDetail hx
    have hnow : d.statusOf x.assignment.caseId = some x.serviceCase.status := by
      rw [Db.statusOf, hc]
      rfl
    let mark (a : Assignment) : Assignment := { a with status := .declined }
    have hself : ∀ a, (d.assignment.modify i mark).get? i = some a → a = mark x.assignment :=
      fun a heq => by
        rw [Table.get?_modify_self, ha, Option.map_some] at heq
        exact (Option.some.inj heq).symm
    have hother : ∀ j, j ≠ i → (d.assignment.modify i mark).get? j = d.assignment.get? j :=
      fun j hj => Table.get?_modify_of_ne _ hj _
    -- what the agreement says after the decline
    have hagree_iff : AssignmentsAgree x.assignment.caseId
        (answered d actor i x mark .scheduled "Assignment declined") ↔
        ((x.serviceCase.status = .assigned ∨ x.serviceCase.status = .scheduled) → ∀ j a,
            (d.assignment.modify i mark).get? j = some a →
              a.caseId = x.assignment.caseId → a.active = false) ∧
          (x.serviceCase.status = .inProgress → ∃ j a,
            (d.assignment.modify i mark).get? j = some a ∧
              a.caseId = x.assignment.caseId ∧ a.status = .accepted) := by
      have hstatus := statusOf_answered actor hx mark .scheduled
        "Assignment declined" x.assignment.caseId
      rw [hnow] at hstatus
      rw [← answered_assignment actor x mark .scheduled "Assignment declined"]
      refine ⟨fun hagree => ⟨fun hs => hagree.scheduled ?_, fun hs => hagree.inProgress ?_⟩,
        fun hboth => ⟨fun hs => hboth.1 ?_, fun hs => hboth.2 ?_⟩⟩
      · rw [hstatus]
        rcases hs with hs | hs <;> simp [hs]
      · rw [hstatus]
        simp [hs]
      · rw [hstatus] at hs
        split_ifs at hs with hassigned
        · exact Or.inl hassigned.1
        · exact Or.inr (Option.some.inj hs)
      · rw [hstatus] at hs
        split_ifs at hs
        · cases hs
        · exact Option.some.inj hs
    rw [imp_iff_right rfl, hagree_iff]
    constructor
    · rintro ⟨hscheduled, hprogress⟩
      refine ⟨fun hs j a hj hja hjc => ?_, fun hs => ?_⟩
      · exact hscheduled (Or.inl hs) j a ((hother j hj).trans hja) hjc
      · obtain ⟨j, a, hja, hjc, haccepted⟩ := hprogress hs
        have hj : j ≠ i := by
          rintro rfl
          rw [hself a hja] at haccepted
          cases haccepted
        exact ⟨j, a, hj, (hother j hj).symm.trans hja, hjc, haccepted⟩
    · intro hclean
      refine ⟨fun hs j a hja hjc => ?_, fun hs => ?_⟩
      · by_cases hj : j = i
        · subst hj
          rw [hself a hja]
          rfl
        · have hold := (hother j hj).symm.trans hja
          rcases hs with hs | hs
          · exact hclean.assigned hs j a hj hold hjc
          · exact h.scheduled (hnow.trans (congrArg some hs)) j a hold hjc
      · obtain ⟨j, a, hj, hja, hjc, haccepted⟩ := hclean.inProgress hs
        exact ⟨j, a, (hother j hj).trans hja, hjc, haccepted⟩
  · refine iff_of_true ?_ fun heq => absurd heq hcase
    refine h.answered_of_ne hx hcase ?_ _ _
    exact fun _ => rfl

end AssignmentsAgree

/-! ## The machine -/

/-- A call of staff or of an assigned person. -/
inductive AssignmentOp
  | createAssignment (actor : AuthenticatedUser) (caseId : Id)
      (dto : AssignmentsService.CreateAssignmentDto)
  | acceptAssignment (actor : AuthenticatedUser) (assignmentId : Id)
  | declineAssignment (actor : AuthenticatedUser) (assignmentId : Id)

namespace AssignmentOp

def step (d : Db) : AssignmentOp → Db
  | createAssignment actor i dto => (AssignmentsService.createAssignment actor i dto).exec d
  | acceptAssignment actor i => (AssignmentsService.acceptAssignment actor i).exec d
  | declineAssignment actor i => (AssignmentsService.declineAssignment actor i).exec d

/-- Nobody declines an assignment of the case who leaves somebody behind. -/
def LeavesNobody (caseId : Id) (d : Db) : AssignmentOp → Prop
  | declineAssignment actor i => ∀ x, AssignmentsService.Owns d actor i x →
      x.assignment.caseId = caseId → DeclinesCleanly d i x
  | _ => True

/-- **One step keeps the agreement exactly if it is not such a decline.** -/
theorem step_iff {caseId : Id} (d : Db) (o : AssignmentOp) (h : AssignmentsAgree caseId d) :
    AssignmentsAgree caseId (step d o) ↔ LeavesNobody caseId d o := by
  cases o with
  | createAssignment actor i dto =>
    refine iff_of_true ?_ trivial
    rcases AssignmentsService.createAssignment_exec d actor i dto with heq | ⟨c, hc, heq⟩
    · rw [step, heq]
      exact h
    · rw [step, heq]
      exact h.offered hc dto
  | acceptAssignment actor i =>
    refine iff_of_true ?_ trivial
    rcases AssignmentsService.acceptAssignment_exec d actor i with heq | ⟨x, hx, hoffered, heq⟩
    · rw [step, heq]
      exact h
    · rw [step, heq]
      exact h.accepted hx.1 hoffered d.clock
  | declineAssignment actor i =>
    rcases AssignmentsService.declineAssignment_exec d actor i with ⟨heq, hnot⟩ | ⟨x, hx, heq⟩
    · rw [step, heq]
      exact iff_of_true h fun x hx => absurd hx (hnot x)
    · rw [step, heq, h.declined_iff hx.1]
      refine ⟨fun hclean y hy => ?_, fun hclean => hclean x hx⟩
      obtain rfl := Option.some.inj (hx.1.symm.trans hy.1)
      exact hclean

end AssignmentOp

/-! ## Every run -/

/-- **Assignments and status agree**, in every run from a SCHEDULED case without assignments, exactly
if no decline leaves somebody behind. -/
theorem assignments_agree_iff (d : Db) (caseId : Id)
    (hscheduled : d.statusOf caseId = some .scheduled)
    (hnone : ∀ a ∈ d.assignment.values, a.caseId ≠ caseId) (os : List AssignmentOp) :
    AllStates AssignmentOp.step (AssignmentsAgree caseId) d os ↔
      AllSteps AssignmentOp.step (AssignmentOp.LeavesNobody caseId) d os := by
  have hstart : AssignmentsAgree caseId d := by
    refine ⟨fun _ i a ha hcase => ?_, fun hprogress => ?_⟩
    · exact absurd hcase (hnone a (d.assignment.mem_values_iff.mpr ⟨i, ha⟩))
    · rw [hscheduled] at hprogress
      cases hprogress
  exact allStates_iff_allSteps AssignmentOp.step_iff hstart os

/-- A SCHEDULED case, and two agents. -/
def twoAgentsDb : Db where
  agent := (Table.empty.insert { userId := 21, isActive := true }).insert
    { userId := 22, isActive := true }
  serviceCase := Table.empty.insert
    { customerId := 0, serviceType := .propertyInspection, description := "Inspect the house",
      location := "Lagos", status := .scheduled }

/-- The case is offered to the agent. -/
def offerTo (agentId : Id) : AssignmentOp :=
  .createAssignment ⟨1, .caseManager⟩ 0 { role := .fieldAgent, agentId := some agentId }

/-- One of two agents declines, and the case is SCHEDULED again while the other is still asked; or
the only agent declines after having accepted, and the case stays IN_PROGRESS. -/
theorem decline_disagrees :
    ¬ AllStates AssignmentOp.step (AssignmentsAgree 0) twoAgentsDb
        [offerTo 0, offerTo 1, .declineAssignment ⟨22, .fieldAgent⟩ 1] ∧
      ¬ AllStates AssignmentOp.step (AssignmentsAgree 0) twoAgentsDb
        [offerTo 0, .acceptAssignment ⟨21, .fieldAgent⟩ 0,
          .declineAssignment ⟨21, .fieldAgent⟩ 0] := by
  constructor
  · intro h
    have hinactive := h.last.scheduled (by decide +kernel) 0 _ rfl rfl
    exact absurd hinactive (by decide +kernel)
  · intro h
    obtain ⟨i, a, ha, -, haccepted⟩ := h.last.inProgress (by decide +kernel)
    have hall : ∀ a ∈ (runFrom AssignmentOp.step twoAgentsDb
        [offerTo 0, .acceptAssignment ⟨21, .fieldAgent⟩ 0,
          .declineAssignment ⟨21, .fieldAgent⟩ 0]).assignment.values, a.status ≠ .accepted := by
      decide +kernel
    exact hall a ((Table.mem_values_iff _).mpr ⟨i, ha⟩) haccepted

/-- Both agents are asked, and one of them accepts. -/
theorem assignments_agree_two :
    AllStates AssignmentOp.step (AssignmentsAgree 0) twoAgentsDb
        [offerTo 0, offerTo 1, .acceptAssignment ⟨21, .fieldAgent⟩ 0] ↔
      AllSteps AssignmentOp.step (AssignmentOp.LeavesNobody 0) twoAgentsDb
        [offerTo 0, offerTo 1, .acceptAssignment ⟨21, .fieldAgent⟩ 0] :=
  assignments_agree_iff twoAgentsDb 0 (by decide) (by decide) _

end Asoju
