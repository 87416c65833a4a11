/-
The checklist of a case, and its record of what has been done.

Staff add, change and remove items, and the people in the field tick them off.  None of them
touches an item that is ticked off: only a dispute of the customer opens items again, and only those
that it names.  `completed_task_fixed` says so for every run.

Adding to a checklist by quality control is in the review itself, `performQc`.
-/
import Asoju.QualityControl
import Asoju.Lib.Run

namespace Asoju

open Lib

/-- The item, if it is on the checklist of the case. -/
def requireTask (caseId taskId : Id) : Svc CaseTask := do
  let some task ← Prisma.findUnique .caseTask taskId
    | throw (.notFound "Checklist item not found on this case")
  if task.caseId ≠ caseId then throw (.notFound "Checklist item not found on this case")
  return task

namespace CasesService

def addTask (caseId : Id) (label : String) (isRequired : Option Bool) : Svc Id := do
  let some serviceCase ← Prisma.findUnique .serviceCase caseId
    | throw (.notFound "Case not found")
  if serviceCase.status = .completed ∨ serviceCase.status = .closed then
    throw (.badRequest
      s!"Cannot add a checklist item to a case in status {serviceCase.status.name}")
  let maxSortOrder ← Prisma.query .caseTask (·.maxSortOrder caseId)
  let task ← Prisma.create .caseTask fun _ =>
    { caseId, label, isRequired := isRequired.getD true
      sortOrder := maxSortOrder.getD 0 + 1 }
  Prisma.audit
  return task

/-- The item with what is given of its new values. -/
def edited (label : Option String) (isRequired : Option Bool) (t : CaseTask) : CaseTask :=
  { t with label := label.getD t.label, isRequired := isRequired.getD t.isRequired }

def updateTask (caseId taskId : Id) (label : Option String) (isRequired : Option Bool) :
    Svc CaseTask := do
  let task ← requireTask caseId taskId
  if task.isComplete = true then
    throw (.badRequest "Cannot edit a checklist item that is already complete")
  if label = none ∧ isRequired = none then
    throw (.badRequest "Nothing to update — provide label and/or isRequired")
  let updated ← Prisma.update .caseTask taskId fun _ => edited label isRequired
  Prisma.audit
  return updated

def removeTask (caseId taskId : Id) : Svc Unit := do
  let task ← requireTask caseId taskId
  if task.isComplete = true then
    throw (.badRequest "Cannot remove a checklist item that is already complete")
  Prisma.delete .caseTask taskId
  Prisma.audit

end CasesService

namespace EvidenceService

/-- The item when it has been ticked off. -/
def ticked (t : Time) (task : CaseTask) : CaseTask :=
  { task with isComplete := true, completedAt := some t }

/-- An item is ticked off once; after that it is returned as it is. -/
def completeTask (caseId taskId : Id) : Svc CaseTask := do
  let task ← requireTask caseId taskId
  if task.isComplete = true then return task
  let updated ← Prisma.update .caseTask taskId ticked
  Prisma.audit
  return updated

end EvidenceService

/-! ## What each of them does -/

section Exec

variable (d : Db) (caseId taskId : Id)

lemma requireTask_run :
    (∃ e, (requireTask caseId taskId).run d = (.error e, d)) ∨
      ∃ t, d.caseTask.get? taskId = some t ∧ t.caseId = caseId ∧
        (requireTask caseId taskId).run d = (.ok t, d) := by
  have hfind : (Prisma.findUnique .caseTask taskId).run d = (.ok (d.caseTask.get? taskId), d) := rfl
  rw [requireTask, Prog.run_bind_ok hfind]
  cases ht : d.caseTask.get? taskId with
  | none => exact Or.inl ⟨_, rfl⟩
  | some t =>
    dsimp only
    by_cases hcase : t.caseId = caseId
    · rw [if_neg (not_not.mpr hcase)]
      exact Or.inr ⟨t, rfl, hcase, rfl⟩
    · rw [if_pos hcase]
      exact Or.inl ⟨_, rfl⟩

lemma CasesService.addTask_caseTask (label : String) (isRequired : Option Bool) :
    ((addTask caseId label isRequired).exec d).caseTask = d.caseTask ∨
      ∃ t, ((addTask caseId label isRequired).exec d).caseTask = d.caseTask.insert t := by
  have hfind : (Prisma.findUnique .serviceCase caseId).run d =
      (.ok (d.serviceCase.get? caseId), d) := rfl
  rw [Prog.exec, addTask, Prog.run_bind_ok hfind]
  cases d.serviceCase.get? caseId with
  | none => exact Or.inl rfl
  | some c =>
    dsimp only
    split_ifs
    · exact Or.inl rfl
    · rw [Prog.run_bind_ok (Prisma.run_query d _ _), Prog.run_bind_ok (Prisma.run_create ..)]
      exact Or.inr ⟨_, rfl⟩

/-- An open item is changed, and no other. -/
lemma CasesService.updateTask_caseTask (label : Option String) (isRequired : Option Bool) :
    ((updateTask caseId taskId label isRequired).exec d).caseTask = d.caseTask ∨
      ∃ t f, d.caseTask.get? taskId = some t ∧ t.isComplete = false ∧
        ((updateTask caseId taskId label isRequired).exec d).caseTask =
          d.caseTask.modify taskId f := by
  rw [Prog.exec, updateTask, Prog.run_bind]
  rcases requireTask_run d caseId taskId with ⟨e, hrun⟩ | ⟨t, ht, -, hrun⟩
  · rw [hrun]
    exact Or.inl rfl
  · rw [hrun]
    dsimp only
    by_cases hcomplete : t.isComplete = true
    · rw [if_pos hcomplete]
      exact Or.inl rfl
    · rw [if_neg hcomplete]
      by_cases hnothing : label = none ∧ isRequired = none
      · rw [if_pos hnothing]
        exact Or.inl rfl
      · rw [if_neg hnothing, Prog.run_bind_ok (Prisma.run_update_of_some ht _)]
        exact Or.inr ⟨t, _, ht, Bool.eq_false_iff.mpr hcomplete, rfl⟩

/-- An open item is removed, and no other. -/
lemma CasesService.removeTask_caseTask :
    ((removeTask caseId taskId).exec d).caseTask = d.caseTask ∨
      ∃ t, d.caseTask.get? taskId = some t ∧ t.isComplete = false ∧
        ((removeTask caseId taskId).exec d).caseTask = d.caseTask.erase taskId := by
  rw [Prog.exec, removeTask, Prog.run_bind]
  rcases requireTask_run d caseId taskId with ⟨e, hrun⟩ | ⟨t, ht, -, hrun⟩
  · rw [hrun]
    exact Or.inl rfl
  · rw [hrun]
    dsimp only
    split_ifs with hcomplete
    · exact Or.inl rfl
    · have hdelete : (Prisma.delete .caseTask taskId).run d =
          (.ok (), d.eraseRow .caseTask taskId) := by
        rw [Prisma.run_delete, Rel.caseTask_get, ht]
        rfl
      rw [Prog.run_bind_ok hdelete]
      exact Or.inr ⟨t, ht, Bool.eq_false_iff.mpr hcomplete, rfl⟩

/-- An open item is ticked off, and no other. -/
lemma EvidenceService.completeTask_caseTask :
    ((completeTask caseId taskId).exec d).caseTask = d.caseTask ∨
      ∃ t f, d.caseTask.get? taskId = some t ∧ t.isComplete = false ∧
        ((completeTask caseId taskId).exec d).caseTask = d.caseTask.modify taskId f := by
  rw [Prog.exec, completeTask, Prog.run_bind]
  rcases requireTask_run d caseId taskId with ⟨e, hrun⟩ | ⟨t, ht, -, hrun⟩
  · rw [hrun]
    exact Or.inl rfl
  · rw [hrun]
    dsimp only
    split_ifs with hcomplete
    · exact Or.inl rfl
    · rw [Prog.run_bind_ok (Prisma.run_update_of_some ht _)]
      exact Or.inr ⟨t, _, ht, Bool.eq_false_iff.mpr hcomplete, rfl⟩

/-- A review adds one item at most. -/
lemma EvidenceService.performQc_caseTask (actor : AuthenticatedUser) (dto : PerformQcDto) :
    ((performQc actor caseId dto).exec d).caseTask = d.caseTask ∨
      ∃ t, ((performQc actor caseId dto).exec d).caseTask = d.caseTask.insert t := by
  rcases performQc_exec d actor caseId dto with heq | ⟨c, agents, t, -, -, hc, -, hcases⟩
  · exact Or.inl (by rw [heq])
  · have hreview : ((reviewDb d actor caseId c dto).withAgents agents t).caseTask =
        d.caseTask := by
      rw [reviewDb]
      split_ifs <;> rfl
    have hc' : ((reviewDb d actor caseId c dto).withAgents agents t).serviceCase.get? caseId =
        some (reviewed c) := hc
    rcases hcases with heq | heq
    · exact Or.inl (by rw [heq, hreview])
    · rw [heq, ← hreview]
      rcases followUp_exec actor hc' rfl dto with
        heq | ⟨summary, -, heq⟩ | ⟨d₁, reason, rfl | ⟨task, rfl⟩, heq⟩ | ⟨flag, incident, heq⟩
      · exact Or.inl (by rw [heq])
      · exact Or.inl (by rw [heq]; rfl)
      · exact Or.inl (by rw [heq]; rfl)
      · exact Or.inr ⟨task, by rw [heq]; rfl⟩
      · exact Or.inl (by rw [heq]; rfl)

end Exec

/-! ## Disputes -/

section Dispute

variable {d d' : Db} {caseId dispute : Id} {actor : AuthenticatedUser}
  {dto : CasesService.RaiseDisputeDto}

/-- The item is open again. -/
def CaseTask.unticked (t : CaseTask) : CaseTask :=
  { t with isComplete := false, completedAt := none }

/-- A dispute that is raised opens the items of the case that it names. -/
lemma CasesService.raiseDispute_ok
    (h : (raiseDispute actor caseId dto).run d = (.ok dispute, d')) :
    (disputedTasks d caseId dto.disputedTaskIds).length = dto.disputedTaskIds.length ∧
      d'.caseTask = d.caseTask.modifyWhere
        (fun i t => i ∈ dto.disputedTaskIds ∧ t.caseId = caseId) CaseTask.unticked := by
  have hfind : (Prisma.findUnique .serviceCase caseId).run d =
      (.ok (d.serviceCase.get? caseId), d) := rfl
  rw [raiseDispute, Prog.run_bind_ok hfind] at h
  cases hc : d.serviceCase.get? caseId with
  | none =>
    rw [hc] at h
    cases h
  | some c =>
    rw [hc] at h
    dsimp only at h
    by_cases hs : c.status = .customerReview
    · rw [if_neg (not_not.mpr hs), Prog.run_bind_ok (Prisma.run_query d _ _)] at h
      by_cases hl : (disputedTasks d caseId dto.disputedTaskIds).length =
          dto.disputedTaskIds.length
      · rw [if_neg (not_not.mpr hl), requireCustomerProfile, Prog.bind_assoc,
          Prog.run_bind_ok (Prisma.run_query d _ _)] at h
        cases hprofile : customerProfile d actor.id with
        | none =>
          rw [hprofile] at h
          cases h
        | some p =>
          refine ⟨hl, ?_⟩
          rw [hprofile] at h
          dsimp only at h
          rw [Prog.pure_bind, Prog.run_bind_ok (Prisma.run_create ..),
            Prog.run_bind_ok (Prisma.run_updateMany ..),
            Prog.run_bind_ok (Prisma.run_update_of_some (by exact hc) _),
            Prog.run_bind_ok (Prisma.run_create ..)] at h
          cases h
          rfl
      · rw [if_pos hl] at h
        cases h
    · rw [if_pos hs] at h
      cases h

/-- Every item that a dispute names is on the checklist of the case, as each is found once. -/
lemma mem_disputedTasks_of_length {taskIds : List Id}
    (h : (CasesService.disputedTasks d caseId taskIds).length = taskIds.length) {i : Id}
    (hi : i ∈ taskIds) : ∃ t, d.caseTask.get? i = some t ∧ t.caseId = caseId := by
  have hnodup : ((CasesService.disputedTasks d caseId taskIds).map Prod.fst).Nodup :=
    d.caseTask.nodup.sublist (List.filter_sublist.map _)
  have hsubset : (CasesService.disputedTasks d caseId taskIds).map Prod.fst ⊆ taskIds := by
    intro j hj
    obtain ⟨p, hp, rfl⟩ := List.mem_map.mp hj
    exact (of_decide_eq_true (List.mem_filter.mp hp).2).1
  have hperm := (List.subperm_of_subset hnodup hsubset).perm_of_length_le (by simp [h])
  obtain ⟨p, hp, rfl⟩ := List.mem_map.mp (hperm.mem_iff.mpr hi)
  obtain ⟨hrow, hnamed⟩ := List.mem_filter.mp hp
  exact ⟨p.2, d.caseTask.mem_rows_iff.mp hrow, (of_decide_eq_true hnamed).2⟩

lemma CasesService.raiseDispute_get?
    (h : (raiseDispute actor caseId dto).run d = (.ok dispute, d')) (i : Id) :
    d'.caseTask.get? i = (d.caseTask.get? i).map fun t =>
      if i ∈ dto.disputedTaskIds then t.unticked else t := by
  obtain ⟨hlength, htasks⟩ := raiseDispute_ok h
  rw [htasks, Table.get?_modifyWhere]
  cases ht : d.caseTask.get? i with
  | none => rfl
  | some t =>
    rw [Option.map_some, Option.map_some, Option.some.injEq]
    refine if_congr ?_ rfl rfl
    rw [decide_eq_true_eq, and_iff_left_iff_imp]
    intro hi
    obtain ⟨t', ht', hcase⟩ := mem_disputedTasks_of_length hlength hi
    obtain rfl : t = t' := Option.some.inj (ht.symm.trans ht')
    exact hcase

end Dispute

/-! ## Every run -/

/-- A call, or the passing of time. -/
inductive ChecklistOp
  | addTask (caseId : Id) (label : String) (isRequired : Option Bool)
  | updateTask (caseId taskId : Id) (label : Option String) (isRequired : Option Bool)
  | removeTask (caseId taskId : Id)
  | completeTask (caseId taskId : Id)
  | raiseDispute (actor : AuthenticatedUser) (caseId : Id) (dto : CasesService.RaiseDisputeDto)
  | performQc (actor : AuthenticatedUser) (caseId : Id) (dto : EvidenceService.PerformQcDto)
  | elapse (ms : ℕ)
deriving DecidableEq, Repr

namespace ChecklistOp

def step (d : Db) : ChecklistOp → Db
  | addTask caseId label isRequired => (CasesService.addTask caseId label isRequired).exec d
  | updateTask caseId taskId label isRequired =>
      (CasesService.updateTask caseId taskId label isRequired).exec d
  | removeTask caseId taskId => (CasesService.removeTask caseId taskId).exec d
  | completeTask caseId taskId => (EvidenceService.completeTask caseId taskId).exec d
  | raiseDispute actor caseId dto => (CasesService.raiseDispute actor caseId dto).exec d
  | performQc actor caseId dto => (EvidenceService.performQc actor caseId dto).exec d
  | elapse ms => { d with clock := d.clock + ms }

/-- The call is a dispute about the case that names the item. -/
def Disputes (caseId taskId : Id) : ChecklistOp → Prop
  | raiseDispute _ i dto => i = caseId ∧ taskId ∈ dto.disputedTaskIds
  | _ => False

section Step

variable {d : Db} {o : ChecklistOp} {i : Id} {t : CaseTask}

/-- Open items are what the other calls change, and rows are only added to the rest. -/
lemma get?_of_complete {tasks : Table CaseTask} (ht : d.caseTask.get? i = some t)
    (hcomplete : t.isComplete = true)
    (h : tasks = d.caseTask ∨ (∃ t', tasks = d.caseTask.insert t') ∨
      ∃ j t', d.caseTask.get? j = some t' ∧ t'.isComplete = false ∧
        ((∃ f, tasks = d.caseTask.modify j f) ∨ tasks = d.caseTask.erase j)) :
    tasks.get? i = some t := by
  rcases h with rfl | ⟨t', rfl⟩ | ⟨j, t', ht', hopen, h⟩
  · exact ht
  · exact Table.get?_insert_of_some ht t'
  · have hne : i ≠ j := by
      rintro rfl
      obtain rfl : t = t' := Option.some.inj (ht.symm.trans ht')
      rw [hcomplete] at hopen
      cases hopen
    rcases h with ⟨f, rfl⟩ | rfl
    · rw [Table.get?_modify_of_ne _ hne, ht]
    · rw [Table.get?_erase, if_neg hne, ht]

/-- A call leaves an item alone that is ticked off, unless it is a dispute about it. -/
lemma step_get? (ht : d.caseTask.get? i = some t) (hcomplete : t.isComplete = true)
    (ho : ¬ o.Disputes t.caseId i) : (o.step d).caseTask.get? i = some t := by
  cases o with
  | addTask caseId label isRequired =>
    refine get?_of_complete ht hcomplete ?_
    exact (CasesService.addTask_caseTask d caseId label isRequired).imp_right Or.inl
  | updateTask caseId taskId label isRequired =>
    refine get?_of_complete ht hcomplete ?_
    rcases CasesService.updateTask_caseTask d caseId taskId label isRequired with
      h | ⟨t', f, ht', hopen, h⟩
    · exact Or.inl h
    · exact Or.inr (Or.inr ⟨taskId, t', ht', hopen, Or.inl ⟨f, h⟩⟩)
  | removeTask caseId taskId =>
    refine get?_of_complete ht hcomplete ?_
    rcases CasesService.removeTask_caseTask d caseId taskId with h | ⟨t', ht', hopen, h⟩
    · exact Or.inl h
    · exact Or.inr (Or.inr ⟨taskId, t', ht', hopen, Or.inr h⟩)
  | completeTask caseId taskId =>
    refine get?_of_complete ht hcomplete ?_
    rcases EvidenceService.completeTask_caseTask d caseId taskId with h | ⟨t', f, ht', hopen, h⟩
    · exact Or.inl h
    · exact Or.inr (Or.inr ⟨taskId, t', ht', hopen, Or.inl ⟨f, h⟩⟩)
  | raiseDispute actor caseId dto =>
    rcases CasesService.raiseDispute_exec d caseId actor dto with heq | ⟨c, customerId, -, -, heq⟩
    · rw [step, heq, ht]
    · -- the items of other cases, and those that are not named, stay as they are
      have hnot : ¬ (i ∈ dto.disputedTaskIds ∧ t.caseId = caseId) := fun h => ho ⟨h.2.symm, h.1⟩
      have htasks : (step d (.raiseDispute actor caseId dto)).caseTask =
          d.caseTask.modifyWhere (fun i t => i ∈ dto.disputedTaskIds ∧ t.caseId = caseId)
            CaseTask.unticked := congrArg Db.caseTask heq
      rw [htasks, Table.get?_modifyWhere, ht, Option.map_some, if_neg (by simpa using hnot)]
  | performQc actor caseId dto =>
    refine get?_of_complete ht hcomplete ?_
    exact (EvidenceService.performQc_caseTask d caseId actor dto).imp_right Or.inl
  | elapse ms => exact ht

end Step

end ChecklistOp

/-- **A completed item is a fixed record.**  In every run an item that is ticked off stays as it is
as long as no dispute about its case names it; and a dispute that is raised opens the items that it
names, which are on the checklist of its case, and leaves all others as they are. -/
theorem completed_task_fixed (d : Db) :
    (∀ (os : List ChecklistOp) (i : Id) (t : CaseTask), d.caseTask.get? i = some t →
        t.isComplete = true → (∀ o ∈ os, ¬ o.Disputes t.caseId i) →
          (runFrom ChecklistOp.step d os).caseTask.get? i = some t) ∧
      ∀ (actor : AuthenticatedUser) (caseId : Id) (dto : CasesService.RaiseDisputeDto)
        (dispute : Id) (d' : Db),
        (CasesService.raiseDispute actor caseId dto).run d = (.ok dispute, d') →
          (∀ i ∈ dto.disputedTaskIds, ∃ t, d.caseTask.get? i = some t ∧ t.caseId = caseId) ∧
            ∀ i, d'.caseTask.get? i = (d.caseTask.get? i).map fun t =>
              if i ∈ dto.disputedTaskIds then { t with isComplete := false, completedAt := none }
              else t := by
  constructor
  · intro os i t ht hcomplete hos
    induction os generalizing d with
    | nil => exact ht
    | cons o os ih =>
      refine ih (o.step d) ?_ fun o' ho' => hos o' (List.mem_cons_of_mem _ ho')
      exact ChecklistOp.step_get? ht hcomplete (hos o List.mem_cons_self)
  · intro actor caseId dto dispute d' h
    refine ⟨fun i hi => ?_, CasesService.raiseDispute_get? h⟩
    exact mem_disputedTasks_of_length (CasesService.raiseDispute_ok h).1 hi

/-- A case whose report is with the customer: two items are done, and one was not required. -/
def reportedDb : Db where
  clock := 100
  customer := Table.empty.insert { userId := 7 }
  serviceCase := Table.empty.insert
    { customerId := 0, serviceType := .propertyInspection, description := "Site visit"
      location := "Lekki", status := .customerReview }
  caseTask := ((Table.empty.insert
        { caseId := 0, label := "Photograph the gate", isComplete := true
          completedAt := some 50 }).insert
      { caseId := 0, label := "Meet the caretaker", isComplete := true
        completedAt := some 60 }).insert
    { caseId := 0, label := "Measure the plot", isRequired := false }

/-- Calls that would change the first item, and a dispute about the second. -/
def recordOps : List ChecklistOp :=
  [.updateTask 0 0 (some "Photograph the fence") none, .removeTask 0 0, .elapse 1000,
   .completeTask 0 0, .completeTask 0 2, .raiseDispute ⟨7, .customer⟩ 0 ⟨[1], none, none⟩]

theorem completed_task_fixed_reported :
    (runFrom ChecklistOp.step reportedDb recordOps).caseTask.get? 0 =
        some { caseId := 0, label := "Photograph the gate", isComplete := true
               completedAt := some 50 } ∧
      ((CasesService.raiseDispute ⟨7, .customer⟩ 0 ⟨[1], none, none⟩).exec
          reportedDb).caseTask.get? 1 =
        some { caseId := 0, label := "Meet the caretaker" } := by
  obtain ⟨hkept, hopened⟩ := completed_task_fixed reportedDb
  constructor
  · refine hkept recordOps 0 _ rfl rfl fun o ho hdisputes => ?_
    simp only [recordOps, List.mem_cons, List.not_mem_nil, or_false] at ho
    rcases ho with rfl | rfl | rfl | rfl | rfl | rfl
    · exact hdisputes
    · exact hdisputes
    · exact hdisputes
    · exact hdisputes
    · exact hdisputes
    · exact absurd hdisputes.2 (by decide)
  · have hrun : (CasesService.raiseDispute ⟨7, .customer⟩ 0 ⟨[1], none, none⟩).run reportedDb =
        (.ok 0, (CasesService.raiseDispute ⟨7, .customer⟩ 0 ⟨[1], none, none⟩).exec reportedDb) :=
      Prod.ext (by decide +kernel) rfl
    rw [(hopened _ _ _ _ _ hrun).2 1]
    decide +kernel

end Asoju
