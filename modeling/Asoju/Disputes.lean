/-
The disputes of a case and its status.

A dispute is raised as the case becomes DISPUTED, and accepted as it leaves that status again.
Nothing else enters or leaves DISPUTED, apart from holds: a case may be on hold and remember
DISPUTED as the status to resume to.  So a case has an open dispute, and only one, exactly while
it is DISPUTED or on hold with the way back to it.
-/
import Asoju.Lifecycle

namespace Asoju

open Lib

/-- How many open disputes the case has. -/
def Db.openDisputes (d : Db) (caseId : Id) : ℕ :=
  d.dispute.values.countP fun p => p.caseId = caseId ∧ p.status = .open

/-- The case is disputed, or will be again when it is resumed. -/
def ServiceCase.Disputed (c : ServiceCase) : Prop :=
  c.status = .disputed ∨ (c.status = .onHold ∧ c.heldFromStatus = some .disputed)

instance (c : ServiceCase) : Decidable c.Disputed :=
  inferInstanceAs (Decidable (_ ∨ _))

/-- The open disputes are what the status of the case says. -/
def Db.DisputesTrack (d : Db) (caseId : Id) (c : ServiceCase) : Prop :=
  d.openDisputes caseId = if c.Disputed then 1 else 0

/-- The case is there, remembers a way back only while it is on hold, and its status tells its open
disputes. -/
structure Db.DisputesOk (d : Db) (caseId : Id) (c : ServiceCase) : Prop where
  found : d.serviceCase.get? caseId = some c
  held : c.status ≠ .onHold → c.heldFromStatus = none
  track : d.DisputesTrack caseId c

variable {d d' : Db} {caseId i : Id} {c c' : ServiceCase}

/-! ### What a status change does -/

lemma disputed_iff_of_not_held (h : c.heldFromStatus = none) :
    c.Disputed ↔ c.status = .disputed := by
  simp [ServiceCase.Disputed, h]

lemma openDisputes_moveCase (dst : CaseStatus) (held : Option CaseStatus) (a : Option Id)
    (r : Option String) : (d.moveCase i c dst held a r).openDisputes caseId =
      d.openDisputes caseId := rfl

/-- A status change of another case. -/
lemma Db.DisputesOk.moveCase_of_ne (h : d.DisputesOk caseId c) (hne : i ≠ caseId)
    (hc' : d.serviceCase.get? i = some c') (dst : CaseStatus) (held : Option CaseStatus)
    (a : Option Id) (r : Option String) :
    (d.moveCase i c' dst held a r).DisputesOk caseId c where
  found := by rw [get?_moveCase d hc', if_neg hne, h.found]
  held := h.held
  track := h.track

/-- A status change of the case itself, after which it is disputed if it was before. -/
lemma Db.DisputesOk.moveCase_self (h : d.DisputesOk caseId c) {dst : CaseStatus}
    {held : Option CaseStatus} (hheld : dst ≠ .onHold → held = none)
    (hiff : ServiceCase.Disputed { c with status := dst, heldFromStatus := held } ↔ c.Disputed)
    (a : Option Id) (r : Option String) :
    (d.moveCase caseId c dst held a r).DisputesOk caseId
      { c with status := dst, heldFromStatus := held } where
  found := by rw [get?_moveCase d h.found, if_pos rfl]
  held := hheld
  track := by
    rw [Db.DisputesTrack, openDisputes_moveCase]
    simp only [hiff]
    exact h.track

/-- What touches neither the case nor the disputes. -/
lemma Db.DisputesOk.congr (h : d.DisputesOk caseId c)
    (hcase : d'.serviceCase = d.serviceCase)
    (hcount : d'.openDisputes caseId = d.openDisputes caseId) : d'.DisputesOk caseId c where
  found := by rw [hcase, h.found]
  held := h.held
  track := by rw [Db.DisputesTrack, hcount, h.track]

/-- Some case is under the key, and its disputes are right. -/
def Db.Tracked (d : Db) (caseId : Id) : Prop := ∃ c, d.DisputesOk caseId c

/-! ### The methods, one by one -/

/-- The table neither enters nor leaves DISPUTED or ON_HOLD. -/
lemma ne_of_mem_transitions {src dst : CaseStatus} (h : dst ∈ transitions src) :
    (src ≠ .disputed ∧ src ≠ .onHold) ∧ dst ≠ .disputed ∧ dst ≠ .onHold := by
  cases src <;> cases dst <;> first | decide | exact absurd h (by decide)

/-- A move of the table. -/
lemma Db.Tracked.moveCase (h : d.Tracked caseId) (hc' : d.serviceCase.get? i = some c')
    {dst : CaseStatus} (hmem : dst ∈ transitions c'.status) (a : Option Id) (r : Option String) :
    (d.moveCase i c' dst c'.heldFromStatus a r).Tracked caseId := by
  obtain ⟨c, hok⟩ := h
  by_cases hi : i = caseId
  · subst hi
    obtain rfl : c = c' := Option.some.inj (hok.found.symm.trans hc')
    obtain ⟨⟨hsrc, hsrc'⟩, hdst, -⟩ := ne_of_mem_transitions hmem
    have hheld := hok.held hsrc'
    refine ⟨_, hok.moveCase_self (fun _ => hheld) ?_ _ _⟩
    rw [disputed_iff_of_not_held hheld, disputed_iff_of_not_held (by exact hheld)]
    exact iff_of_false hdst hsrc
  · exact ⟨c, hok.moveCase_of_ne hi hc' _ _ _ _⟩

lemma Db.Tracked.applyTransition (h : d.Tracked caseId) (i : Id) (toStatus : CaseStatus)
    (reason : Option String) (actorId : Option Id) :
    ((CasesService.applyTransition i toStatus reason actorId).exec d).Tracked caseId := by
  rcases CasesService.applyTransition_exec d i toStatus reason actorId with
    heq | ⟨c', hc', hmem, heq⟩
  · rwa [heq]
  · rw [heq]
    exact h.moveCase hc' hmem _ _

lemma Db.Tracked.recordApproval (h : d.Tracked caseId) (i : Id) (actor : AuthenticatedUser)
    (action : ApprovalAction) (note : Option String) :
    ((CasesService.recordApproval actor i action note).exec d).Tracked caseId := by
  rcases CasesService.recordApproval_exec d i actor action note with heq | ⟨c', hc', hcases⟩
  · rwa [heq]
  · obtain ⟨c, hok⟩ := h
    have h₁ : (CasesService.approvalRow d i actor action note).Tracked caseId :=
      ⟨c, hok.congr rfl rfl⟩
    have hc₁ : (CasesService.approvalRow d i actor action note).serviceCase.get? i = some c' := hc'
    rcases hcases with heq | ⟨-, hs, heq⟩ | ⟨-, hs, heq⟩
    · rwa [heq]
    · -- the approval moves the case to APPROVED, and from there to COMPLETED
      rw [heq]
      have happroved : CaseStatus.approved ∈ transitions c'.status := by
        rw [hs]
        decide
      have hc₂ := (get?_moveCase _ hc₁ .approved c'.heldFromStatus (some actor.id)
        (some "Customer approved") i).trans (if_pos rfl)
      exact (h₁.moveCase hc₁ happroved _ _).moveCase hc₂
        (show CaseStatus.completed ∈ transitions .approved by decide) _ _
    · rw [heq]
      have hwork : CaseStatus.additionalWork ∈ transitions c'.status := by
        rw [hs]
        decide
      exact h₁.moveCase hc₁ hwork _ _

lemma Db.Tracked.holdCase (h : d.Tracked caseId) (i : Id) (actor : AuthenticatedUser)
    (reason : String) :
    ((CasesService.holdCase actor i reason).exec d).Tracked caseId := by
  obtain ⟨c, hok⟩ := h
  rcases CasesService.holdCase_exec d i actor reason with heq | ⟨c', hc', hs, -, -, heq⟩
  · rw [heq]
    exact ⟨c, hok⟩
  · rw [heq]
    by_cases hi : i = caseId
    · subst hi
      obtain rfl : c = c' := Option.some.inj (hok.found.symm.trans hc')
      refine ⟨_, hok.moveCase_self (fun hne => absurd rfl hne) ?_ _ _⟩
      -- on hold it remembers the status it had
      rw [disputed_iff_of_not_held (hok.held hs)]
      simp [ServiceCase.Disputed]
    · exact ⟨c, hok.moveCase_of_ne hi hc' _ _ _ _⟩

lemma Db.Tracked.resumeCase (h : d.Tracked caseId) (i : Id) (actor : AuthenticatedUser)
    (reason : Option String) :
    ((CasesService.resumeCase actor i reason).exec d).Tracked caseId := by
  obtain ⟨c, hok⟩ := h
  rcases CasesService.resumeCase_exec d i actor reason with
    heq | ⟨c', back, hc', hs, hback, heq⟩
  · rw [heq]
    exact ⟨c, hok⟩
  · rw [heq]
    by_cases hi : i = caseId
    · subst hi
      obtain rfl : c = c' := Option.some.inj (hok.found.symm.trans hc')
      refine ⟨_, hok.moveCase_self (fun _ => rfl) ?_ _ _⟩
      rw [disputed_iff_of_not_held rfl]
      simp [ServiceCase.Disputed, hs, hback]
    · exact ⟨c, hok.moveCase_of_ne hi hc' _ _ _ _⟩

/-- The disputes after one more has been raised about the case `i`. -/
lemma openDisputes_insert {row : Dispute} (hrow : row.caseId = i) (hopen : row.status = .open) :
    (d.insertRow .dispute row).openDisputes caseId =
      d.openDisputes caseId + if i = caseId then 1 else 0 := by
  rw [Db.openDisputes]
  refine (Table.countP_values_insert d.dispute row _).trans ?_
  simp [Db.openDisputes, hrow, hopen]

lemma Db.Tracked.raiseDispute (h : d.Tracked caseId) (i : Id) (actor : AuthenticatedUser)
    (dto : CasesService.RaiseDisputeDto) :
    ((CasesService.raiseDispute actor i dto).exec d).Tracked caseId := by
  obtain ⟨c, hok⟩ := h
  rcases CasesService.raiseDispute_exec d i actor dto with heq | ⟨c', customerId, hc', hs, heq⟩
  · rw [heq]
    exact ⟨c, hok⟩
  · rw [heq]
    by_cases hi : i = caseId
    · subst hi
      obtain rfl : c = c' := Option.some.inj (hok.found.symm.trans hc')
      have hheld : c.heldFromStatus = none := hok.held (by simp [hs])
      refine ⟨{ c with status := .disputed, heldFromStatus := c.heldFromStatus }, ?_, ?_, ?_⟩
      · exact (get?_moveCase _ (by exact hc') _ _ _ _ _).trans (if_pos rfl)
      · exact fun _ => hheld
      · -- there was no open dispute, as the case was in review
        have hzero : d.openDisputes i = 0 := by
          rw [hok.track, if_neg]
          rw [disputed_iff_of_not_held hheld, hs]
          decide
        have hnow : ServiceCase.Disputed
            { c with status := .disputed, heldFromStatus := c.heldFromStatus } := Or.inl rfl
        rw [Db.DisputesTrack, openDisputes_moveCase, if_pos hnow]
        refine (openDisputes_insert rfl rfl).trans ?_
        rw [hzero, if_pos rfl]
    · refine ⟨c, Db.DisputesOk.moveCase_of_ne ?_ hi (by exact hc') _ _ _ _⟩
      refine hok.congr rfl ((openDisputes_insert rfl rfl).trans ?_)
      rw [if_neg hi, Nat.add_zero]

/-- The disputes after the oldest open one of the case `i` has been accepted. -/
lemma openDisputes_acceptDispute (actor : AuthenticatedUser) :
    (CasesService.acceptDispute d i actor).openDisputes caseId =
      if i = caseId then d.openDisputes caseId - 1 else d.openDisputes caseId := by
  rw [CasesService.acceptDispute]
  cases hd : CasesService.openDispute d i with
  | none =>
    -- without an open dispute of `i` there is nothing to count
    by_cases hi : i = caseId
    · subst hi
      have hzero : d.openDisputes i = 0 := by
        rw [Db.openDisputes, List.countP_eq_zero]
        intro p hp
        obtain ⟨q, hq, rfl⟩ := List.mem_map.mp hp
        exact (List.find?_eq_none.mp hd) q hq
      rw [if_pos rfl, hzero]
    · rw [if_neg hi]
  | some p =>
    have hfound := List.find?_some hd
    simp only [decide_eq_true_eq] at hfound
    obtain ⟨hcase, hopen⟩ := hfound
    have hp : d.dispute.get? p.1 = some p.2 :=
      d.dispute.mem_rows_iff.mp (List.mem_of_find?_eq_some hd)
    have hcount := Table.countP_values_modify hp (fun q =>
      { q with status := .resolved, resolvedAt := some d.clock, resolvedById := some actor.id })
      fun q : Dispute => decide (q.caseId = caseId ∧ q.status = .open)
    simp only [hcase, hopen, and_true, reduceCtorEq, and_false, decide_false, decide_eq_true_eq]
      at hcount
    by_cases hi : i = caseId
    · rw [if_pos hi] at hcount ⊢
      exact Nat.eq_sub_of_add_eq hcount
    · rw [if_neg hi] at hcount ⊢
      exact hcount

lemma Db.Tracked.resolveDispute (h : d.Tracked caseId) (i : Id) (actor : AuthenticatedUser)
    (note : Option String) :
    ((CasesService.resolveDispute actor i note).exec d).Tracked caseId := by
  obtain ⟨c, hok⟩ := h
  rcases CasesService.resolveDispute_cases d i actor note with heq | ⟨c', hc', hs, heq⟩
  · rw [heq]
    exact ⟨c, hok⟩
  · have hcase : (CasesService.acceptDispute d i actor).serviceCase = d.serviceCase := by
      rw [CasesService.acceptDispute]
      split <;> rfl
    have hget : (CasesService.acceptDispute d i actor).serviceCase.get? i = some c' := by
      rw [hcase, hc']
    rw [heq]
    by_cases hi : i = caseId
    · subst hi
      obtain rfl : c = c' := Option.some.inj (hok.found.symm.trans hc')
      have hheld : c.heldFromStatus = none := hok.held (by simp [hs])
      refine ⟨{ c with status := .additionalWork, heldFromStatus := c.heldFromStatus }, ?_, ?_, ?_⟩
      · exact (get?_moveCase _ hget _ _ _ _ _).trans (if_pos rfl)
      · exact fun _ => hheld
      · have hone : d.openDisputes i = 1 := by
          rw [hok.track, if_pos (show c.Disputed from Or.inl hs)]
        rw [Db.DisputesTrack, openDisputes_moveCase, openDisputes_acceptDispute, if_pos rfl, hone,
          if_neg]
        rw [disputed_iff_of_not_held (by exact hheld)]
        simp
    · refine ⟨c, Db.DisputesOk.moveCase_of_ne ?_ hi hget _ _ _ _⟩
      refine hok.congr hcase ?_
      rw [openDisputes_acceptDispute, if_neg hi]

/-! ### Every run -/

lemma Db.Tracked.step (h : d.Tracked caseId) (o : CaseOp) : (o.step d).Tracked caseId := by
  cases o with
  | transitionCase actor i s r => exact h.applyTransition i s r _
  | systemTransitionCase i s r => exact h.applyTransition i s r _
  | holdCase actor i r => exact h.holdCase i actor r
  | resumeCase actor i r => exact h.resumeCase i actor r
  | raiseDispute actor i dto => exact h.raiseDispute i actor dto
  | resolveDispute actor i n => exact h.resolveDispute i actor n
  | recordApproval actor i act n => exact h.recordApproval i actor act n

/-- **Disputes track the case.**  From the creation of a case on, which has no disputes then, and
after any calls of the methods that write the status, each of which may also throw in its checks, the
case has exactly one open dispute while it is disputed, or on hold with the way back to DISPUTED, and
no open dispute otherwise. -/
theorem disputes_track_case (d : Db) (caseId : Id) (h : d.JustCreated caseId)
    (hnone : d.openDisputes caseId = 0) (os : List CaseOp) :
    AllStates CaseOp.step
      (fun d' => ∃ c, d'.serviceCase.get? caseId = some c ∧
        d'.openDisputes caseId = if c.Disputed then 1 else 0) d os := by
  have hstart : d.Tracked caseId := by
    obtain ⟨c, hc, hs, hheld, -⟩ := h
    refine ⟨c, hc, fun _ => hheld, ?_⟩
    rw [Db.DisputesTrack, hnone, if_neg]
    rw [disputed_iff_of_not_held hheld, hs]
    decide
  have hrun : AllStates CaseOp.step (fun d' => d'.Tracked caseId) d os :=
    invariant (I := (Db.Tracked · caseId)) (fun _ o hd => hd.step o) hstart os
  refine hrun.mono fun d' hd' => ?_
  obtain ⟨c, hok⟩ := hd'
  exact ⟨c, hok.found, hok.track⟩

/-- A case that is disputed, put on hold and resumed, and then sent back for rework. -/
def disputedOnHold : List CaseOp :=
  ([.submitted, .underReview, .quoted, .awaitingPayment, .scheduled, .assigned, .inProgress,
    .evidenceSubmitted, .qualityControl, .customerReview] : List CaseStatus).map
      (fun s => .systemTransitionCase 0 s none) ++
    [.raiseDispute ⟨7, .customer⟩ 0 ⟨[0], none, none⟩,
     .holdCase ⟨1, .caseManager⟩ 0 "Waiting for the agent",
     .resumeCase ⟨1, .caseManager⟩ 0 none,
     .resolveDispute ⟨1, .caseManager⟩ 0 none]

/-- A case with its customer and one task, which has just been created. -/
def caseWithTask : Db :=
  { newCaseDb with
    customer := Table.empty.insert { userId := 7 }
    caseTask := Table.empty.insert { caseId := 0, label := "Visit the site" } }

theorem disputes_track_case_onHold :
    AllStates CaseOp.step
      (fun d' => ∃ c, d'.serviceCase.get? 0 = some c ∧
        d'.openDisputes 0 = if c.Disputed then 1 else 0) caseWithTask disputedOnHold :=
  disputes_track_case caseWithTask 0 ⟨_, rfl, rfl, rfl, rfl⟩ rfl disputedOnHold

example : (runFrom CaseOp.step caseWithTask (disputedOnHold.take 12)).openDisputes 0 = 1 ∧
    (runFrom CaseOp.step caseWithTask disputedOnHold).openDisputes 0 = 0 := by decide +kernel

end Asoju
