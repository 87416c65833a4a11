/-
The life of a case.

A case is meant to be a state machine that can be suspended (`Lib/Journey.lean`): the
ordinary moves are those of the transition table and the two moves of a dispute, and the
suspension is ON_HOLD.  `CaseOp.step_journey` shows that every method of the case service
that writes the status refines this machine: the history of a case is always the log of a
journey that ends in the status of the case.
-/
import Asoju.Cases
import Asoju.Lib.Journey
import Asoju.Lib.Run

namespace Asoju

open Lib

/-! ## The machine -/

/-- The ordinary moves: the transition table, and the two moves of a dispute. -/
def CaseEdge (src dst : CaseStatus) : Prop :=
  dst ∈ transitions src ∨ (src = .customerReview ∧ dst = .disputed) ∨
    (src = .disputed ∧ dst = .additionalWork)

lemma not_mem_transitions_onHold (src : CaseStatus) : .onHold ∉ transitions src := by
  cases src <;> decide

/-- The life of a case as a machine that can be suspended. -/
def caseMachine : Machine CaseStatus where
  start := .draft
  hold := .onHold
  Edge := CaseEdge
  MayHold s := s ≠ .onHold ∧ s ≠ .completed ∧ s ≠ .closed
  start_ne_hold := by decide
  source_ne_hold := by
    rintro s t (h | ⟨rfl, -⟩ | ⟨rfl, -⟩)
    · rintro rfl
      exact absurd h List.not_mem_nil
    all_goals decide
  target_ne_hold := by
    rintro s t (h | ⟨-, rfl⟩ | ⟨-, rfl⟩)
    · rintro rfl
      exact not_mem_transitions_onHold s h
    all_goals decide
  mayHold_ne_hold h := h.1

/-! ## A case and its history -/

/-- The rows of the status history of a case, as moves. -/
def Db.moves (d : Db) (caseId : Id) : List (Move CaseStatus) :=
  (d.caseStatusHistory.values.filter fun h => h.caseId = caseId).map
    fun h => ⟨h.fromStatus, h.toStatus⟩

/-- The case is there, and its history is a journey to its status. -/
def Db.OnJourney (d : Db) (caseId : Id) : Prop :=
  ∃ c, d.serviceCase.get? caseId = some c ∧
    caseMachine.Journey (d.moves caseId) c.status c.heldFromStatus

/-- The case has just been created: it is a draft, and its creation is all its history. -/
def Db.JustCreated (d : Db) (caseId : Id) : Prop :=
  ∃ c, d.serviceCase.get? caseId = some c ∧ c.status = .draft ∧ c.heldFromStatus = none ∧
    d.moves caseId = [⟨none, .draft⟩]

lemma Db.JustCreated.onJourney {d : Db} {caseId : Id} (h : d.JustCreated caseId) :
    d.OnJourney caseId := by
  obtain ⟨c, hc, hs, hh, hm⟩ := h
  refine ⟨c, hc, ?_⟩
  rw [hs, hh, hm]
  exact .start

/-- The status changes that the machine knows: from the status of `c` to `dst`, with the
way back `held` afterwards. -/
def Legal (c : ServiceCase) (dst : CaseStatus) (held : Option CaseStatus) : Prop :=
  (CaseEdge c.status dst ∧ held = c.heldFromStatus) ∨
    (caseMachine.MayHold c.status ∧ dst = .onHold ∧ held = some c.status) ∨
    (c.heldFromStatus = some dst ∧ held = none)

lemma moves_moveCase (d : Db) (i : Id) (c : ServiceCase) (dst : CaseStatus)
    (held : Option CaseStatus) (a : Option Id) (r : Option String) (caseId : Id) :
    (d.moveCase i c dst held a r).moves caseId =
      if i = caseId then d.moves caseId ++ [⟨some c.status, dst⟩] else d.moves caseId := by
  by_cases h : i = caseId <;>
    simp [Db.moves, Db.moveCase, Db.insertRow, Db.modifyRow, Db.tick, h]

/-- **A legal status change continues the journey**, of the case it is about and of every
other one. -/
theorem Db.OnJourney.moveCase {d : Db} {caseId i : Id} {c : ServiceCase}
    (h : d.OnJourney caseId) (hc : d.serviceCase.get? i = some c) {dst : CaseStatus}
    {held : Option CaseStatus} (hlegal : Legal c dst held) (a : Option Id)
    (r : Option String) : (d.moveCase i c dst held a r).OnJourney caseId := by
  obtain ⟨c', hc', hj⟩ := h
  by_cases hi : i = caseId
  · subst hi
    obtain rfl : c' = c := Option.some.inj (hc'.symm.trans hc)
    refine ⟨_, (get?_moveCase d hc dst held a r i).trans (if_pos rfl), ?_⟩
    rw [moves_moveCase, if_pos rfl]
    rcases hlegal with ⟨hedge, rfl⟩ | ⟨hmay, rfl, rfl⟩ | ⟨hback, rfl⟩
    · have hnone := hj.held_eq_none (caseMachine.source_ne_hold hedge)
      show caseMachine.Journey _ dst c'.heldFromStatus
      rw [hnone] at hj ⊢
      exact hj.advance hedge
    · rw [hj.held_eq_none (caseMachine.mayHold_ne_hold hmay)] at hj
      exact hj.suspend hmay
    · rw [hback] at hj
      have hs : c'.status = caseMachine.hold := (hj.of_held rfl).1
      show caseMachine.Journey (_ ++ [⟨some c'.status, dst⟩]) dst none
      rw [hs]
      exact hj.resume
  · refine ⟨c', ?_, ?_⟩
    · rw [get?_moveCase d hc, if_neg hi, hc']
    · rwa [moves_moveCase, if_neg hi]

/-- What neither touches the case nor its history does not touch its journey. -/
lemma Db.OnJourney.congr {d d' : Db} {caseId : Id} (h : d.OnJourney caseId)
    (hcase : d'.serviceCase = d.serviceCase)
    (hhist : d'.caseStatusHistory = d.caseStatusHistory) : d'.OnJourney caseId := by
  obtain ⟨c, hc, hj⟩ := h
  refine ⟨c, by rw [hcase, hc], ?_⟩
  rwa [Db.moves, hhist]

/-! ## The methods that write the status -/

/-- A call of one of the methods, by any user and about any case. -/
inductive CaseOp
  | transitionCase (actor : AuthenticatedUser) (caseId : Id) (toStatus : CaseStatus)
      (reason : Option String)
  | systemTransitionCase (caseId : Id) (toStatus : CaseStatus) (reason : Option String)
  | holdCase (actor : AuthenticatedUser) (caseId : Id) (reason : String)
  | resumeCase (actor : AuthenticatedUser) (caseId : Id) (reason : Option String)
  | raiseDispute (actor : AuthenticatedUser) (caseId : Id)
      (dto : CasesService.RaiseDisputeDto)
  | resolveDispute (actor : AuthenticatedUser) (caseId : Id) (note : Option String)
  | recordApproval (actor : AuthenticatedUser) (caseId : Id) (action : ApprovalAction)
      (note : Option String)

/-- The call, run alone to its end: it returns, or it throws in one of its checks. -/
def CaseOp.step (d : Db) : CaseOp → Db
  | transitionCase actor i s r => (CasesService.transitionCase actor i s r).exec d
  | systemTransitionCase i s r => (CasesService.systemTransitionCase i s r).exec d
  | holdCase actor i r => (CasesService.holdCase actor i r).exec d
  | resumeCase actor i r => (CasesService.resumeCase actor i r).exec d
  | raiseDispute actor i dto => (CasesService.raiseDispute actor i dto).exec d
  | resolveDispute actor i n => (CasesService.resolveDispute actor i n).exec d
  | recordApproval actor i act n => (CasesService.recordApproval actor i act n).exec d

/-- A transition that the table allows continues every journey. -/
lemma applyTransition_journey {d : Db} {caseId : Id} (h : d.OnJourney caseId) (i : Id)
    (toStatus : CaseStatus) (reason : Option String) (actorId : Option Id) :
    ((CasesService.applyTransition i toStatus reason actorId).exec d).OnJourney caseId := by
  rcases CasesService.applyTransition_exec d i toStatus reason actorId with
    heq | ⟨c, hc, hmem, heq⟩
  · rwa [heq]
  · rw [heq]
    exact h.moveCase hc (Or.inl ⟨Or.inl hmem, rfl⟩) _ _

/-- **Every method refines the machine.** -/
theorem CaseOp.step_journey {d : Db} {caseId : Id} (o : CaseOp) (h : d.OnJourney caseId) :
    (o.step d).OnJourney caseId := by
  cases o with
  | transitionCase actor i s r => exact applyTransition_journey h i s r _
  | systemTransitionCase i s r => exact applyTransition_journey h i s r _
  | holdCase actor i r =>
    rcases CasesService.holdCase_exec d i actor r with heq | ⟨c, hc, h₁, h₂, h₃, heq⟩
    · rwa [CaseOp.step, heq]
    · rw [CaseOp.step, heq]
      exact h.moveCase hc (Or.inr (Or.inl ⟨⟨h₁, h₂, h₃⟩, rfl, rfl⟩)) _ _
  | resumeCase actor i r =>
    rcases CasesService.resumeCase_exec d i actor r with heq | ⟨c, back, hc, -, hb, heq⟩
    · rwa [CaseOp.step, heq]
    · rw [CaseOp.step, heq]
      exact h.moveCase hc (Or.inr (Or.inr ⟨hb, rfl⟩)) _ _
  | raiseDispute actor i dto =>
    rcases CasesService.raiseDispute_exec d i actor dto with heq | ⟨c, cu, hc, hs, heq⟩
    · rwa [CaseOp.step, heq]
    · rw [CaseOp.step, heq]
      apply Db.OnJourney.moveCase
      · exact h.congr rfl rfl
      · exact hc
      · exact Or.inl ⟨Or.inr (Or.inl ⟨hs, rfl⟩), rfl⟩
  | resolveDispute actor i n =>
    rcases CasesService.resolveDispute_exec d i actor n with
      heq | ⟨c, d₁, hc, hs, hd₁, heq⟩
    · rwa [CaseOp.step, heq]
    · have hlegal : Legal c .additionalWork c.heldFromStatus :=
        Or.inl ⟨Or.inr (Or.inr ⟨hs, rfl⟩), rfl⟩
      rw [CaseOp.step, heq]
      rcases hd₁ with rfl | ⟨j, f, rfl⟩
      · exact h.moveCase hc hlegal _ _
      · apply Db.OnJourney.moveCase
        · exact h.congr rfl rfl
        · exact hc
        · exact hlegal
  | recordApproval actor i act n =>
    rcases CasesService.recordApproval_exec d i actor act n with heq | ⟨c, hc, hcases⟩
    · rwa [CaseOp.step, heq]
    · have h₁ : (CasesService.approvalRow d i actor act n).OnJourney caseId := h.congr rfl rfl
      rcases hcases with heq | ⟨-, hs, heq⟩ | ⟨-, hs, heq⟩
      · rwa [CaseOp.step, heq]
      · -- The approval moves the case twice: to APPROVED, and from there to COMPLETED.
        rw [CaseOp.step, heq]
        have hlegal : Legal c .approved c.heldFromStatus :=
          Or.inl ⟨Or.inl (by rw [hs]; decide), rfl⟩
        have hc₁ : (CasesService.approvalRow d i actor act n).serviceCase.get? i = some c := hc
        apply Db.OnJourney.moveCase
        · exact h₁.moveCase hc₁ hlegal _ _
        · rw [get?_moveCase _ hc₁, if_pos rfl]
        · exact Or.inl ⟨Or.inl (show .completed ∈ transitions .approved by decide), rfl⟩
      · rw [CaseOp.step, heq]
        exact h₁.moveCase hc (Or.inl ⟨Or.inl (by rw [hs]; decide), rfl⟩) _ _

/-! ## Every run -/

/-- What the status, the way back and the history of a case satisfy at every moment.  The
last part is about the history with each hold deleted together with the resume from it; a
hold that has not ended yet is the one row that may be left. -/
structure LifecycleOk (d : Db) (caseId : Id) (c : ServiceCase) : Prop where
  found : d.serviceCase.get? caseId = some c
  onHold_iff : c.status = .onHold ↔ c.heldFromStatus.isSome
  held_ne : ∀ s, c.heldFromStatus = some s → s ≠ .onHold ∧ s ≠ .completed ∧ s ≠ .closed
  chain : (d.moves caseId).IsChain fun m n => n.source = some m.target
  last : (d.moves caseId).getLast?.map Move.target = some c.status
  edges : ∀ m ∈ Machine.dropDetours .onHold (d.moves caseId),
    m = ⟨none, .draft⟩ ∨ (∃ s, m.source = some s ∧ CaseEdge s m.target) ∨
      (c.status = .onHold ∧ m = ⟨c.heldFromStatus, .onHold⟩)

lemma Db.OnJourney.lifecycleOk {d : Db} {caseId : Id} (h : d.OnJourney caseId) :
    ∃ c, LifecycleOk d caseId c := by
  obtain ⟨c, hc, hj⟩ := h
  refine ⟨c, hc, hj.eq_hold_iff, ?_, hj.linked, hj.getLast?, fun m hm => ?_⟩
  · intro s hs
    exact (hj.of_held hs).2.1
  · rcases hj.proper_of_mem_dropDetours hm with hproper | hopen
    · obtain ⟨source, target⟩ := m
      cases source with
      | none => exact Or.inl (congrArg (Move.mk none) hproper)
      | some s => exact Or.inr (Or.inl ⟨s, rfl, hproper⟩)
    · exact Or.inr (Or.inr hopen)

/-- **The life of a case.**  From its creation as a draft on, and after any calls of the
methods that write the status, each of which may also throw, a case is on hold exactly when
it remembers where to resume to, that is never ON_HOLD, COMPLETED or CLOSED, its history is
a chain that ends in its status, and apart from holds every row of the history is an edge of
the transition table or one of the two moves of a dispute. -/
theorem lifecycle_invariant (d : Db) (caseId : Id) (h : d.JustCreated caseId)
    (os : List CaseOp) :
    AllStates CaseOp.step (fun d' => ∃ c, LifecycleOk d' caseId c) d os := by
  have hrun : AllStates CaseOp.step (fun d' => d'.OnJourney caseId) d os :=
    invariant (I := (Db.OnJourney · caseId)) (fun _ o hd => o.step_journey hd)
      h.onJourney os
  exact hrun.mono fun _ hd => hd.lifecycleOk

/-- A database in which one case has just been created. -/
def newCaseDb : Db where
  clock := 2
  serviceCase := Table.empty.insert
    { customerId := 0, serviceType := .propertyInspection, description := "Site visit"
      location := "Lekki", status := .draft }
  caseStatusHistory := Table.empty.insert ⟨0, none, .draft, some 0, none, 1⟩

theorem lifecycle_invariant_newCaseDb :
    AllStates CaseOp.step (fun d' => ∃ c, LifecycleOk d' 0 c) newCaseDb
      [.transitionCase ⟨1, .caseManager⟩ 0 .submitted none,
       .holdCase ⟨1, .caseManager⟩ 0 "Waiting for a document",
       .transitionCase ⟨1, .caseManager⟩ 0 .underReview none,
       .resumeCase ⟨1, .caseManager⟩ 0 none] :=
  lifecycle_invariant newCaseDb 0 ⟨_, rfl, rfl, rfl, rfl⟩ _

end Asoju
