/-
The life of a case under concurrent calls.

`Lifecycle` is about calls that run one after the other.  Here the methods that write the status of
a case run concurrently, one access to the database at a time, and a case may move from a status
that it has left already: it may be submitted after it has been closed, or scheduled again after the
visit.  What no interleaving can do is skip a stage.  Among the statuses that a case has shown there
is always a walk along the edges of the machine, in their order, from DRAFT to the present status
(`CaseOp.walks`), so that a completed case has been quoted, paid for, assigned, worked on, reviewed
and approved.
-/
import Asoju.Lib.Walks
import Asoju.Lifecycle

namespace Asoju

open Lib

/-! ## What a call writes -/

/-- What a call that has seen the case as `a` makes of the case `b`. -/
inductive CaseWrite (a b : ServiceCase) : ServiceCase → Prop
  | move {dst : CaseStatus} (h : CaseEdge a.status dst) : CaseWrite a b { b with status := dst }
  | hold (h : caseMachine.MayHold a.status) :
      CaseWrite a b { b with status := .onHold, heldFromStatus := some a.status }
  | resume {dst : CaseStatus} (h : a.heldFromStatus = some dst) :
      CaseWrite a b { b with status := dst, heldFromStatus := none }

/-- The same for cases that may be missing. -/
def CaseWrites (x y z : Option ServiceCase) : Prop :=
  ∃ a b c, x = some a ∧ y = some b ∧ z = some c ∧ CaseWrite a b c

/-- The row of a case. -/
def caseRow (caseId : Id) (d : Db) : Option ServiceCase := d.serviceCase.get? caseId

/-- A program that writes a case only on the grounds of what it has seen of it. -/
abbrev CaseInformed {α : Type} (caseId : Id) (seen : List (Option ServiceCase)) (m : Svc α) :
    Prop := m.Informed (caseRow caseId) CaseWrites seen

section Informed

variable {α β : Type} {caseId i : Id} {seen : List (Option ServiceCase)}

/-- A look at a case: the program goes on with what it has seen. -/
lemma informed_find {f : Option ServiceCase → Svc α} (hnone : CaseInformed caseId seen (f none))
    (hsome : ∀ c seen', (i = caseId → some c ∈ seen') → CaseInformed caseId seen' (f (some c))) :
    CaseInformed caseId seen (Prisma.findUnique .serviceCase i >>= f) := by
  refine .read_bind fun d => ?_
  cases hget : (Rel.serviceCase.get d).get? i with
  | none => exact hnone.mono (List.subset_append_left _ _)
  | some c =>
    refine hsome c _ ?_
    rintro rfl
    exact List.mem_append_right _ (List.mem_singleton.mpr hget.symm)

/-- A write of a case that comes of what has been seen. -/
lemma informed_update {f : Time → ServiceCase → ServiceCase} {g : ServiceCase → Svc α}
    (hwrite : i = caseId → ∃ a, some a ∈ seen ∧ ∀ t b, CaseWrite a b (f t b))
    (hg : ∀ c, CaseInformed caseId seen (g c)) :
    CaseInformed caseId seen (Prisma.update .serviceCase i f >>= g) := by
  intro d
  have hrow : caseRow caseId (d.modifyRow .serviceCase i (f d.clock)) =
      (d.serviceCase.modify i (f d.clock)).get? caseId := rfl
  constructor
  · by_cases hi : i = caseId
    · subst hi
      obtain ⟨a, ha, hwrites⟩ := hwrite rfl
      rw [hrow, Table.get?_modify_self]
      cases hget : d.serviceCase.get? i with
      | none => exact Or.inl hget.symm
      | some b =>
        refine Or.inr ⟨some a, List.mem_append_left _ ha, a, b, f d.clock b, rfl, hget, rfl, ?_⟩
        exact hwrites d.clock b
    · refine Or.inl ?_
      rw [hrow, Table.get?_modify_of_ne _ (Ne.symm hi)]
      rfl
  · refine Prog.Informed.mono ?_ (List.subset_append_left _ _)
    beta_reduce
    cases (Rel.serviceCase.get d).get? i with
    | none => trivial
    | some b => exact hg (f d.clock b)

/-- A look at something else. -/
lemma informed_query {m : Model} {q : Db → β} {f : β → Svc α}
    (h : ∀ b, CaseInformed caseId seen (f b)) :
    CaseInformed caseId seen (Prisma.query m q >>= f) :=
  .read_bind fun d => (h (q d)).mono (List.subset_append_left _ _)

/-- A write that does not touch the cases. -/
lemma informed_other {m : Svc β} {f : β → Svc α}
    (hm : m.EachStep fun _ d d' => d'.serviceCase = d.serviceCase)
    (hf : ∀ b, CaseInformed caseId seen (f b)) : CaseInformed caseId seen (m >>= f) := by
  refine .bind (.of_eachStep (hm.mono fun l d d' h => ?_) seen) hf
  rw [caseRow, h]
  rfl

end Informed

namespace CasesService

variable {caseId i : Id} {seen : List (Option ServiceCase)}

lemma informed_applyTransition (toStatus : CaseStatus) (reason : Option String)
    (actorId : Option Id) :
    CaseInformed caseId seen (applyTransition i toStatus reason actorId) := by
  refine informed_find trivial fun c seen' hseen => ?_
  change CaseInformed caseId seen' (assertValidTransition c.status toStatus >>= _)
  rw [assertValidTransition]
  by_cases hmem : toStatus ∈ transitions c.status
  · rw [if_pos hmem]
    refine informed_update (fun hi => ⟨c, hseen hi, fun t b => .move (Or.inl hmem)⟩) fun c' => ?_
    exact informed_other (fun d => ⟨rfl, trivial⟩) fun _ => trivial
  · rw [if_neg hmem]
    trivial

lemma informed_holdCase (actor : AuthenticatedUser) (reason : String) :
    CaseInformed caseId seen (holdCase actor i reason) := by
  refine informed_find trivial fun c seen' hseen => ?_
  by_cases hheld : c.status = .onHold
  · simp only [if_pos hheld]
    trivial
  by_cases hend : c.status = .completed ∨ c.status = .closed
  · simp only [if_neg hheld, if_pos hend]
    trivial
  simp only [if_neg hheld, if_neg hend]
  rw [not_or] at hend
  refine informed_update (fun hi => ⟨c, hseen hi, fun t b => .hold ⟨hheld, hend⟩⟩) fun c' => ?_
  exact informed_other (fun d => ⟨rfl, trivial⟩) fun _ => trivial

lemma informed_resumeCase (actor : AuthenticatedUser) (reason : Option String) :
    CaseInformed caseId seen (resumeCase actor i reason) := by
  refine informed_find trivial fun c seen' hseen => ?_
  cases hback : c.heldFromStatus with
  | none =>
    simp only [hback]
    trivial
  | some back =>
    simp only [hback]
    by_cases hheld : c.status ≠ .onHold
    · simp only [if_pos hheld]
      trivial
    · simp only [if_neg hheld]
      refine informed_update (fun hi => ⟨c, hseen hi, fun t b => .resume hback⟩) fun c' => ?_
      exact informed_other (fun d => ⟨rfl, trivial⟩) fun _ => trivial

lemma informed_raiseDispute (actor : AuthenticatedUser) (dto : RaiseDisputeDto) :
    CaseInformed caseId seen (raiseDispute actor i dto) := by
  refine informed_find trivial fun c seen' hseen => ?_
  by_cases hreview : c.status ≠ .customerReview
  · simp only [if_pos hreview]
    trivial
  simp only [if_neg hreview]
  rw [not_not] at hreview
  refine informed_query fun tasks => ?_
  by_cases hlength : tasks.length ≠ dto.disputedTaskIds.length
  · simp only [if_pos hlength]
    trivial
  simp only [if_neg hlength]
  refine .bind (informed_query fun customer => ?_) fun customerId => ?_
  · cases customer <;> trivial
  refine informed_other (fun d => ⟨rfl, trivial⟩) fun dispute => ?_
  refine informed_other (fun d => ⟨rfl, trivial⟩) fun _ => ?_
  refine informed_update
    (fun hi => ⟨c, hseen hi, fun t b => .move (Or.inr (Or.inl ⟨hreview, rfl⟩))⟩) fun c' => ?_
  exact informed_other (fun d => ⟨rfl, trivial⟩) fun _ => trivial

lemma informed_resolveDispute (actor : AuthenticatedUser) (note : Option String) :
    CaseInformed caseId seen (resolveDispute actor i note) := by
  refine informed_find trivial fun c seen' hseen => ?_
  by_cases hdisputed : c.status ≠ .disputed
  · simp only [if_pos hdisputed]
    trivial
  simp only [if_neg hdisputed]
  rw [not_not] at hdisputed
  refine informed_query fun dispute => ?_
  -- What follows, whether or not there is a dispute to resolve.
  have hrest : CaseInformed caseId seen' (do
      let _ ← Prisma.update .serviceCase i fun _ c => { c with status := .additionalWork }
      let _ ← Prisma.create .caseStatusHistory fun t =>
        { caseId := i, fromStatus := some .disputed, toStatus := .additionalWork
          changedById := some actor.id
          reason := some (note.getD "Dispute accepted — rework scheduled on disputed items")
          createdAt := t }
      pure () : Svc Unit) := by
    refine informed_update
      (fun hi => ⟨c, hseen hi, fun t b => .move (Or.inr (Or.inr ⟨hdisputed, rfl⟩))⟩) fun c' => ?_
    exact informed_other (fun d => ⟨rfl, trivial⟩) fun _ => trivial
  cases dispute with
  | none => exact hrest
  | some p =>
    refine informed_other (fun d => ⟨rfl, ?_⟩) fun _ => hrest
    beta_reduce
    cases (Rel.dispute.get d).get? p.1 <;> trivial

lemma informed_recordApproval (actor : AuthenticatedUser) (action : ApprovalAction)
    (note : Option String) : CaseInformed caseId seen (recordApproval actor i action note) := by
  refine informed_find trivial fun c seen' _ => ?_
  refine informed_other (fun d => ⟨rfl, trivial⟩) fun approval => ?_
  split
  · refine .bind (informed_applyTransition _ _ _) fun _ => ?_
    exact .bind (informed_applyTransition _ _ _) fun _ => trivial
  · split
    · exact .bind (informed_applyTransition _ _ _) fun _ => trivial
    · trivial

end CasesService

/-! ## The walks of a case -/

/-- A move of the machine, or none. -/
def CaseMove (src dst : CaseStatus) : Prop := src = dst ∨ CaseEdge src dst

/-- The statuses of a list of rows. -/
def caseStatuses (h : List (Option ServiceCase)) : List CaseStatus :=
  h.filterMap (Option.map ServiceCase.status)

/-- The status that the case has apart from holds, or that it resumes to. -/
def ServiceCase.Stands (c : ServiceCase) (s : CaseStatus) : Prop :=
  (c.status = s ∧ s ≠ .onHold) ∨ c.heldFromStatus = some s

/-- The case is there, and a walk through the statuses shown leads to where it stands. -/
def CaseWalked (h : List (Option ServiceCase)) (x : Option ServiceCase) : Prop :=
  ∃ c, x = some c ∧ ∀ s, c.Stands s → WalkTo CaseMove (caseStatuses h) s

lemma caseStatuses_concat (h : List (Option ServiceCase)) (c : ServiceCase) :
    caseStatuses (h ++ [some c]) = caseStatuses h ++ [c.status] := by
  simp [caseStatuses]

lemma CaseWalked.mono {h : List (Option ServiceCase)} {x : Option ServiceCase} (hx : CaseWalked h x)
    (v : Option ServiceCase) : CaseWalked (h ++ [v]) x := by
  obtain ⟨c, rfl, hwalk⟩ := hx
  refine ⟨c, rfl, fun s hs => ?_⟩
  rw [caseStatuses, List.filterMap_append]
  exact (hwalk s hs).mono _

/-- **What a call writes continues a walk.** -/
lemma CaseWrite.walked {h : List (Option ServiceCase)} {a b c : ServiceCase}
    (hwrite : CaseWrite a b c) (ha : CaseWalked h (some a)) (hb : CaseWalked h (some b)) :
    CaseWalked (h ++ [some c]) (some c) := by
  obtain ⟨_, ⟨⟩, ha⟩ := ha
  obtain ⟨_, ⟨⟩, hb⟩ := hb
  refine ⟨c, rfl, fun s hs => ?_⟩
  rw [caseStatuses_concat]
  cases hwrite with
  | @move dst hedge =>
    rcases hs with ⟨rfl, -⟩ | hheld
    · have hstands : a.Stands a.status := Or.inl ⟨rfl, caseMachine.source_ne_hold hedge⟩
      exact (ha _ hstands).move (Or.inr hedge)
    · exact (hb s (Or.inr hheld)).mono _
  | hold hmay =>
    rcases hs with ⟨rfl, hne⟩ | hheld
    · exact absurd rfl hne
    · obtain rfl := Option.some.inj hheld
      exact (ha _ (Or.inl ⟨rfl, caseMachine.mayHold_ne_hold hmay⟩)).mono _
  | @resume dst hback =>
    rcases hs with ⟨rfl, -⟩ | hheld
    · exact (ha _ (Or.inr hback)).move (Or.inl rfl)
    · cases hheld

lemma caseWalked_grounds : Grounds CaseWrites CaseWalked where
  mono := fun _ v _ hx => hx.mono v
  step := by
    rintro h _ _ _ ⟨a, b, c, rfl, rfl, rfl, hwrite⟩ ha hb
    exact hwrite.walked ha hb

/-! ## The stages of a case -/

/-- The statuses that lead from the creation of a case to its completion. -/
def caseStages : List CaseStatus :=
  [.draft, .submitted, .underReview, .quoted, .awaitingPayment, .scheduled, .assigned, .inProgress,
    .evidenceSubmitted, .qualityControl, .customerReview, .approved, .completed]

/-- How far a case has come: rework and disputes follow the review by the customer. -/
def CaseStatus.stage : CaseStatus → ℕ
  | .additionalWork => 10
  | .disputed => 10
  | s => if s ∈ caseStages then caseStages.idxOf s else 0

/-- A move reaches no further stage, or it is the one step to the next. -/
lemma CaseMove.stage_cases {src dst : CaseStatus} (h : CaseMove src dst) :
    dst.stage ≤ src.stage ∨
      (dst.stage = src.stage + 1 ∧ dst = caseStages.getD dst.stage .draft) := by
  have htable : ∀ dst ∈ transitions src, dst.stage ≤ src.stage ∨
      (dst.stage = src.stage + 1 ∧ dst = caseStages.getD dst.stage .draft) := by
    cases src <;> decide
  rcases h with rfl | hmem | ⟨rfl, rfl⟩ | ⟨rfl, rfl⟩
  · exact Or.inl le_rfl
  · exact htable dst hmem
  · decide
  · decide

lemma CaseStatus.stage_lt (s : CaseStatus) : s.stage < caseStages.length := by
  cases s <;> decide

/-- The stages up to a status. -/
lemma take_caseStages (n : ℕ) (hn : n < caseStages.length) :
    (List.range (n + 1)).map (caseStages.getD · .draft) = caseStages.take (n + 1) := by
  revert n
  decide

/-! ## Calls that run concurrently -/

namespace CaseOp

/-- The call as a program. -/
def code : CaseOp → Svc Unit
  | transitionCase actor i s r => CasesService.transitionCase actor i s r >>= fun _ => pure ()
  | systemTransitionCase i s r => CasesService.systemTransitionCase i s r >>= fun _ => pure ()
  | holdCase actor i r => CasesService.holdCase actor i r >>= fun _ => pure ()
  | resumeCase actor i r => CasesService.resumeCase actor i r >>= fun _ => pure ()
  | raiseDispute actor i dto => CasesService.raiseDispute actor i dto >>= fun _ => pure ()
  | resolveDispute actor i n => CasesService.resolveDispute actor i n
  | recordApproval actor i act n => CasesService.recordApproval actor i act n >>= fun _ => pure ()

/-- No call writes a case out of nothing. -/
lemma informed (caseId : Id) (o : CaseOp) : CaseInformed caseId [] o.code := by
  cases o with
  | transitionCase actor i s r =>
    exact .bind (CasesService.informed_applyTransition _ _ _) fun _ => trivial
  | systemTransitionCase i s r =>
    exact .bind (CasesService.informed_applyTransition _ _ _) fun _ => trivial
  | holdCase actor i r => exact .bind (CasesService.informed_holdCase _ _) fun _ => trivial
  | resumeCase actor i r => exact .bind (CasesService.informed_resumeCase _ _) fun _ => trivial
  | raiseDispute actor i dto =>
    exact .bind (CasesService.informed_raiseDispute _ _) fun _ => trivial
  | resolveDispute actor i n => exact CasesService.informed_resolveDispute _ _
  | recordApproval actor i act n =>
    exact .bind (CasesService.informed_recordApproval _ _ _) fun _ => trivial

/-- The database after calls have run concurrently, from `d` on. -/
def after (d : Db) (es : List (Event CaseOp)) : Db :=
  (runFrom (Pool.step code) (Pool.idle d) es).shared

/-- The statuses that a case shows meanwhile. -/
def shownStatuses (caseId : Id) (d : Db) (es : List (Event CaseOp)) : List CaseStatus :=
  caseStatuses (shows (Pool.step code) (fun p => caseRow caseId p.shared) (Pool.idle d) es)

/-- **No stage of a case is skipped**, however the calls of the methods that write the status, by
any users and about any cases, are interleaved.  Where a case stands, there is a walk along the
edges of the machine through statuses that it has shown, in their order and from DRAFT on, that
leads there; and so it has shown all stages up to that one, in their order. -/
theorem walks {d : Db} {caseId : Id} {c : ServiceCase} (hc : d.serviceCase.get? caseId = some c)
    (hdraft : c.status = .draft) (hheld : c.heldFromStatus = none) (es : List (Event CaseOp)) :
    ∃ c', (after d es).serviceCase.get? caseId = some c' ∧ ∀ s, c'.Stands s →
      WalkTo CaseMove (shownStatuses caseId d es) s ∧
        (caseStages.take (s.stage + 1)).Sublist (shownStatuses caseId d es) := by
  have hstart : CaseWalked [caseRow caseId d] (caseRow caseId d) := by
    rw [caseRow, hc]
    refine ⟨c, rfl, ?_⟩
    rintro s (⟨rfl, -⟩ | hs)
    · exact .start CaseMove c.status
    · rw [hheld] at hs
      cases hs
  obtain ⟨c', hc', hwalk⟩ := Pool.grounded (fun o => informed caseId o) caseWalked_grounds hstart es
  refine ⟨c', hc', fun s hs => ⟨hwalk s hs, ?_⟩⟩
  have hfirst : (shownStatuses caseId d es).head? = some .draft := by
    have hhead : (shows (Pool.step code) (fun p => caseRow caseId p.shared)
        (Pool.idle d) es).head? = some (caseRow caseId d) := head?_shows _ es
    obtain ⟨rest, hrest⟩ := List.head?_eq_some_iff.mp hhead
    have hrow : caseRow caseId d = some c := hc
    rw [shownStatuses, hrest, ← hdraft]
    simp only [hrow, caseStatuses, List.filterMap_cons, Option.map_some, List.head?_cons]
  rw [← take_caseStages _ s.stage_lt]
  exact (hwalk s hs).milestones hfirst rfl fun x z hmove => hmove.stage_cases

/-- A case is closed, and a call that has seen it as a draft submits it all the same. -/
def lateSubmission : List (Event CaseOp) :=
  [.start (.systemTransitionCase 0 .submitted none), .start (.systemTransitionCase 0 .closed none),
    .sched 0, .sched 1, .sched 1, .sched 0]

theorem walks_newCaseDb :
    ∃ c', (after newCaseDb lateSubmission).serviceCase.get? 0 = some c' ∧ ∀ s, c'.Stands s →
      WalkTo CaseMove (shownStatuses 0 newCaseDb lateSubmission) s ∧
        (caseStages.take (s.stage + 1)).Sublist (shownStatuses 0 newCaseDb lateSubmission) :=
  walks rfl rfl rfl _

end CaseOp

end Asoju
