/-
Who is graded by the ratings and the reviews of a case.

Two runs of the same calls are compared: in the second one the ratings and the QC reviews of one
case are left out.  What someone's grades are made of lies in the rows that both runs share as long
as the person has no assignment on the case.  But an assignment counts whatever has become of it,
so that a rating or a review of the case reaches those who have declined it as well; and a decline
comes too late for what has been recorded before.
-/
import Asoju.Assignments
import Asoju.Lib.Lockstep
import Asoju.QualityControl
import Asoju.Ratings

namespace Asoju

open Lib

/-! ## The two runs -/

inductive GradingOp
  | createAssignment (actor : AuthenticatedUser) (caseId : Id)
      (dto : AssignmentsService.CreateAssignmentDto)
  | acceptAssignment (actor : AuthenticatedUser) (assignmentId : Id)
  | declineAssignment (actor : AuthenticatedUser) (assignmentId : Id)
  | rateCase (actor : AuthenticatedUser) (caseId : Id) (stars : ℤ) (comment : Option String)
  | performQc (actor : AuthenticatedUser) (caseId : Id) (dto : EvidenceService.PerformQcDto)
  | recomputeAllTiers
  | transitionCase (actor : AuthenticatedUser) (caseId : Id) (toStatus : CaseStatus)
      (reason : Option String)

namespace EvidenceService

/-- The review of a case, with `record` in the place of its record. -/
def performQcRecording (record : Svc Unit) (actor : AuthenticatedUser) (caseId : Id)
    (dto : PerformQcDto) : Svc QcResult := do
  let some serviceCase ← Prisma.findUnique .serviceCase caseId
    | throw (.notFound "Case not found")
  if serviceCase.status ∉ qcEligibleStatuses then
    throw (.badRequest s!"Cannot perform QC on a case in status {serviceCase.status.name}")
  startReview actor caseId serviceCase
  record
  followUp actor caseId dto

lemma performQc_eq (actor : AuthenticatedUser) (caseId : Id) (dto : PerformQcDto) :
    performQc actor caseId dto =
      performQcRecording (recordReview actor caseId dto) actor caseId dto := rfl

/-- A review that is not recorded. -/
def performQcUnrecorded (actor : AuthenticatedUser) (caseId : Id) (dto : PerformQcDto) :
    Svc QcResult :=
  performQcRecording (AgentTieringService.recomputeAgentsForCase caseId) actor caseId dto

end EvidenceService

namespace GradingOp

def step (d : Db) : GradingOp → Db
  | createAssignment actor i dto => (AssignmentsService.createAssignment actor i dto).exec d
  | acceptAssignment actor i => (AssignmentsService.acceptAssignment actor i).exec d
  | declineAssignment actor i => (AssignmentsService.declineAssignment actor i).exec d
  | rateCase actor i stars comment => (RatingsService.rateCase actor i stars comment).exec d
  | performQc actor i dto => (EvidenceService.performQc actor i dto).exec d
  | recomputeAllTiers => AgentTieringService.recomputeAllTiers.exec d
  | transitionCase actor i toStatus reason =>
      (CasesService.transitionCase actor i toStatus reason).exec d

/-- The step without the ratings and the QC reviews of the case `k`. -/
def stepWithout (k : Id) (d : Db) : GradingOp → Db
  | rateCase actor i stars comment => if i = k then d else step d (rateCase actor i stars comment)
  | performQc actor i dto =>
      if i = k then (EvidenceService.performQcUnrecorded actor i dto).exec d
      else step d (performQc actor i dto)
  | o => step d o

end GradingOp

/-! ## What is compared -/

/-- Someone's grades; providers have a score only. -/
structure Grades where
  performanceScore : Option ℚ
  qcPassRate : Option ℚ := none
  tier : Option AgentTier := none
deriving DecidableEq, Repr

def Agent.grades (a : Agent) : Grades := ⟨a.performanceScore, a.qcPassRate, some a.tier⟩

def Provider.grades (p : Provider) : Grades := { performanceScore := p.performanceScore }

def Assignee.isAgent : Assignee → Bool
  | .agent _ => true
  | .provider _ => false

/-- The tables that matter here. -/
structure Scene where
  cases : Table ServiceCase
  assignments : Table Assignment
  agents : Table Agent
  providers : Table Provider
  ratings : Table Rating
  reviews : Table QcReview

def Db.scene (d : Db) : Scene where
  cases := d.serviceCase
  assignments := d.assignment
  agents := d.agent
  providers := d.provider
  ratings := d.rating
  reviews := d.qcReview

def Scene.gradesOf (s : Scene) : Assignee → Option Grades
  | .agent i => (s.agents.get? i).map Agent.grades
  | .provider i => (s.providers.get? i).map Provider.grades

/-- The grades as they are stored. -/
def Db.gradesOf (d : Db) (g : Assignee) : Option Grades := d.scene.gradesOf g

/-! ## Lockstep -/

/-- An assignment apart from its times. -/
def Assignment.timeless (a : Assignment) : Assignment := { a with acceptedAt := none }

/-- The person has no assignment on the case. -/
def Unassigned (g : Assignee) (k : Id) (s : Scene) : Prop :=
  ∀ a ∈ s.assignments.values, a.caseId = k → a.isFor g = false

/-- What can count for the person is the same in both. -/
def OnPar (g : Assignee) (s s' : Scene) : Prop :=
  s'.ratings.next = s.ratings.next ∧ (g.isAgent = true → s'.reviews.next = s.reviews.next)

/-- A scene, and what it is without some ratings and reviews of the case `k`.  Apart from these they
differ in times and in grades; yet the grades of `g` are the same as long as nothing that is left
out can count for `g`. -/
structure Lockstep (g : Assignee) (k : Id) (par : Prop) (s s' : Scene) : Prop where
  cases : s'.cases = s.cases
  assignments : (s'.assignments.mapRows fun _ => Assignment.timeless) =
    s.assignments.mapRows fun _ => Assignment.timeless
  agents : (s'.agents.mapRows fun _ => Agent.ungraded) =
    s.agents.mapRows fun _ => Agent.ungraded
  providers : (s'.providers.mapRows fun _ => Provider.ungraded) =
    s.providers.mapRows fun _ => Provider.ungraded
  ratings : Table.Lacks (fun r => decide (r.caseId = k)) s'.ratings s.ratings
  reviews : Table.Lacks (fun r => decide (r.caseId = k)) s'.reviews s.reviews
  par : par → OnPar g s s'
  grades : Unassigned g k s ∨ OnPar g s s' → s'.gradesOf g = s.gradesOf g

/-- Two databases in lockstep. -/
def InStep (g : Assignee) (k : Id) (par : Prop) (d d' : Db) : Prop :=
  Lockstep g k par d.scene d'.scene

section Facts

variable {g : Assignee} {k : Id} {par : Prop} {d d' : Db}

lemma Lockstep.refl (s : Scene) : Lockstep g k par s s where
  cases := rfl
  assignments := rfl
  agents := rfl
  providers := rfl
  ratings := .refl _
  reviews := .refl _
  par := fun _ => ⟨rfl, fun _ => rfl⟩
  grades := fun _ => rfl

/-- The same pair, with another reason to be on a par. -/
lemma InStep.weaken (h : InStep g k par d d') {par' : Prop}
    (hpar : par' → OnPar g d.scene d'.scene) : InStep g k par' d d' :=
  { h with par := hpar }

/-- The assignments that count are the same. -/
lemma InStep.map_assignments (h : InStep g k par d d') :
    d'.assignment.values.map Assignment.timeless =
      d.assignment.values.map Assignment.timeless := by
  rw [← Table.values_mapRows, ← Table.values_mapRows]
  exact congrArg Table.values h.assignments

lemma InStep.map_assignment (h : InStep g k par d d') (i : Id) :
    (d'.assignment.get? i).map Assignment.timeless =
      (d.assignment.get? i).map Assignment.timeless := by
  rw [← Table.get?_mapRows d'.assignment fun _ => Assignment.timeless,
    ← Table.get?_mapRows d.assignment fun _ => Assignment.timeless]
  exact congrArg (Table.get? · i) h.assignments

lemma InStep.any_assignment (h : InStep g k par d d') {p : Assignment → Bool}
    (hp : ∀ a, p a.timeless = p a) :
    d'.assignment.values.any p = d.assignment.values.any p := by
  have hboth : ∀ l : List Assignment, l.any p = (l.map Assignment.timeless).any p := by
    intro l
    rw [List.any_map]
    exact congrArg l.any (funext fun a => (hp a).symm)
  rw [hboth, h.map_assignments, ← hboth]

/-- The outcomes that count for an agent are the same. -/
lemma InStep.qcOutcomesOf {i : Id} (h : InStep (.agent i) k par d d')
    (hp : Unassigned (.agent i) k d.scene ∨ OnPar (.agent i) d.scene d'.scene) :
    d'.qcOutcomesOf i = d.qcOutcomesOf i := by
  have hany : ∀ r : QcReview,
      (d'.assignment.values.any fun a => decide (a.caseId = r.caseId ∧ a.agentId = some i ∧
        a.role = .fieldAgent)) =
      d.assignment.values.any fun a => decide (a.caseId = r.caseId ∧ a.agentId = some i ∧
        a.role = .fieldAgent) :=
    fun r => h.any_assignment fun a => rfl
  rw [Db.qcOutcomesOf, Db.qcOutcomesOf]
  simp only [hany]
  rcases hp with hunassigned | hpar
  · -- a review of the case is not one that counts
    refine congrArg _ (h.reviews.filter_eq fun r hr => ?_)
    obtain ⟨a, ha, hcounts⟩ := List.any_eq_true.mp hr
    obtain ⟨hcase, hagent, -⟩ := of_decide_eq_true hcounts
    refine decide_eq_false fun hk => ?_
    have hnot := hunassigned a ha (hcase.trans hk)
    rw [Assignment.isFor, decide_eq_false_iff_not] at hnot
    exact hnot hagent
  · rw [show d'.qcReview = d.qcReview from h.reviews.same (hpar.2 rfl)]

/-- The stars that count are the same. -/
lemma InStep.starsOf (h : InStep g k par d d')
    (hp : Unassigned g k d.scene ∨ OnPar g d.scene d'.scene) : d'.starsOf g = d.starsOf g := by
  have hany : ∀ r : Rating,
      (d'.assignment.values.any fun a => decide (a.caseId = r.caseId ∧ a.isFor g = true)) =
      d.assignment.values.any fun a => decide (a.caseId = r.caseId ∧ a.isFor g = true) := by
    refine fun r => h.any_assignment fun a => ?_
    cases g <;> rfl
  rw [Db.starsOf, Db.starsOf]
  simp only [hany]
  rcases hp with hunassigned | hpar
  · refine congrArg _ (h.ratings.filter_eq fun r hr => ?_)
    obtain ⟨a, ha, hcounts⟩ := List.any_eq_true.mp hr
    obtain ⟨hcase, hfor⟩ := of_decide_eq_true hcounts
    refine decide_eq_false fun hk => ?_
    have hnot := hunassigned a ha (hcase.trans hk)
    rw [hfor] at hnot
    cases hnot
  · rw [show d'.rating = d.rating from h.ratings.same hpar.1]

/-! ### Recomputations -/

/-- The same people are there. -/
lemma InStep.map_agent (h : InStep g k par d d') (i : Id) :
    (d'.agent.get? i).map Agent.ungraded = (d.agent.get? i).map Agent.ungraded := by
  rw [← Table.get?_mapRows d'.agent fun _ => Agent.ungraded,
    ← Table.get?_mapRows d.agent fun _ => Agent.ungraded]
  exact congrArg (Table.get? · i) h.agents

lemma InStep.map_provider (h : InStep g k par d d') (i : Id) :
    (d'.provider.get? i).map Provider.ungraded = (d.provider.get? i).map Provider.ungraded := by
  rw [← Table.get?_mapRows d'.provider fun _ => Provider.ungraded,
    ← Table.get?_mapRows d.provider fun _ => Provider.ungraded]
  exact congrArg (Table.get? · i) h.providers

/-- Two options of which one shows what the other shows. -/
lemma both_of_map_eq {β γ : Type} {f : β → γ} {x y : Option β} (h : y.map f = x.map f) :
    (x = none ∧ y = none) ∨ ∃ a b, x = some a ∧ y = some b ∧ f b = f a := by
  cases x with
  | none => exact Or.inl ⟨rfl, Option.map_eq_none_iff.mp h⟩
  | some a =>
    obtain ⟨b, hb, hab⟩ := Option.map_eq_some_iff.mp h
    exact Or.inr ⟨a, b, rfl, hb, hab⟩

/-- Both change the grades of an agent. -/
lemma InStep.modify_agent (h : InStep g k par d d') (i : Id) {u u' : Agent → Agent}
    (hu : ∀ a, (u a).ungraded = a.ungraded) (hu' : ∀ a, (u' a).ungraded = a.ungraded)
    (hgrades : g = .agent i → Unassigned g k d.scene ∨ OnPar g d.scene d'.scene →
      ((d'.agent.get? i).map u').map Agent.grades = ((d.agent.get? i).map u).map Agent.grades) :
    InStep g k par (d.modifyRow .agent i u) (d'.modifyRow .agent i u') :=
  { h with
    agents := (Table.mapRows_modify_eq hu' i).trans
      (h.agents.trans (Table.mapRows_modify_eq hu i).symm)
    grades := by
      intro hp
      have hold := h.grades hp
      cases g with
      | provider j => exact hold
      | agent j =>
        change ((d'.agent.modify i u').get? j).map Agent.grades =
          ((d.agent.modify i u).get? j).map Agent.grades
        by_cases hj : j = i
        · subst hj
          rw [Table.get?_modify_self, Table.get?_modify_self]
          exact hgrades rfl hp
        · rw [Table.get?_modify_of_ne _ hj, Table.get?_modify_of_ne _ hj]
          exact hold }

/-- Both change the score of a provider. -/
lemma InStep.modify_provider (h : InStep g k par d d') (i : Id) {u u' : Provider → Provider}
    (hu : ∀ p, (u p).ungraded = p.ungraded) (hu' : ∀ p, (u' p).ungraded = p.ungraded)
    (hgrades : g = .provider i → Unassigned g k d.scene ∨ OnPar g d.scene d'.scene →
      ((d'.provider.get? i).map u').map Provider.grades =
        ((d.provider.get? i).map u).map Provider.grades) :
    InStep g k par (d.modifyRow .provider i u) (d'.modifyRow .provider i u') :=
  { h with
    providers := (Table.mapRows_modify_eq hu' i).trans
      (h.providers.trans (Table.mapRows_modify_eq hu i).symm)
    grades := by
      intro hp
      have hold := h.grades hp
      cases g with
      | agent j => exact hold
      | provider j =>
        change ((d'.provider.modify i u').get? j).map Provider.grades =
          ((d.provider.modify i u).get? j).map Provider.grades
        by_cases hj : j = i
        · subst hj
          rw [Table.get?_modify_self, Table.get?_modify_self]
          exact hgrades rfl hp
        · rw [Table.get?_modify_of_ne _ hj, Table.get?_modify_of_ne _ hj]
          exact hold }

open AgentTieringService RatingsService

lemma together_recomputeAgentTier (i : Id) :
    Together (InStep g k par) (fun _ _ => True) (recomputeAgentTier i) (recomputeAgentTier i) := by
  refine .of_run fun d d' h => ?_
  rw [recomputeAgentTier_run, recomputeAgentTier_run]
  rcases both_of_map_eq (h.map_agent i) with ⟨hnone, hnone'⟩ | ⟨a, a', ha, ha', hshow⟩
  · rw [hnone, hnone']
    exact ⟨_, _, _, _, rfl, rfl, .error _ _, h⟩
  · rw [ha, ha']
    refine ⟨_, _, _, _, rfl, rfl, .ok trivial,
      h.modify_agent i (fun _ => rfl) (fun _ => rfl) fun hg hp => ?_⟩
    subst hg
    have hold : ((d'.agent.get? i).map Agent.grades) = (d.agent.get? i).map Agent.grades :=
      h.grades hp
    rw [ha, ha', Option.map_some, Option.map_some, Option.some.injEq] at hold
    have hscore : a'.performanceScore = a.performanceScore := congrArg Grades.performanceScore hold
    rw [ha, ha']
    simp only [Option.map_some, Agent.grades, retiered, hscore, h.qcOutcomesOf hp]

/-- Both write the score that they find. -/
lemma together_update_agent (i : Id) :
    Together (InStep g k par) (fun _ _ => True)
      (Prisma.query .rating (fun d => average (d.starsOf (.agent i))) >>= fun result =>
        Prisma.update .agent i fun _ a => { a with performanceScore := result })
      (Prisma.query .rating (fun d => average (d.starsOf (.agent i))) >>= fun result =>
        Prisma.update .agent i fun _ a => { a with performanceScore := result }) := by
  refine .of_run fun d d' h => ?_
  have hstep : InStep g k par
      (d.modifyRow .agent i fun a => { a with performanceScore := average (d.starsOf (.agent i)) })
      (d'.modifyRow .agent i fun a =>
        { a with performanceScore := average (d'.starsOf (.agent i)) }) := by
    refine h.modify_agent i (fun _ => rfl) (fun _ => rfl) fun hg hp => ?_
    subst hg
    have hold : ((d'.agent.get? i).map Agent.grades) = (d.agent.get? i).map Agent.grades :=
      h.grades hp
    rw [h.starsOf hp]
    rcases both_of_map_eq hold with ⟨hnone, hnone'⟩ | ⟨a, a', ha, ha', hshow⟩
    · rw [hnone, hnone']
    · rw [Agent.grades, Agent.grades, Grades.mk.injEq] at hshow
      simp only [ha, ha', Option.map_some, Agent.grades, hshow]
  rw [Prog.run_bind_ok (Prisma.run_query ..), Prog.run_bind_ok (Prisma.run_query ..),
    Prisma.run_update, Prisma.run_update]
  rcases both_of_map_eq (h.map_agent i) with ⟨hnone, hnone'⟩ | ⟨a, a', ha, ha', -⟩
  · simp only [Rel.agent_get, hnone, hnone']
    exact ⟨_, _, _, _, rfl, rfl, .error _ _, hstep⟩
  · simp only [Rel.agent_get, ha, ha']
    exact ⟨_, _, _, _, rfl, rfl, .ok trivial, hstep⟩

lemma together_recomputeAgentScore (i : Id) :
    Together (InStep g k par) (fun _ _ => True) (recomputeAgentScore i)
      (recomputeAgentScore i) := by
  have heq : recomputeAgentScore i =
      (Prisma.query .rating (fun d => average (d.starsOf (.agent i))) >>= fun result =>
        Prisma.update .agent i fun _ a => { a with performanceScore := result }) >>= fun _ =>
          recomputeAgentTier i >>= fun _ => pure () := (Prog.bind_assoc ..).symm
  rw [heq]
  exact (together_update_agent i).bind fun _ _ _ =>
    (together_recomputeAgentTier i).bind fun _ _ _ => .pure trivial

lemma together_recomputeProviderScore (i : Id) :
    Together (InStep g k par) (fun _ _ => True) (recomputeProviderScore i)
      (recomputeProviderScore i) := by
  refine .of_run fun d d' h => ?_
  have hstep : InStep g k par
      (d.modifyRow .provider i fun p =>
        { p with performanceScore := average (d.starsOf (.provider i)) })
      (d'.modifyRow .provider i fun p =>
        { p with performanceScore := average (d'.starsOf (.provider i)) }) := by
    refine h.modify_provider i (fun _ => rfl) (fun _ => rfl) fun hg hp => ?_
    subst hg
    have hold : ((d'.provider.get? i).map Provider.grades) =
      (d.provider.get? i).map Provider.grades := h.grades hp
    rw [h.starsOf hp]
    rcases both_of_map_eq hold with ⟨hnone, hnone'⟩ | ⟨p, p', hp, hp', -⟩
    · rw [hnone, hnone']
    · simp only [hp, hp', Option.map_some, Provider.grades]
  rw [recomputeProviderScore, Prog.run_bind_ok (Prisma.run_query ..),
    Prog.run_bind_ok (Prisma.run_query ..), Prog.run_bind, Prog.run_bind, Prisma.run_update,
    Prisma.run_update]
  rcases both_of_map_eq (h.map_provider i) with ⟨hnone, hnone'⟩ | ⟨p, p', hp, hp', -⟩
  · simp only [Rel.provider_get, hnone, hnone']
    exact ⟨_, _, _, _, rfl, rfl, .error _ _, hstep⟩
  · simp only [Rel.provider_get, hp, hp']
    exact ⟨_, _, _, _, rfl, rfl, .ok trivial, hstep⟩

lemma together_recomputeEach (is : List Id) :
    Together (InStep g k par) (fun _ _ => True) (recomputeEach is) (recomputeEach is) := by
  induction is with
  | nil => exact .pure trivial
  | cons i is ih =>
    exact (together_recomputeAgentTier i).bind fun _ _ _ => ih.bind fun _ _ _ => .pure trivial

/-- Assignments that differ in their times count for the same people. -/
lemma together_rollInto {a a' : Assignment} (h : a'.timeless = a.timeless) :
    Together (InStep g k par) (fun _ _ => True) (rollInto a) (rollInto a') := by
  have hsame : rollInto a' = rollInto a := by
    have hrole : a'.role = a.role :=
      show a'.timeless.role = a.timeless.role from congrArg Assignment.role h
    have hagent : a'.agentId = a.agentId :=
      show a'.timeless.agentId = a.timeless.agentId from congrArg Assignment.agentId h
    have hprovider : a'.providerId = a.providerId :=
      show a'.timeless.providerId = a.timeless.providerId from congrArg Assignment.providerId h
    rw [rollInto, rollInto, hrole, hagent, hprovider]
  rw [hsame, rollInto]
  split
  · exact together_recomputeAgentScore _
  · exact together_recomputeProviderScore _
  · exact .pure trivial

lemma together_rollUp {l l' : List Assignment}
    (h : l'.map Assignment.timeless = l.map Assignment.timeless) :
    Together (InStep g k par) (fun _ _ => True) (rollUp l) (rollUp l') := by
  induction l generalizing l' with
  | nil =>
    rw [List.map_nil, List.map_eq_nil_iff] at h
    rw [h]
    exact .pure trivial
  | cons a l ih =>
    rw [List.map_cons, List.map_eq_cons_iff] at h
    obtain ⟨a', l'', rfl, ha, hl⟩ := h
    exact (together_rollInto ha).bind fun _ _ _ => ih hl

/-! ### Cases and assignments -/

/-- Both move a case. -/
lemma InStep.moveCase (h : InStep g k par d d') (i : Id) (c : ServiceCase) (toStatus : CaseStatus)
    (held : Option CaseStatus) (actorId : Option Id) (reason : Option String) :
    InStep g k par (d.moveCase i c toStatus held actorId reason)
      (d'.moveCase i c toStatus held actorId reason) :=
  { h with
    cases := congrArg
      (fun t : Table ServiceCase => t.modify i fun s =>
        { s with status := toStatus, heldFromStatus := held }) h.cases }

lemma together_findCase (i : Id) :
    Together (InStep g k par) (fun c c' => c = c') (Prisma.findUnique .serviceCase i)
      (Prisma.findUnique .serviceCase i) :=
  .read fun _ _ h => (congrArg (Table.get? · i) h.cases).symm

lemma together_applyTransition (i : Id) (toStatus : CaseStatus) (reason : Option String)
    (actorId : Option Id) :
    Together (InStep g k par) (fun _ _ => True)
      (CasesService.applyTransition i toStatus reason actorId)
      (CasesService.applyTransition i toStatus reason actorId) := by
  refine .of_run fun d d' h => ?_
  have hcase : d'.serviceCase.get? i = d.serviceCase.get? i := congrArg (Table.get? · i) h.cases
  rw [CasesService.applyTransition_run, CasesService.applyTransition_run, hcase]
  cases d.serviceCase.get? i with
  | none => exact ⟨_, _, _, _, rfl, rfl, .error _ _, h⟩
  | some c =>
    by_cases hmem : toStatus ∈ transitions c.status
    · simp only [if_pos hmem]
      exact ⟨_, _, _, _, rfl, rfl, .ok trivial, h.moveCase i c toStatus _ _ _⟩
    · simp only [if_neg hmem]
      exact ⟨_, _, _, _, rfl, rfl, .error _ _, h⟩

lemma together_transitionCase (actor : AuthenticatedUser) (i : Id) (toStatus : CaseStatus)
    (reason : Option String) :
    Together (InStep g k par) (fun _ _ => True)
      (CasesService.transitionCase actor i toStatus reason)
      (CasesService.transitionCase actor i toStatus reason) :=
  together_applyTransition i toStatus reason (some actor.id)

/-- Both offer a case to someone. -/
lemma InStep.insert_assignment (h : InStep g k par d d') (a : Assignment) :
    InStep g k par (d.insertRow .assignment a) (d'.insertRow .assignment a) :=
  { h with
    assignments := by
      change ((d'.assignment.insert a).mapRows fun _ => Assignment.timeless) =
        (d.assignment.insert a).mapRows fun _ => Assignment.timeless
      rw [Table.mapRows_insert, Table.mapRows_insert]
      exact congrArg (Table.insert · a.timeless) h.assignments
    grades := by
      rintro (hunassigned | hpar)
      · refine h.grades (Or.inl fun b hb => hunassigned b ?_)
        change b ∈ (d.assignment.insert a).values
        rw [Table.values_insert]
        exact List.mem_append_left _ hb
      · exact h.grades (Or.inr hpar) }

/-- Both change an assignment, in a way that leaves alone whose it is. -/
lemma InStep.modify_assignment (h : InStep g k par d d') (i : Id) {u u' v : Assignment → Assignment}
    (hu : ∀ a, (u a).timeless = v a.timeless) (hu' : ∀ a, (u' a).timeless = v a.timeless)
    (hcase : ∀ a, (u a).caseId = a.caseId) (hfor : ∀ a, (u a).isFor g = a.isFor g) :
    InStep g k par (d.modifyRow .assignment i u) (d'.modifyRow .assignment i u') :=
  { h with
    assignments := (Table.mapRows_modify hu' i).trans
      ((congrArg (Table.modify · i v) h.assignments).trans (Table.mapRows_modify hu i).symm)
    grades := by
      rintro (hunassigned | hpar)
      · refine h.grades (Or.inl fun b hb hk => ?_)
        obtain ⟨j, hj⟩ := d.assignment.mem_values_iff.mp hb
        have hafter : (d.assignment.modify i u).get? j = some (if j = i then u b else b) := by
          rw [Table.get?_modify]
          split_ifs <;> simp [hj]
        have hnot := hunassigned _ ((d.assignment.modify i u).mem_values_iff.mpr ⟨j, hafter⟩)
        split_ifs at hnot
        · rw [hcase, hfor] at hnot
          exact hnot hk
        · exact hnot hk
      · exact h.grades (Or.inr hpar) }

open AssignmentsService

lemma together_checkAssignee (dto : CreateAssignmentDto) :
    Together (InStep g k par) (fun _ _ => True) (checkAssignee dto) (checkAssignee dto) := by
  rw [checkAssignee]
  cases dto.role with
  | provider =>
    refine Together.bind (P := fun p p' => p'.map Provider.ungraded = p.map Provider.ungraded)
      (.read fun d d' h => ?_) fun p p' hp => ?_
    · cases dto.providerId with
      | none => rfl
      | some i => exact h.map_provider i
    · rcases both_of_map_eq hp with ⟨rfl, rfl⟩ | ⟨a, a', rfl, rfl, hshow⟩
      · exact .throw _ _
      · have hstatus : a'.status = a.status :=
          show a'.ungraded.status = a.ungraded.status from congrArg Provider.status hshow
        dsimp only
        rw [hstatus]
        split_ifs
        · exact .throw _ _
        · exact .pure trivial
  | fieldAgent =>
    refine Together.bind (P := fun p p' => p'.map Agent.ungraded = p.map Agent.ungraded)
      (.read fun d d' h => ?_) fun p p' hp => ?_
    · cases dto.agentId with
      | none => rfl
      | some i => exact h.map_agent i
    · have hactive : p'.any Agent.isActive = p.any Agent.isActive := by
        rcases both_of_map_eq hp with ⟨rfl, rfl⟩ | ⟨a, a', rfl, rfl, hshow⟩
        · rfl
        · exact (congrArg Agent.isActive hshow : a'.ungraded.isActive = a.ungraded.isActive)
      rw [hactive]
      split_ifs
      · exact .throw _ _
      · exact .pure trivial

lemma together_createAssignment (actor : AuthenticatedUser) (i : Id) (dto : CreateAssignmentDto) :
    Together (InStep g k par) (fun _ _ => True) (createAssignment actor i dto)
      (createAssignment actor i dto) := by
  refine (together_findCase i).bind fun c _ hc => ?_
  subst hc
  cases c with
  | none => exact .throw _ _
  | some c =>
    dsimp only
    by_cases hs : c.status ∉ assignableStatuses
    · rw [if_pos hs]
      exact .throw_bind _ _ _ _
    · rw [if_neg hs]
      refine (together_checkAssignee dto).bind fun _ _ _ => ?_
      refine Together.bind (P := fun _ _ => True) (.of_run fun d d' h =>
        ⟨_, _, _, _, rfl, rfl, .ok trivial, h.insert_assignment _⟩) fun _ _ _ => ?_
      split_ifs
      · exact (together_transitionCase actor i _ _).bind fun _ _ _ => .pure trivial
      · exact .pure trivial

/-- An assignment with its case, apart from its times. -/
def timelessDetail (x : AssignmentDetail) : AssignmentDetail :=
  { x with assignment := x.assignment.timeless }

lemma InStep.map_detail (h : InStep g k par d d') (i : Id) :
    (d'.assignmentDetail i).map timelessDetail = (d.assignmentDetail i).map timelessDetail := by
  have hagent : ∀ o : Option Id, (o.bind d'.agent.get?).map Agent.userId =
      (o.bind d.agent.get?).map Agent.userId := by
    intro o
    cases o with
    | none => rfl
    | some j =>
      have huser := congrArg (Option.map Agent.userId) (h.map_agent j)
      rw [Option.map_map, Option.map_map] at huser
      exact huser
  have hprovider : ∀ o : Option Id, (o.bind d'.provider.get?).map Provider.userId =
      (o.bind d.provider.get?).map Provider.userId := by
    intro o
    cases o with
    | none => rfl
    | some j =>
      have huser := congrArg (Option.map Provider.userId) (h.map_provider j)
      rw [Option.map_map, Option.map_map] at huser
      exact huser
  have hcases : d'.serviceCase = d.serviceCase := h.cases
  rcases both_of_map_eq (h.map_assignment i) with ⟨hnone, hnone'⟩ | ⟨a, a', ha, ha', hshow⟩
  · simp [Db.assignmentDetail, hnone, hnone']
  · have hcase : a'.caseId = a.caseId :=
      show a'.timeless.caseId = a.timeless.caseId from congrArg Assignment.caseId hshow
    have hagentId : a'.agentId = a.agentId :=
      show a'.timeless.agentId = a.timeless.agentId from congrArg Assignment.agentId hshow
    have hproviderId : a'.providerId = a.providerId :=
      show a'.timeless.providerId = a.timeless.providerId from congrArg Assignment.providerId hshow
    simp only [Db.assignmentDetail, ha, ha', hcases, hcase, hagentId, hproviderId,
      Option.bind_eq_bind, Option.bind_some, hagent, hprovider]
    cases d.serviceCase.get? a.caseId with
    | none => rfl
    | some c =>
      simp only [Option.bind_some, Option.pure_def, Option.map_some, timelessDetail, hshow]

lemma together_requireOwnedAssignment (actor : AuthenticatedUser) (i : Id) :
    Together (InStep g k par) (fun x x' => timelessDetail x' = timelessDetail x)
      (requireOwnedAssignment actor i) (requireOwnedAssignment actor i) := by
  refine Together.bind (P := fun x x' => x'.map timelessDetail = x.map timelessDetail)
    (.read fun d d' h => h.map_detail i) fun x x' hx => ?_
  rcases both_of_map_eq hx with ⟨rfl, rfl⟩ | ⟨y, y', rfl, rfl, hshow⟩
  · exact .throw _ _
  · have hagent : y'.agentUserId = y.agentUserId :=
      (congrArg AssignmentDetail.agentUserId hshow : (timelessDetail y').agentUserId = _)
    have hprovider : y'.providerUserId = y.providerUserId :=
      (congrArg AssignmentDetail.providerUserId hshow : (timelessDetail y').providerUserId = _)
    dsimp only
    rw [hagent, hprovider]
    split_ifs
    · exact .pure hshow
    · exact .throw_bind _ _ _ _

/-- An answer marks the assignment in both, up to the time of the answer. -/
lemma together_answer (actor : AuthenticatedUser) (i : Id) {x x' : AssignmentDetail}
    (hx : timelessDetail x' = timelessDetail x) (mark : Time → Assignment → Assignment)
    {v : Assignment → Assignment} (hmark : ∀ t a, (mark t a).timeless = v a.timeless)
    (hcase : ∀ t a, (mark t a).caseId = a.caseId)
    (hfor : ∀ t a, (mark t a).isFor g = a.isFor g) (toStatus : CaseStatus) (reason : String) :
    Together (InStep g k par) (fun _ _ => True) (answer actor i x mark toStatus reason)
      (answer actor i x' mark toStatus reason) := by
  have hcaseId : x'.assignment.caseId = x.assignment.caseId :=
    (congrArg (fun y => y.assignment.caseId) hx : (timelessDetail x').assignment.caseId = _)
  have hserviceCase : x'.serviceCase = x.serviceCase :=
    (congrArg AssignmentDetail.serviceCase hx : (timelessDetail x').serviceCase = _)
  rw [answer, answer, hcaseId, hserviceCase]
  refine Together.bind (P := fun _ _ => True) (.of_run fun d d' h => ?_) fun _ _ _ => ?_
  · have hstep := h.modify_assignment i (hmark d.clock) (hmark d'.clock) (hcase d.clock)
      (hfor d.clock)
    rw [Prisma.run_update, Prisma.run_update]
    rcases both_of_map_eq (h.map_assignment i) with ⟨hnone, hnone'⟩ | ⟨a, a', ha, ha', -⟩
    · simp only [Rel.assignment_get, hnone, hnone']
      exact ⟨_, _, _, _, rfl, rfl, .error _ _, hstep⟩
    · simp only [Rel.assignment_get, ha, ha']
      exact ⟨_, _, _, _, rfl, rfl, .ok trivial, hstep⟩
  · split_ifs
    · exact (together_transitionCase actor _ _ _).bind fun _ _ _ => .pure trivial
    · exact .pure trivial

lemma together_acceptAssignment (actor : AuthenticatedUser) (i : Id) :
    Together (InStep g k par) (fun _ _ => True) (acceptAssignment actor i)
      (acceptAssignment actor i) := by
  refine (together_requireOwnedAssignment actor i).bind fun x x' hx => ?_
  have hstatus : x'.assignment.status = x.assignment.status :=
    (congrArg (fun y => y.assignment.status) hx : (timelessDetail x').assignment.status = _)
  rw [hstatus]
  by_cases hoffered : x.assignment.status ≠ .offered
  · rw [if_pos hoffered, if_pos hoffered]
    exact .throw_bind _ _ _ _
  · rw [if_neg hoffered, if_neg hoffered]
    refine together_answer actor i hx
      (fun t a => { a with status := .accepted, acceptedAt := some t })
      (v := fun a => { a with status := .accepted }) (fun _ _ => rfl) (fun _ _ => rfl)
      (fun _ _ => ?_) _ _
    cases g <;> rfl

lemma together_declineAssignment (actor : AuthenticatedUser) (i : Id) :
    Together (InStep g k par) (fun _ _ => True) (declineAssignment actor i)
      (declineAssignment actor i) := by
  refine (together_requireOwnedAssignment actor i).bind fun x x' hx => ?_
  refine together_answer actor i hx (fun _ a => { a with status := .declined })
    (v := fun a => { a with status := .declined }) (fun _ _ => rfl) (fun _ _ => rfl)
    (fun _ _ => ?_) _ _
  cases g <;> rfl

/-! ### Reviews -/

open EvidenceService

/-- Both record a review. -/
lemma InStep.insert_review (h : InStep g k par d d') (r : QcReview) :
    InStep g k par (d.insertRow .qcReview r) (d'.insertRow .qcReview r) :=
  { h with
    reviews := h.reviews.insert r
    par := fun he => ⟨(h.par he).1, fun ha => congrArg Nat.succ ((h.par he).2 ha)⟩
    grades := by
      rintro (hunassigned | hpar)
      · exact h.grades (Or.inl hunassigned)
      · exact h.grades (Or.inr ⟨hpar.1, fun ha => Nat.succ.inj (hpar.2 ha)⟩) }

/-- Only the first one records a review of the case, which does not count for a provider. -/
lemma InStep.insert_review_left (h : InStep g k par d d') {r : QcReview} (hr : r.caseId = k)
    (hpar : par → g.isAgent = false) : InStep g k par (d.insertRow .qcReview r) d' :=
  { h with
    reviews := h.reviews.insert_left (decide_eq_true hr)
    par := by
      intro he
      refine ⟨(h.par he).1, fun ha => ?_⟩
      rw [hpar he] at ha
      cases ha
    grades := by
      rintro (hunassigned | heq)
      · exact h.grades (Or.inl hunassigned)
      · refine h.grades (Or.inr ⟨heq.1, fun ha => ?_⟩)
        have hnext : d'.qcReview.next = d.qcReview.next + 1 := heq.2 ha
        have hle : d'.qcReview.next ≤ d.qcReview.next := h.reviews.le
        omega }

/-- A row in a table that does not matter here. -/
lemma together_create {β : Type} (r : Rel β) (b b' : Time → β)
    (hr : ∀ (d : Db) (c : β), (d.insertRow r c).scene = d.scene) :
    Together (InStep g k par) (fun _ _ => True) (Prisma.create r b) (Prisma.create r b') := by
  refine .of_run fun d d' h => ⟨_, _, _, _, rfl, rfl, .ok trivial, ?_⟩
  rw [InStep, hr, hr]
  exact h

lemma together_recomputeAgentsForCase (i : Id) :
    Together (InStep g k par) (fun _ _ => True) (recomputeAgentsForCase i)
      (recomputeAgentsForCase i) := by
  refine Together.bind (P := fun l l' => l' = l) (.read fun d d' h => ?_) fun l l' hl => ?_
  · have hshow : ∀ l : List Assignment,
        (l.filter fun a => decide (a.caseId = i ∧ a.role = .fieldAgent)).filterMap
          Assignment.agentId =
        ((l.map Assignment.timeless).filter fun a => decide (a.caseId = i ∧
          a.role = .fieldAgent)).filterMap Assignment.agentId := by
      intro l
      rw [List.filter_map, List.filterMap_map]
      rfl
    rw [agentsOfCase, agentsOfCase, hshow, h.map_assignments, ← hshow]
  · subst hl
    exact (together_recomputeEach l').bind fun _ _ _ => .pure trivial

lemma together_recomputeAllTiers :
    Together (InStep g k par) (fun _ _ => True) recomputeAllTiers recomputeAllTiers := by
  refine Together.bind (P := fun l l' => l' = l) (.read fun d d' h => ?_) fun l l' hl => ?_
  · have hshow : ∀ t : Table Agent,
        (t.rows.filter fun p => p.2.isActive).map Prod.fst =
        ((t.mapRows fun _ => Agent.ungraded).rows.filter fun p => p.2.isActive).map Prod.fst := by
      intro t
      rw [Table.mapRows, List.filter_map, List.map_map]
      rfl
    rw [activeAgents, activeAgents, hshow d'.agent, hshow d.agent]
    exact congrArg (fun t : Table Agent => (t.rows.filter fun p => p.2.isActive).map Prod.fst)
      h.agents
  · subst hl
    exact (together_recomputeEach l').bind fun _ _ _ => .pure trivial

lemma together_startReview (actor : AuthenticatedUser) (i : Id) (c : ServiceCase) :
    Together (InStep g k par) (fun _ _ => True) (startReview actor i c)
      (startReview actor i c) := by
  rw [startReview]
  split_ifs
  · exact (together_transitionCase actor i _ _).bind fun _ _ _ => .pure trivial
  · exact .pure trivial

lemma together_followUp (actor : AuthenticatedUser) (i : Id) (dto : PerformQcDto) :
    Together (InStep g k par) (fun _ _ => True) (followUp actor i dto) (followUp actor i dto) := by
  have hmove : ∀ toStatus reason, Together (InStep g k par) (fun _ _ => True)
      (CasesService.transitionCase actor i toStatus reason)
      (CasesService.transitionCase actor i toStatus reason) :=
    together_transitionCase actor i
  have hissue : Together (InStep g k par) (fun _ _ => True) (issueReport actor i dto)
      (issueReport actor i dto) := by
    rw [issueReport]
    split
    · by_cases hnote : dto.outcome = .passWithLimitation ∧ isBlank dto.note = true
      · rw [if_pos hnote]
        exact .throw_bind _ _ _ _
      · rw [if_neg hnote]
        exact (together_create .report _ _ fun _ _ => rfl).bind fun _ _ _ =>
          (hmove _ _).bind fun _ _ _ => .pure trivial
    · exact .throw _ _
  have hraise : Together (InStep g k par) (fun _ _ => True) (raiseIncident actor i dto)
      (raiseIncident actor i dto) :=
    (together_create .caseRiskFlag _ _ fun _ _ => rfl).bind fun _ _ _ =>
      (together_create .incident _ _ fun _ _ => rfl).bind fun _ _ _ => .pure trivial
  rw [followUp]
  cases dto.outcome with
  | approved => exact hissue
  | passWithLimitation => exact hissue
  | rework => exact (hmove _ _).bind fun _ _ _ => .pure trivial
  | revisitRequired =>
    dsimp only
    rw [requireRevisit]
    split
    · refine Together.bind (P := fun _ _ => True) (.read fun _ _ _ => trivial) fun _ _ _ => ?_
      exact (together_create .caseTask _ _ fun _ _ => rfl).bind fun _ _ _ =>
        (hmove _ _).bind fun _ _ _ => .pure trivial
    · exact .throw _ _
  | escalate => exact hraise
  | incident => exact hraise

lemma together_recordReview (actor : AuthenticatedUser) (i : Id) (dto : PerformQcDto) :
    Together (InStep g k par) (fun _ _ => True) (recordReview actor i dto)
      (recordReview actor i dto) :=
  Together.bind (P := fun _ _ => True) (.of_run fun _ _ h =>
    ⟨_, _, _, _, rfl, rfl, .ok trivial, h.insert_review _⟩)
    fun _ _ _ => together_recomputeAgentsForCase i

/-- Both look at a case that is up for review, and go on alike. -/
lemma together_performQcRecording (actor : AuthenticatedUser) (i : Id) (dto : PerformQcDto)
    {record record' : Svc Unit}
    (hrecord : Together (InStep g k par) (fun _ _ => True) record record') :
    Together (InStep g k par) (fun _ _ => True) (performQcRecording record actor i dto)
      (performQcRecording record' actor i dto) := by
  refine (together_findCase i).bind fun c _ hc => ?_
  subst hc
  cases c with
  | none => exact .throw _ _
  | some c =>
    dsimp only
    by_cases hs : c.status ∉ qcEligibleStatuses
    · rw [if_pos hs, if_pos hs]
      exact .throw_bind _ _ _ _
    · rw [if_neg hs, if_neg hs]
      exact (together_startReview actor i c).bind fun _ _ _ =>
        hrecord.bind fun _ _ _ => together_followUp actor i dto

lemma together_performQc (actor : AuthenticatedUser) (i : Id) (dto : PerformQcDto) :
    Together (InStep g k par) (fun _ _ => True) (performQc actor i dto) (performQc actor i dto) :=
  together_performQcRecording actor i dto (together_recordReview actor i dto)

/-- The review of the case itself, which only the first one records. -/
lemma together_performQcUnrecorded (actor : AuthenticatedUser) (dto : PerformQcDto)
    (hpar : par → g.isAgent = false) :
    Together (InStep g k par) (fun _ _ => True) (performQc actor k dto)
      (performQcUnrecorded actor k dto) :=
  together_performQcRecording actor k dto (.bind_left
    (fun d _ h => ⟨_, _, Prisma.run_create .qcReview d _, h.insert_review_left rfl hpar⟩)
    fun _ => together_recomputeAgentsForCase k)

/-! ### Ratings -/

/-- Both record a rating. -/
lemma InStep.insert_rating (h : InStep g k par d d') (r : Rating) :
    InStep g k par (d.insertRow .rating r) (d'.insertRow .rating r) :=
  { h with
    ratings := h.ratings.insert r
    par := fun he => ⟨congrArg Nat.succ (h.par he).1, (h.par he).2⟩
    grades := by
      rintro (hunassigned | hpar)
      · exact h.grades (Or.inl hunassigned)
      · exact h.grades (Or.inr ⟨Nat.succ.inj hpar.1, hpar.2⟩) }

lemma together_rateCase (actor : AuthenticatedUser) {i : Id} (hi : i ≠ k) (stars : ℤ)
    (comment : Option String) :
    Together (InStep g k par) (fun _ _ => True) (rateCase actor i stars comment)
      (rateCase actor i stars comment) := by
  have hrated : ∀ d d' : Db, InStep g k par d d' → isRated d' i = isRated d i := by
    intro d d' h
    refine h.ratings.any_eq fun r hr => decide_eq_false fun hk => hi ?_
    exact (of_decide_eq_true hr).symm.trans hk
  refine Together.bind (P := fun x x' => (x = none ∧ x' = none) ∨ ∃ c l l' b,
      x = some ⟨c, l, b⟩ ∧ x' = some ⟨c, l', b⟩ ∧
        l'.map Assignment.timeless = l.map Assignment.timeless)
    (.read fun d d' h => ?_) fun x x' hx => ?_
  · have hcase : d'.serviceCase.get? i = d.serviceCase.get? i := congrArg (Table.get? · i) h.cases
    rw [ratedCase, ratedCase, hcase, hrated d d' h]
    cases d.serviceCase.get? i with
    | none => exact Or.inl ⟨rfl, rfl⟩
    | some c =>
      refine Or.inr ⟨c, _, _, _, rfl, rfl, ?_⟩
      have hshow : ∀ l : List Assignment,
          (l.filter fun a => decide (a.caseId = i)).map Assignment.timeless =
          (l.map Assignment.timeless).filter fun a => decide (a.caseId = i) := by
        intro l
        rw [List.filter_map]
        rfl
      rw [hshow, h.map_assignments, ← hshow]
  · rcases hx with ⟨rfl, rfl⟩ | ⟨c, l, l', b, rfl, rfl, hl⟩
    · exact .throw _ _
    · dsimp only
      by_cases hs : c.status ∉ ratableStatuses
      · rw [if_pos hs, if_pos hs]
        exact .throw_bind _ _ _ _
      · rw [if_neg hs, if_neg hs]
        by_cases hb : b = true
        · rw [if_pos hb, if_pos hb]
          exact .throw_bind _ _ _ _
        · rw [if_neg hb, if_neg hb]
          refine Together.bind (P := fun _ _ => True) (.of_run fun d d' h => ?_) fun _ _ _ =>
            (together_rollUp hl).bind fun _ _ _ => .pure trivial
          rw [Prisma.run_createUnique, Prisma.run_createUnique, hrated d d' h]
          split_ifs
          · exact ⟨_, _, _, _, rfl, rfl, .error _ _, h⟩
          · exact ⟨_, _, _, _, rfl, rfl, .ok trivial, h.insert_rating _⟩

/-- Only the first one records a rating of the case. -/
lemma InStep.insert_rating_left (h : InStep g k par d d') {r : Rating} (hr : r.caseId = k)
    (hpar : ¬ par) : InStep g k par (d.insertRow .rating r) d' :=
  { h with
    ratings := h.ratings.insert_left (decide_eq_true hr)
    par := fun he => absurd he hpar
    grades := by
      rintro (hunassigned | heq)
      · exact h.grades (Or.inl hunassigned)
      · have hnext : d'.rating.next = d.rating.next + 1 := heq.1
        have hle : d'.rating.next ≤ d.rating.next := h.ratings.le
        omega }

/-- Only the first one changes the grades of an agent: of another one, or of one who is not graded
by the shared rows alone. -/
lemma InStep.modify_agent_left (h : InStep g k par d d') (i : Id) {u : Agent → Agent}
    (hu : ∀ a, (u a).ungraded = a.ungraded)
    (hg : g = .agent i → ¬ (Unassigned g k d.scene ∨ OnPar g d.scene d'.scene)) (t : Time) :
    InStep g k par (d.withPeople (d.agent.modify i u) d.provider t) d' :=
  { h with
    agents := h.agents.trans (Table.mapRows_modify_eq hu i).symm
    grades := by
      intro hp
      have hold := h.grades hp
      cases g with
      | provider j => exact hold
      | agent j =>
        have hj : j ≠ i := fun hj => hg (congrArg Assignee.agent hj) hp
        have hget : (d.agent.modify i u).get? j = d.agent.get? j := Table.get?_modify_of_ne _ hj u
        exact hold.trans (congrArg (Option.map Agent.grades) hget.symm) }

lemma InStep.modify_provider_left (h : InStep g k par d d') (i : Id) {u : Provider → Provider}
    (hu : ∀ p, (u p).ungraded = p.ungraded)
    (hg : g = .provider i → ¬ (Unassigned g k d.scene ∨ OnPar g d.scene d'.scene)) (t : Time) :
    InStep g k par (d.withPeople d.agent (d.provider.modify i u) t) d' :=
  { h with
    providers := h.providers.trans (Table.mapRows_modify_eq hu i).symm
    grades := by
      intro hp
      have hold := h.grades hp
      cases g with
      | agent j => exact hold
      | provider j =>
        have hj : j ≠ i := fun hj => hg (congrArg Assignee.provider hj) hp
        have hget : (d.provider.modify i u).get? j = d.provider.get? j :=
          Table.get?_modify_of_ne _ hj u
        exact hold.trans (congrArg (Option.map Provider.grades) hget.symm) }

/-- The first one has a rating of the case that the other lacks. -/
structure Ahead (g : Assignee) (k : Id) (par : Prop) (assignments : Table Assignment)
    (d d' : Db) : Prop where
  inStep : InStep g k par d d'
  assignments : d.assignment = assignments
  ahead : d'.rating.next < d.rating.next

/-- The rating goes into the grades of the first one alone.  Whoever they belong to is not graded by
the shared rows. -/
lemma Ahead.rollInto {t : Table Assignment} (h : Ahead g k par t d d') {a : Assignment}
    (ha : a ∈ t.values) (hk : a.caseId = k) :
    (RatingsService.rollInto a).Leaves d fun d₁ => Ahead g k par t d₁ d' := by
  have hnot : a.isFor g = true → ¬ (Unassigned g k d.scene ∨ OnPar g d.scene d'.scene) := by
    rintro hfor (hunassigned | hpar)
    · have hmem : a ∈ d.assignment.values := by
        rw [h.assignments]
        exact ha
      rw [hunassigned a hmem hk] at hfor
      cases hfor
    · exact absurd hpar.1 (Nat.ne_of_lt h.ahead)
  rw [Prog.Leaves]
  rcases rollInto_exec d a with heq | ⟨i, u, t', hi, hu, heq⟩ | ⟨i, u, t', hi, hu, heq⟩
  · rw [heq]
    exact h
  · rw [heq]
    refine ⟨h.inStep.modify_agent_left i hu (fun hg => hnot ?_) t', h.assignments, h.ahead⟩
    rw [hg]
    exact decide_eq_true hi
  · rw [heq]
    refine ⟨h.inStep.modify_provider_left i hu (fun hg => hnot ?_) t', h.assignments, h.ahead⟩
    rw [hg]
    exact decide_eq_true hi

lemma Ahead.rollUp {t : Table Assignment} {l : List Assignment}
    (hl : ∀ a ∈ l, a ∈ t.values ∧ a.caseId = k) (h : Ahead g k par t d d') :
    (RatingsService.rollUp l).Leaves d fun d₁ => Ahead g k par t d₁ d' := by
  induction l generalizing d with
  | nil => exact h
  | cons a l ih =>
    obtain ⟨ha, hk⟩ := hl a (List.mem_cons_self ..)
    exact .bind_keeps (h.rollInto ha hk) fun _ d₁ h₁ =>
      ih (fun b hb => hl b (List.mem_cons_of_mem _ hb)) h₁

/-- The case can be reviewed. -/
def Reviewable (d : Db) (k : Id) : Prop :=
  (d.serviceCase.get? k).any (fun c => c.status ∈ qcEligibleStatuses) = true

/-- Only the first one has its case rated. -/
lemma InStep.rateCase_left (h : InStep g k par d d') (actor : AuthenticatedUser) (stars : ℤ)
    (comment : Option String) (hquiet : par → ¬ Ratable d k) :
    InStep g k par ((rateCase actor k stars comment).exec d) d' := by
  rcases rateCase_exec d actor k stars comment with ⟨-, heq⟩ | ⟨hratable, heq⟩
  · rw [heq]
    exact h
  · have hahead : Ahead g k par d.assignment
        (d.insertRow .rating ⟨k, actor.id, stars, comment⟩) d' :=
      ⟨h.insert_rating_left rfl fun he => hquiet he hratable, rfl,
        Nat.lt_succ_of_le h.ratings.le⟩
    rw [heq]
    refine (hahead.rollUp fun a ha => ?_).inStep
    obtain ⟨hmem, hk⟩ := List.mem_filter.mp ha
    exact ⟨hmem, of_decide_eq_true hk⟩

lemma performQcRecording_exec_of_not (hnot : ¬ Reviewable d k) (record : Svc Unit)
    (actor : AuthenticatedUser) (dto : PerformQcDto) :
    (performQcRecording record actor k dto).exec d = d := by
  have hfind : (Prisma.findUnique .serviceCase k).run d = (.ok (d.serviceCase.get? k), d) := rfl
  rw [performQcRecording, Prog.exec, Prog.run_bind_ok hfind]
  cases hc : d.serviceCase.get? k with
  | none => rfl
  | some c =>
    have hs : c.status ∉ qcEligibleStatuses := by
      intro hmem
      refine hnot ?_
      rw [Reviewable, hc, Option.any_some, decide_eq_true_eq]
      exact hmem
    dsimp only
    rw [if_pos hs]
    rfl

end Facts

namespace GradingOp

variable {g : Assignee} {k : Id} {par : Prop} {d d' : Db}

/-- The step records nothing of the case that can count for the person. -/
def Unrecorded (g : Assignee) (k : Id) (d : Db) : GradingOp → Prop
  | rateCase _ i _ _ => i = k → ¬ RatingsService.Ratable d k
  | performQc _ i _ => i = k → g.isAgent = true → ¬ Reviewable d k
  | _ => True

/-- **The step lemma**: the two runs stay in lockstep, and on a par as long as nothing that can count
for the person is recorded. -/
theorem step_inStep (o : GradingOp) (h : InStep g k par d d')
    (hquiet : par → Unrecorded g k d o) : InStep g k par (step d o) (stepWithout k d' o) := by
  cases o with
  | createAssignment actor i dto => exact (together_createAssignment actor i dto).exec h
  | acceptAssignment actor i => exact (together_acceptAssignment actor i).exec h
  | declineAssignment actor i => exact (together_declineAssignment actor i).exec h
  | rateCase actor i stars comment =>
    by_cases hi : i = k
    · subst hi
      rw [stepWithout, if_pos rfl]
      exact h.rateCase_left actor stars comment fun he => hquiet he rfl
    · rw [stepWithout, if_neg hi]
      exact (together_rateCase actor hi stars comment).exec h
  | performQc actor i dto =>
    by_cases hi : i = k
    · subst hi
      rw [stepWithout, if_pos rfl]
      by_cases hreview : Reviewable d i
      · refine (together_performQcUnrecorded actor dto fun he => ?_).exec h
        by_contra hagent
        exact hquiet he rfl (by simpa using hagent) hreview
      · -- both refuse the review
        have hreview' : ¬ Reviewable d' i := by
          have hcases : d'.serviceCase = d.serviceCase := h.cases
          rw [Reviewable, hcases]
          exact hreview
        rw [step, EvidenceService.performQc_eq, performQcRecording_exec_of_not hreview,
          EvidenceService.performQcUnrecorded, performQcRecording_exec_of_not hreview']
        exact h
    · rw [stepWithout, if_neg hi]
      exact (together_performQc actor i dto).exec h
  | recomputeAllTiers => exact together_recomputeAllTiers.exec h
  | transitionCase actor i toStatus reason =>
    exact (together_transitionCase actor i toStatus reason).exec h

/-! ### What becomes of the assignments -/

lemma rollUp_assignment (l : List Assignment) (d : Db) :
    ((RatingsService.rollUp l).exec d).assignment = d.assignment := by
  have hkeeps : ∀ d₁ : Db, d₁.assignment = d.assignment →
      (RatingsService.rollUp l).Leaves d₁ fun d₂ => d₂.assignment = d.assignment := by
    induction l with
    | nil => exact fun _ h₁ => h₁
    | cons a l ih =>
      refine fun d₁ h₁ => .bind_keeps ?_ fun _ d₂ h₂ => ih d₂ h₂
      rw [Prog.Leaves]
      rcases RatingsService.rollInto_exec d₁ a with
        heq | ⟨i, u, t, -, -, heq⟩ | ⟨i, u, t, -, -, heq⟩ <;>
      · rw [heq]
        exact h₁
  exact hkeeps d rfl

lemma rateCase_assignment (actor : AuthenticatedUser) (i : Id) (stars : ℤ)
    (comment : Option String) (d : Db) :
    ((RatingsService.rateCase actor i stars comment).exec d).assignment = d.assignment := by
  rcases RatingsService.rateCase_exec d actor i stars comment with ⟨-, heq⟩ | ⟨-, heq⟩
  · rw [heq]
  · rw [heq, rollUp_assignment]
    rfl

lemma followUp_assignment {c : ServiceCase} {i : Id} (hc : d.serviceCase.get? i = some c)
    (hs : c.status = .qualityControl) (actor : AuthenticatedUser)
    (dto : EvidenceService.PerformQcDto) :
    ((EvidenceService.followUp actor i dto).exec d).assignment = d.assignment := by
  rcases EvidenceService.followUp_exec actor hc hs dto with
    heq | ⟨summary, -, heq⟩ | ⟨d₁, reason, rfl | ⟨task, rfl⟩, heq⟩ | ⟨flag, incident, heq⟩ <;>
  · rw [heq]
    try rfl

lemma performQc_assignment (actor : AuthenticatedUser) (i : Id)
    (dto : EvidenceService.PerformQcDto) (d : Db) :
    ((EvidenceService.performQc actor i dto).exec d).assignment = d.assignment := by
  rcases EvidenceService.performQc_exec d actor i dto with
    heq | ⟨c, agents, t, -, -, hc, -, heq⟩
  · rw [heq]
  · have hreview : ((EvidenceService.reviewDb d actor i c dto).withAgents agents t).assignment =
        d.assignment := by
      rw [EvidenceService.reviewDb]
      split_ifs <;> rfl
    have hc' : ((EvidenceService.reviewDb d actor i c dto).withAgents agents t).serviceCase.get? i =
        some (EvidenceService.reviewed c) := hc
    rcases heq with heq | heq
    · rw [heq, hreview]
    · rw [heq, followUp_assignment hc' rfl, hreview]

/-- The assignments of the person on the case. -/
def Concerns (g : Assignee) (k : Id) (a : Assignment) : Prop := a.caseId = k ∧ a.isFor g = true

/-- The person has assignments on the case, and has declined them all. -/
def DeclinedOnly (g : Assignee) (k : Id) (d : Db) : Prop :=
  (∃ a ∈ d.assignment.values, Concerns g k a) ∧
    ∀ a ∈ d.assignment.values, Concerns g k a → a.status = .declined

/-- The case has a rating or a review that can count for the person. -/
def Graded (g : Assignee) (k : Id) (d : Db) : Prop :=
  RatingsService.isRated d k = true ∨
    (g.isAgent = true ∧ ∃ r ∈ d.qcReview.values, r.caseId = k)

/-- The case is not rated or reviewed while the person has declined it, and the person does not
decline it for good once it has been rated or reviewed. -/
def SparesDecliners (g : Assignee) (k : Id) (d : Db) : GradingOp → Prop
  | rateCase _ i _ _ => i = k → RatingsService.Ratable d k → ¬ DeclinedOnly g k d
  | performQc _ i _ => i = k → g.isAgent = true → Reviewable d k → ¬ DeclinedOnly g k d
  | declineAssignment actor i => ∀ x, AssignmentsService.Owns d actor i x →
      Concerns g k x.assignment → x.assignment.status ≠ .declined → Graded g k d →
        ∃ j b, j ≠ i ∧ d.assignment.get? j = some b ∧ Concerns g k b ∧ b.status ≠ .declined
  | _ => True

/-- Whose an assignment is does not change with an answer. -/
lemma declinedOnly_of_modify {t : Table Assignment} {i : Id} {u : Assignment → Assignment}
    (hd : d.assignment = t) (hd' : d'.assignment = t.modify i u)
    (hu : ∀ a, Concerns g k (u a) ↔ Concerns g k a) (h : DeclinedOnly g k d')
    (hi : ∀ a, t.get? i = some a → Concerns g k a → a.status = .declined) :
    DeclinedOnly g k d := by
  obtain ⟨⟨a, ha, hconcerns⟩, hall⟩ := h
  rw [hd'] at ha hall
  rw [DeclinedOnly, hd]
  constructor
  · obtain ⟨j, hj⟩ := (t.modify i u).mem_values_iff.mp ha
    rw [Table.get?_modify] at hj
    split_ifs at hj with hji
    · obtain ⟨b, hb, rfl⟩ := Option.map_eq_some_iff.mp hj
      exact ⟨b, t.mem_values_iff.mpr ⟨j, hb⟩, (hu b).mp hconcerns⟩
    · exact ⟨a, t.mem_values_iff.mpr ⟨j, hj⟩, hconcerns⟩
  · intro b hb hconcerns'
    obtain ⟨j, hj⟩ := t.mem_values_iff.mp hb
    by_cases hji : j = i
    · subst hji
      exact hi b hj hconcerns'
    · refine hall b ((t.modify i u).mem_values_iff.mpr ⟨j, ?_⟩) hconcerns'
      rw [Table.get?_modify_of_ne _ hji, hj]

/-- **Only a decline makes a decliner**, and one that meets the condition comes before any rating
and any review of the case. -/
lemma declinedOnly_of_step (o : GradingOp) (hspares : SparesDecliners g k d o)
    (h : DeclinedOnly g k (step d o)) :
    DeclinedOnly g k d ∨ (¬ Graded g k d ∧ Unrecorded g k d o) := by
  have hsame : (step d o).assignment = d.assignment → DeclinedOnly g k d := by
    intro heq
    rw [DeclinedOnly, heq] at h
    exact h
  cases o with
  | createAssignment actor i dto =>
    left
    rcases AssignmentsService.createAssignment_exec d actor i dto with heq | ⟨c, -, heq⟩
    · exact hsame (congrArg Db.assignment heq)
    · have hinsert : (step d (createAssignment actor i dto)).assignment =
          d.assignment.insert (AssignmentsService.newAssignment i dto) := by
        rw [step, heq, AssignmentsService.offered]
        split_ifs <;> rfl
      obtain ⟨⟨a, ha, hconcerns⟩, hall⟩ := h
      rw [hinsert, Table.values_insert] at ha hall
      -- the new assignment is not declined, so it is someone else's
      have hnew : ¬ Concerns g k (AssignmentsService.newAssignment i dto) := by
        intro hnew
        have hstatus := hall _ (List.mem_append_right _ (List.mem_singleton_self _)) hnew
        cases hstatus
      refine ⟨⟨a, ?_, hconcerns⟩, fun b hb => hall b (List.mem_append_left _ hb)⟩
      rcases List.mem_append.mp ha with ha | ha
      · exact ha
      · rw [List.mem_singleton.mp ha] at hconcerns
        exact absurd hconcerns hnew
  | acceptAssignment actor i =>
    left
    rcases AssignmentsService.acceptAssignment_exec d actor i with heq | ⟨x, -, -, heq⟩
    · exact hsame (congrArg Db.assignment heq)
    · have hmodify : (step d (acceptAssignment actor i)).assignment = d.assignment.modify i
          fun a => { a with status := .accepted, acceptedAt := some d.clock } := by
        rw [step, heq, AssignmentsService.answered]
        split_ifs <;> rfl
      refine declinedOnly_of_modify rfl hmodify (fun a => ?_) h fun a ha hconcerns => ?_
      · cases g <;> exact Iff.rfl
      · -- an accepted assignment would be left
        have hstatus := h.2 { a with status := .accepted, acceptedAt := some d.clock }
          (by
            rw [hmodify]
            exact (Table.mem_values_iff _).mpr ⟨i, by rw [Table.get?_modify_self, ha]; rfl⟩)
          (by cases g <;> exact hconcerns)
        cases hstatus
  | declineAssignment actor i =>
    rcases AssignmentsService.declineAssignment_exec d actor i with ⟨heq, -⟩ | ⟨x, howns, heq⟩
    · exact Or.inl (hsame (congrArg Db.assignment heq))
    · have hmodify : (step d (declineAssignment actor i)).assignment = d.assignment.modify i
          fun a => { a with status := .declined } := by
        rw [step, heq, AssignmentsService.answered]
        split_ifs <;> rfl
      have hx : d.assignment.get? i = some x.assignment :=
        (Db.rows_of_assignmentDetail howns.1).1
      by_cases hdeclines : Concerns g k x.assignment ∧ x.assignment.status ≠ .declined
      · refine Or.inr ⟨fun hgraded => ?_, trivial⟩
        obtain ⟨j, b, hj, hb, hconcerns, hstatus⟩ :=
          hspares x howns hdeclines.1 hdeclines.2 hgraded
        refine hstatus (h.2 b ?_ hconcerns)
        rw [hmodify]
        exact (Table.mem_values_iff _).mpr ⟨j, by rw [Table.get?_modify_of_ne _ hj, hb]⟩
      · left
        refine declinedOnly_of_modify rfl hmodify (fun a => ?_) h fun a ha hconcerns => ?_
        · cases g <;> exact Iff.rfl
        · obtain rfl := Option.some.inj (hx.symm.trans ha)
          by_contra hstatus
          exact hdeclines ⟨hconcerns, hstatus⟩
  | rateCase actor i stars comment =>
    exact Or.inl (hsame (rateCase_assignment actor i stars comment d))
  | performQc actor i dto => exact Or.inl (hsame (performQc_assignment actor i dto d))
  | recomputeAllTiers =>
    obtain ⟨r, agents, t, -, hrun, -⟩ := AgentTieringService.recomputeEach_run d
      (AgentTieringService.activeAgents d)
    have heq : (AgentTieringService.recomputeEach (AgentTieringService.activeAgents d)).exec d =
        d.withAgents agents t := congrArg Prod.snd hrun
    refine Or.inl (hsame ?_)
    rw [step, AgentTieringService.recomputeAllTiers, Prog.exec,
      Prog.run_bind_ok (Prisma.run_query ..), ← Prog.exec, Prog.exec_bind_pure, heq]
    rfl
  | transitionCase actor i toStatus reason =>
    refine Or.inl (hsame ?_)
    rcases CasesService.applyTransition_exec d i toStatus reason (some actor.id) with
      heq | ⟨c, -, -, heq⟩
    · exact congrArg Db.assignment heq
    · rw [step, CasesService.transitionCase, heq]
      rfl

/-! ### The step of a run that meets the condition -/

/-- Nothing is missing where there is nothing that can count. -/
lemma onPar_of_not_graded (h : InStep g k par d d') (hnot : ¬ Graded g k d) :
    OnPar g d.scene d'.scene := by
  constructor
  · by_contra hne
    obtain ⟨r, hr, hk⟩ := h.ratings.reason (Nat.lt_of_le_of_ne h.ratings.le hne)
    exact hnot (Or.inl (List.any_eq_true.mpr ⟨r, hr, hk⟩))
  · intro hagent
    by_contra hne
    obtain ⟨r, hr, hk⟩ := h.reviews.reason (Nat.lt_of_le_of_ne h.reviews.le hne)
    exact hnot (Or.inr ⟨hagent, r, hr, of_decide_eq_true hk⟩)

lemma unrecorded_of_declinedOnly {o : GradingOp} (hspares : SparesDecliners g k d o)
    (h : DeclinedOnly g k d) : Unrecorded g k d o := by
  cases o with
  | rateCase actor i stars comment => exact fun hi hratable => hspares hi hratable h
  | performQc actor i dto => exact fun hi hagent hreview => hspares hi hagent hreview h
  | _ => trivial

/-- **The step lemma of decliners**: the runs stay on a par for someone who has declined the case. -/
theorem step_declined (o : GradingOp) (h : InStep g k (DeclinedOnly g k d) d d')
    (hspares : SparesDecliners g k d o) :
    InStep g k (DeclinedOnly g k (step d o)) (step d o) (stepWithout k d' o) := by
  have hpar : DeclinedOnly g k (step d o) →
      OnPar g d.scene d'.scene ∧ Unrecorded g k d o := by
    intro hdeclined
    rcases declinedOnly_of_step o hspares hdeclined with hbefore | ⟨hnot, hquiet⟩
    · exact ⟨h.par hbefore, unrecorded_of_declinedOnly hspares hbefore⟩
    · exact ⟨onPar_of_not_graded h hnot, hquiet⟩
  exact step_inStep o (h.weaken fun hdeclined => (hpar hdeclined).1)
    fun hdeclined => (hpar hdeclined).2

end GradingOp

/-! ## Every run -/

/-- The person has declined all the assignments that the person has on the case. -/
def AllDeclined (g : Assignee) (k : Id) (d : Db) : Prop :=
  ∀ a ∈ d.assignment.values, a.caseId = k → a.isFor g = true → a.status = .declined

/-- Whoever has declined the case has the grades of the run without its ratings and reviews. -/
def GradedByOwnWork (g : Assignee) (k : Id) (d : Db) (os : List GradingOp) : Prop :=
  AllDeclined g k (runFrom GradingOp.step d os) →
    (runFrom GradingOp.step d os).gradesOf g =
      (runFrom (GradingOp.stepWithout k) d os).gradesOf g

/-- The tier of an agent, computed now. -/
def Db.tierNow (d : Db) (agentId : Id) : AgentTier :=
  AgentTieringService.tierOf ((d.agent.get? agentId).bind Agent.performanceScore)
    (d.qcOutcomesOf agentId)

/-- One more review moves the tier of an agent in its own direction. -/
def ReviewsCountFairly (d : Db) : Prop :=
  ∀ agentId r,
    (r.outcome ∈ AgentTieringService.passingQcOutcomes →
      (d.tierNow agentId).rank ≤ ((d.insertRow .qcReview r).tierNow agentId).rank) ∧
    (r.outcome ∉ AgentTieringService.passingQcOutcomes →
      ((d.insertRow .qcReview r).tierNow agentId).rank ≤ (d.tierNow agentId).rank)

lemma reviewsCountFairly (d : Db) : ReviewsCountFairly d := by
  intro agentId r
  have houtcomes : (d.insertRow .qcReview r).qcOutcomesOf agentId =
      d.qcOutcomesOf agentId ++ if (d.assignment.values.any fun a =>
        a.caseId = r.caseId ∧ a.agentId = some agentId ∧ a.role = .fieldAgent) then [r.outcome]
        else [] := by
    have hvalues : (d.insertRow .qcReview r).qcReview.values = d.qcReview.values ++ [r] :=
      Table.values_insert ..
    rw [Db.qcOutcomesOf, hvalues, List.filter_append, List.map_append, Db.qcOutcomesOf]
    congr 1
    by_cases hcounts : (d.assignment.values.any fun a =>
        a.caseId = r.caseId ∧ a.agentId = some agentId ∧ a.role = .fieldAgent) = true
    · rw [if_pos hcounts, List.filter_cons_of_pos (by exact hcounts)]
      rfl
    · rw [if_neg hcounts, List.filter_cons_of_neg (by exact hcounts)]
      rfl
  have hscore : (d.insertRow .qcReview r).agent = d.agent := rfl
  rw [Db.tierNow, Db.tierNow, hscore, houtcomes]
  split_ifs
  · exact ⟨AgentTieringService.rank_tierOf_pass, AgentTieringService.rank_tierOf_fail⟩
  · rw [List.append_nil]
    exact ⟨fun _ => le_rfl, fun _ => le_rfl⟩

/-- **Only people who did the work are graded by it**, in every run in which the case is not rated
or reviewed while the person has declined it, and not declined for good after that; and in every
run one more review moves a tier in its own direction. -/
theorem graded_by_own_work (g : Assignee) (k : Id) (d : Db) (os : List GradingOp)
    (hspares : AllSteps GradingOp.step (GradingOp.SparesDecliners g k) d os) :
    (∀ pre, pre <+: os → GradedByOwnWork g k d pre) ∧
      AllStates GradingOp.step ReviewsCountFairly d os := by
  refine ⟨?_, invariant (fun d' o _ => reviewsCountFairly _) (reviewsCountFairly d) os⟩
  rintro pre ⟨rest, rfl⟩ hdeclined
  have hsteps := (AllSteps.append_iff.mp hspares).1
  have hrun : InStep g k (GradingOp.DeclinedOnly g k (runFrom GradingOp.step d pre))
      (runFrom GradingOp.step d pre) (runFrom (GradingOp.stepWithout k) d pre) :=
    hsteps.related (R := fun d₁ d₂ => InStep g k (GradingOp.DeclinedOnly g k d₁) d₁ d₂)
      (fun d₁ d₂ o h hs => GradingOp.step_declined o h hs)
      (Lockstep.refl _)
  refine (hrun.grades ?_).symm
  by_cases hunassigned : Unassigned g k (runFrom GradingOp.step d pre).scene
  · exact Or.inl hunassigned
  · right
    simp only [Unassigned, not_forall, Bool.not_eq_false] at hunassigned
    obtain ⟨a, ha, hk, hfor⟩ := hunassigned
    exact hrun.par ⟨⟨a, ha, hk, hfor⟩, fun b hb hconcerns =>
      hdeclined b hb hconcerns.1 hconcerns.2⟩

/-- Two agents, a case that has been declined by the first of them and done by the second one, and
one that nobody has been asked to do yet. -/
def agencyDb : Db where
  customer := Table.empty.insert { userId := 5 }
  agent := (Table.empty.insert { userId := 21, isActive := true }).insert
    { userId := 22, isActive := true }
  serviceCase := (Table.empty.insert
    { customerId := 0, serviceType := .procurement, description := "A generator",
      location := "lagos", status := .completed }).insert
    { customerId := 0, serviceType := .procurement, description := "A pump", location := "lagos",
      status := .scheduled }
  assignment := (Table.empty.insert
    { caseId := 0, role := .fieldAgent, agentId := some 0, providerId := none,
      scheduledFor := none, status := .declined }).insert
    { caseId := 0, role := .fieldAgent, agentId := some 1, providerId := none,
      scheduledFor := none, status := .accepted }

/-- The first agent is offered the second case, and declines it too. -/
def offerAndDecline : List GradingOp :=
  [.createAssignment ⟨1, .caseManager⟩ 1 { role := .fieldAgent, agentId := some 0 },
   .declineAssignment ⟨21, .fieldAgent⟩ 2]

/-- The second case is neither rated nor reviewed, so that its decliner is graded as without it. -/
theorem graded_by_own_work_declined :
    (∀ pre, pre <+: offerAndDecline ++ [.rateCase ⟨5, .customer⟩ 0 5 none, .recomputeAllTiers] →
        GradedByOwnWork (.agent 0) 1 agencyDb pre) ∧
      AllStates GradingOp.step ReviewsCountFairly agencyDb
        (offerAndDecline ++ [.rateCase ⟨5, .customer⟩ 0 5 none, .recomputeAllTiers]) := by
  refine graded_by_own_work (.agent 0) 1 agencyDb _ ⟨trivial, ?_, ?_, trivial, trivial⟩
  · intro x _ _ _ hgraded
    exact absurd hgraded (by rw [GradingOp.Graded]; decide +kernel)
  · intro hcase
    exact absurd hcase (by decide)

/-- The rating of the first case becomes the score of the agent who has declined it. -/
theorem not_graded_by_own_work :
    ¬ GradedByOwnWork (.agent 0) 0 agencyDb [.rateCase ⟨5, .customer⟩ 0 1 none] := by
  intro h
  have hgrades := h (by rw [AllDeclined]; decide +kernel)
  revert hgrades
  decide +kernel

end Asoju
