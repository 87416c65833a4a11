/-
Ratings: the customer's opinion of a finished case.

A case is rated once.  The rating then goes into the score of everyone who has an assignment on the
case, and for an agent into the tier; neither looks at what has become of the assignment.  The audit
event that follows the rating is left out.
-/
import Asoju.AgentTiering
import Asoju.Assignments

namespace Asoju

open Lib

/-- Someone who can be graded. -/
inductive Assignee
  | agent (id : Id)
  | provider (id : Id)
deriving DecidableEq, Repr

/-- The assignment is one of the agent's or of the provider's. -/
def Assignment.isFor (g : Assignee) (a : Assignment) : Bool :=
  match g with
  | .agent i => a.agentId = some i
  | .provider i => a.providerId = some i

/-- An agent apart from the grades. -/
def Agent.ungraded (a : Agent) : Agent :=
  { a with performanceScore := none, tier := .bronze, qcPassRate := none }

/-- A provider apart from the grades. -/
def Provider.ungraded (p : Provider) : Provider := { p with performanceScore := none }

/-- The database after something that has changed the people alone, until the time `t`. -/
def Db.withPeople (d : Db) (agents : Table Agent) (providers : Table Provider) (t : Time) : Db :=
  { d with agent := agents, provider := providers, clock := t }

/-- The stars for the cases that the agent or the provider has an assignment on. -/
def Db.starsOf (d : Db) (g : Assignee) : List ℤ :=
  (d.rating.values.filter fun r => d.assignment.values.any fun a =>
    a.caseId = r.caseId ∧ a.isFor g).map Rating.stars

/-- The mean, if there is one. -/
def average (stars : List ℤ) : Option ℚ :=
  if stars.length = 0 then none else some ((stars.sum : ℚ) / stars.length)

namespace RatingsService

def recomputeAgentScore (agentId : Id) : Svc Unit := do
  let result ← Prisma.query .rating fun d => average (d.starsOf (.agent agentId))
  let _ ← Prisma.update .agent agentId fun _ a => { a with performanceScore := result }
  let _ ← AgentTieringService.recomputeAgentTier agentId

def recomputeProviderScore (providerId : Id) : Svc Unit := do
  let result ← Prisma.query .rating fun d => average (d.starsOf (.provider providerId))
  let _ ← Prisma.update .provider providerId fun _ p => { p with performanceScore := result }

/-- The rating goes into the score of the person with the assignment. -/
def rollInto (a : Assignment) : Svc Unit :=
  match a.role, a.agentId, a.providerId with
  | .fieldAgent, some agentId, _ => recomputeAgentScore agentId
  | .provider, _, some providerId => recomputeProviderScore providerId
  | _, _, _ => return ()

def rollUp : List Assignment → Svc Unit
  | [] => return ()
  | a :: assignments => do
      rollInto a
      rollUp assignments

def ratableStatuses : List CaseStatus := [.completed, .closed]

/-- A case with its assignments, and whether it has been rated. -/
structure RatedCase where
  serviceCase : ServiceCase
  assignments : List Assignment
  rated : Bool
deriving DecidableEq, Repr

def isRated (d : Db) (caseId : Id) : Bool := d.rating.values.any fun r => r.caseId = caseId

def ratedCase (d : Db) (caseId : Id) : Option RatedCase :=
  (d.serviceCase.get? caseId).map fun serviceCase =>
    ⟨serviceCase, d.assignment.values.filter fun a => a.caseId = caseId, isRated d caseId⟩

def rateCase (actor : AuthenticatedUser) (caseId : Id) (stars : ℤ) (comment : Option String) :
    Svc Id := do
  let some x ← Prisma.query .serviceCase (ratedCase · caseId)
    | throw (.notFound "Case not found")
  if x.serviceCase.status ∉ ratableStatuses then
    throw (.badRequest "Only a completed case can be rated")
  if x.rated then throw (.conflict "This case has already been rated")
  let rating ← Prisma.createUnique .rating (isRated · caseId) fun _ =>
    ⟨caseId, actor.id, stars, comment⟩
  rollUp x.assignments
  return rating

/-- The case can be rated. -/
def Ratable (d : Db) (caseId : Id) : Prop :=
  (d.serviceCase.get? caseId).any (fun c => c.status ∈ ratableStatuses) = true ∧
    isRated d caseId = false

/-! ## The service in closed form -/

section Run

variable (d : Db)

/-- The scores and the tiers of two people with one assignment at most change. -/
lemma recomputeAgentScore_exec (agentId : Id) :
    ∃ u t, (∀ a, (u a).ungraded = a.ungraded) ∧ (recomputeAgentScore agentId).exec d =
      d.withPeople (d.agent.modify agentId u) d.provider t := by
  have hrun : (recomputeAgentScore agentId).exec d = ((Prisma.update .agent agentId fun _ a =>
      { a with performanceScore := average (d.starsOf (.agent agentId)) }) >>= fun _ =>
        AgentTieringService.recomputeAgentTier agentId >>= fun _ => pure ()).exec d := rfl
  rw [hrun, Prog.exec, Prog.run_bind, Prisma.run_update]
  cases (Rel.agent.get d).get? agentId with
  | none =>
    exact ⟨fun a => { a with performanceScore := average (d.starsOf (.agent agentId)) },
      d.clock + 1, fun _ => rfl, rfl⟩
  | some a =>
    dsimp only
    rw [← Prog.exec, Prog.exec_bind_pure, Prog.exec, AgentTieringService.recomputeAgentTier_run]
    split
    · exact ⟨fun a => { a with performanceScore := average (d.starsOf (.agent agentId)) },
        d.clock + 1, fun _ => rfl, rfl⟩
    · refine ⟨_, _, ?_, congrArg (fun t => Db.withPeople d t d.provider _)
        (Table.modify_modify d.agent agentId _ _)⟩
      exact fun _ => rfl

lemma recomputeProviderScore_exec (providerId : Id) :
    ∃ u t, (∀ p, (u p).ungraded = p.ungraded) ∧ (recomputeProviderScore providerId).exec d =
      d.withPeople d.agent (d.provider.modify providerId u) t := by
  refine ⟨fun p => { p with performanceScore := average (d.starsOf (.provider providerId)) },
    d.clock + 1, fun _ => rfl, ?_⟩
  rw [recomputeProviderScore, Prog.exec, Prog.run_bind_ok (Prisma.run_query ..), ← Prog.exec,
    Prog.exec_bind_pure, Prog.exec, Prisma.run_update]
  split <;> rfl

/-- What an assignment leads to: the grades of the person with the assignment change. -/
lemma rollInto_exec (a : Assignment) :
    (rollInto a).exec d = d ∨
      (∃ i u t, a.agentId = some i ∧ (∀ b, (u b).ungraded = b.ungraded) ∧
        (rollInto a).exec d = d.withPeople (d.agent.modify i u) d.provider t) ∨
      ∃ i u t, a.providerId = some i ∧ (∀ p, (u p).ungraded = p.ungraded) ∧
        (rollInto a).exec d = d.withPeople d.agent (d.provider.modify i u) t := by
  rw [rollInto]
  split
  case h_1 agentId _ hi =>
    obtain ⟨u, t, hu, heq⟩ := recomputeAgentScore_exec d agentId
    exact Or.inr (Or.inl ⟨agentId, u, t, hi, hu, heq⟩)
  case h_2 providerId _ hi =>
    obtain ⟨u, t, hu, heq⟩ := recomputeProviderScore_exec d providerId
    exact Or.inr (Or.inr ⟨providerId, u, t, hi, hu, heq⟩)
  case h_3 => exact Or.inl rfl

/-- A rating is refused, or it is recorded and goes into the grades. -/
lemma rateCase_exec (actor : AuthenticatedUser) (caseId : Id) (stars : ℤ)
    (comment : Option String) :
    (¬ Ratable d caseId ∧ (rateCase actor caseId stars comment).exec d = d) ∨
      (Ratable d caseId ∧ (rateCase actor caseId stars comment).exec d =
        (rollUp (d.assignment.values.filter fun a => a.caseId = caseId)).exec
          (d.insertRow .rating ⟨caseId, actor.id, stars, comment⟩)) := by
  rw [rateCase, Prog.exec, Prog.run_bind_ok (Prisma.run_query ..), ratedCase, Ratable]
  cases d.serviceCase.get? caseId with
  | none => exact Or.inl ⟨by simp, rfl⟩
  | some c =>
    dsimp only [Option.map_some]
    by_cases hs : c.status ∉ ratableStatuses
    · rw [if_pos hs]
      exact Or.inl ⟨by simp [hs], rfl⟩
    · rw [if_neg hs]
      by_cases hrated : isRated d caseId = true
      · rw [if_pos hrated]
        exact Or.inl ⟨by simp [hrated], rfl⟩
      · have hcreate : (Prisma.createUnique .rating (isRated · caseId) fun _ =>
            ⟨caseId, actor.id, stars, comment⟩).run d =
              (.ok d.rating.next, d.insertRow .rating ⟨caseId, actor.id, stars, comment⟩) := by
          rw [Prisma.run_createUnique, if_neg hrated]
          rfl
        rw [if_neg hrated, Prog.run_bind_ok hcreate, ← Prog.exec, Prog.exec_bind_pure]
        refine Or.inr ⟨⟨?_, by simpa using hrated⟩, rfl⟩
        rw [Option.any_some, decide_eq_true_eq]
        exact not_not.mp hs

end Run

end RatingsService

end Asoju
