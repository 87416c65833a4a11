/-
The tiers of the agents: a function of their scores and of how many of their reviews they pass.

A tier is computed again after every review of a case that the agent has an assignment on, after
every rating of such a case, and by the sweep over the active agents.  Fewer than three reviews are
no sample.  `rank_tierOf_pass` and `rank_tierOf_fail` say that one more review moves the tier in its
own direction, also where it completes the sample.
-/
import Asoju.Prisma
import Mathlib.Tactic.Linarith

namespace Asoju

open Lib

/-- The tiers from the lowest on. -/
def AgentTier.rank : AgentTier → ℕ
  | .bronze => 0
  | .silver => 1
  | .gold => 2

/-- The database after something that has changed the agents alone, until the time `t`. -/
def Db.withAgents (d : Db) (agents : Table Agent) (t : Time) : Db :=
  { d with agent := agents, clock := t }

/-- The outcomes of the reviews of the cases that the agent has an assignment on. -/
def Db.qcOutcomesOf (d : Db) (agentId : Id) : List QcOutcome :=
  (d.qcReview.values.filter fun r => d.assignment.values.any fun a =>
    a.caseId = r.caseId ∧ a.agentId = some agentId ∧ a.role = .fieldAgent).map QcReview.outcome

namespace AgentTieringService

def passingQcOutcomes : List QcOutcome := [.approved, .passWithLimitation]

def minQcSample : ℕ := 3

structure QcPassRateResult where
  qcPassRate : Option ℚ
  sampleSize : ℕ
deriving DecidableEq, Repr

/-- The share of the outcomes that are passes. -/
def passRateOf (outcomes : List QcOutcome) : QcPassRateResult :=
  if outcomes.length = 0 then ⟨none, 0⟩
  else
    let passing := outcomes.countP (· ∈ passingQcOutcomes)
    ⟨some (passing / outcomes.length), outcomes.length⟩

def computeQcPassRate (agentId : Id) : Svc QcPassRateResult :=
  Prisma.query .qcReview fun d => passRateOf (d.qcOutcomesOf agentId)

def determineTier (performanceScore : Option ℚ) (result : QcPassRateResult) : AgentTier :=
  if result.sampleSize < minQcSample then .bronze
  else match performanceScore, result.qcPassRate with
    | some score, some qcPassRate =>
        if 9 / 2 ≤ score ∧ 9 / 10 ≤ qcPassRate then .gold
        else if 7 / 2 ≤ score ∧ 3 / 4 ≤ qcPassRate then .silver
        else .bronze
    | _, _ => .bronze

def recomputeAgentTier (agentId : Id) : Svc Agent := do
  let some agent ← Prisma.findUnique .agent agentId
    | throw (.notFound "Agent not found")
  let qcResult ← computeQcPassRate agentId
  let tier := determineTier agent.performanceScore qcResult
  Prisma.update .agent agentId fun _ a => { a with tier, qcPassRate := qcResult.qcPassRate }

/-- One agent after the other; it returns their tiers. -/
def recomputeEach : List Id → Svc (List AgentTier)
  | [] => return []
  | agentId :: agentIds => do
      let updated ← recomputeAgentTier agentId
      let tiers ← recomputeEach agentIds
      return updated.tier :: tiers

/-- The agents with an assignment on the case, whatever its status is. -/
def agentsOfCase (d : Db) (caseId : Id) : List Id :=
  ((d.assignment.values.filter fun a => a.caseId = caseId ∧ a.role = .fieldAgent).filterMap
    Assignment.agentId).eraseDups

def recomputeAgentsForCase (caseId : Id) : Svc Unit := do
  let agentIds ← Prisma.query .assignment (agentsOfCase · caseId)
  let _ ← recomputeEach agentIds

/-- How many agents were looked at, and in which tiers they are. -/
structure TierSweep where
  recomputed : ℕ
  bronze : ℕ
  silver : ℕ
  gold : ℕ
deriving DecidableEq, Repr

def activeAgents (d : Db) : List Id :=
  (d.agent.rows.filter fun p => p.2.isActive).map Prod.fst

def recomputeAllTiers : Svc TierSweep := do
  let agents ← Prisma.query .agent activeAgents
  let tiers ← recomputeEach agents
  return ⟨agents.length, tiers.count .bronze, tiers.count .silver, tiers.count .gold⟩

/-! ## One more review -/

/-- The tier for a score and the outcomes of the reviews. -/
def tierOf (score : Option ℚ) (outcomes : List QcOutcome) : AgentTier :=
  determineTier score (passRateOf outcomes)

section Monotone

variable {score : Option ℚ} {outcomes : List QcOutcome}

/-- The passes among the outcomes. -/
def passes (outcomes : List QcOutcome) : ℕ := outcomes.countP (· ∈ passingQcOutcomes)

lemma passes_le_length : passes outcomes ≤ outcomes.length := List.countP_le_length

/-- A share of at least `a / b`, without a division. -/
lemma le_share_iff {a b p n : ℕ} (hb : 0 < b) (hn : 0 < n) :
    (a : ℚ) / b ≤ (p : ℚ) / n ↔ a * n ≤ b * p := by
  have hb' : (0 : ℚ) < b := by exact_mod_cast hb
  have hn' : (0 : ℚ) < n := by exact_mod_cast hn
  rw [div_le_div_iff₀ hb' hn', mul_comm (p : ℚ)]
  exact_mod_cast Iff.rfl

lemma tierOf_of_lt (h : outcomes.length < 3) : tierOf score outcomes = .bronze := by
  have hsample : (passRateOf outcomes).sampleSize < minQcSample := by
    rw [passRateOf, minQcSample]
    split_ifs
    · decide
    · exact h
  unfold tierOf determineTier
  rw [if_pos hsample]

/-- The tier of an agent with a score and enough reviews, by the numbers of reviews. -/
lemma tierOf_of_le (h : 3 ≤ outcomes.length) (s : ℚ) :
    tierOf (some s) outcomes =
      if 9 / 2 ≤ s ∧ 9 * outcomes.length ≤ 10 * passes outcomes then .gold
      else if 7 / 2 ≤ s ∧ 3 * outcomes.length ≤ 4 * passes outcomes then .silver
      else .bronze := by
  have hpos : 0 < outcomes.length := by omega
  have hgold := le_share_iff (a := 9) (b := 10) (p := passes outcomes) (by omega) hpos
  have hsilver := le_share_iff (a := 3) (b := 4) (p := passes outcomes) (by omega) hpos
  have hrate : passRateOf outcomes =
      ⟨some ((passes outcomes : ℚ) / outcomes.length), outcomes.length⟩ := by
    rw [passRateOf, if_neg (by omega), passes]
  have hsample : ¬ outcomes.length < minQcSample := not_lt.mpr h
  push_cast at hgold hsilver
  unfold tierOf determineTier
  rw [hrate, if_neg hsample]
  simp only [hgold, hsilver]

lemma tierOf_none : tierOf none outcomes = .bronze := by
  unfold tierOf determineTier
  split_ifs <;> rfl

lemma silver_le_iff :
    1 ≤ (tierOf score outcomes).rank ↔
      3 ≤ outcomes.length ∧ (∃ s, score = some s ∧ 7 / 2 ≤ s) ∧
        3 * outcomes.length ≤ 4 * passes outcomes := by
  by_cases h : 3 ≤ outcomes.length
  · cases score with
    | none => simp [tierOf_none, AgentTier.rank]
    | some s =>
      rw [tierOf_of_le h]
      split_ifs with hgold hsilver
      · have hshare : 3 * outcomes.length ≤ 4 * passes outcomes := by omega
        exact iff_of_true (by decide) ⟨h, ⟨s, rfl, by linarith [hgold.1]⟩, hshare⟩
      · exact iff_of_true (by decide) ⟨h, ⟨s, rfl, hsilver.1⟩, hsilver.2⟩
      · refine iff_of_false (by decide) ?_
        rintro ⟨-, ⟨s', hs', hscore⟩, hshare⟩
        obtain rfl := Option.some.inj hs'
        exact hsilver ⟨hscore, hshare⟩
  · rw [tierOf_of_lt (by omega)]
    exact iff_of_false (by decide) fun hall => h hall.1

lemma gold_le_iff :
    2 ≤ (tierOf score outcomes).rank ↔
      3 ≤ outcomes.length ∧ (∃ s, score = some s ∧ 9 / 2 ≤ s) ∧
        9 * outcomes.length ≤ 10 * passes outcomes := by
  by_cases h : 3 ≤ outcomes.length
  · cases score with
    | none => simp [tierOf_none, AgentTier.rank]
    | some s =>
      rw [tierOf_of_le h]
      split_ifs with hgold
      · exact iff_of_true (by decide) ⟨h, ⟨s, rfl, hgold.1⟩, hgold.2⟩
      all_goals
        refine iff_of_false (by decide) ?_
        rintro ⟨-, ⟨s', hs', hscore⟩, hshare⟩
        obtain rfl := Option.some.inj hs'
        exact hgold ⟨hscore, hshare⟩
  · rw [tierOf_of_lt (by omega)]
    exact iff_of_false (by decide) fun hall => h hall.1

/-- Two tiers, threshold by threshold. -/
lemma rank_le_rank {t t' : AgentTier} (hsilver : 1 ≤ t.rank → 1 ≤ t'.rank)
    (hgold : 2 ≤ t.rank → 2 ≤ t'.rank) : t.rank ≤ t'.rank := by
  cases t <;> cases t' <;> simp_all [AgentTier.rank]

/-- **A pass never lowers the tier.** -/
theorem rank_tierOf_pass {o : QcOutcome} (ho : o ∈ passingQcOutcomes) :
    (tierOf score outcomes).rank ≤ (tierOf score (outcomes ++ [o])).rank := by
  have hlength : (outcomes ++ [o]).length = outcomes.length + 1 := List.length_append
  have hpasses : passes (outcomes ++ [o]) = passes outcomes + 1 := by
    rw [passes, List.countP_append, List.countP_singleton, if_pos (by simpa using ho), passes]
  apply rank_le_rank
  · rw [silver_le_iff, silver_le_iff, hlength, hpasses]
    rintro ⟨hsample, hscore, hshare⟩
    exact ⟨by omega, hscore, by omega⟩
  · rw [gold_le_iff, gold_le_iff, hlength, hpasses]
    rintro ⟨hsample, hscore, hshare⟩
    exact ⟨by omega, hscore, by omega⟩

/-- **A fail never raises the tier**, not even the one that completes the sample. -/
theorem rank_tierOf_fail {o : QcOutcome} (ho : o ∉ passingQcOutcomes) :
    (tierOf score (outcomes ++ [o])).rank ≤ (tierOf score outcomes).rank := by
  have hlength : (outcomes ++ [o]).length = outcomes.length + 1 := List.length_append
  have hpasses : passes (outcomes ++ [o]) = passes outcomes := by
    rw [passes, List.countP_append, List.countP_singleton, if_neg (by simpa using ho), passes]
    rfl
  have hle : passes outcomes ≤ outcomes.length := passes_le_length
  apply rank_le_rank
  · rw [silver_le_iff, silver_le_iff, hlength, hpasses]
    rintro ⟨hsample, hscore, hshare⟩
    exact ⟨by omega, hscore, by omega⟩
  · rw [gold_le_iff, gold_le_iff, hlength, hpasses]
    rintro ⟨hsample, hscore, hshare⟩
    exact ⟨by omega, hscore, by omega⟩

end Monotone

/-! ## The service in closed form -/

section Run

variable (d : Db)

/-- An agent after a recomputation in the state `d`. -/
def retiered (agentId : Id) (score : Option ℚ) (a : Agent) : Agent :=
  { a with
    tier := tierOf score (d.qcOutcomesOf agentId)
    qcPassRate := (passRateOf (d.qcOutcomesOf agentId)).qcPassRate }

lemma recomputeAgentTier_run (agentId : Id) :
    (recomputeAgentTier agentId).run d = match d.agent.get? agentId with
      | none => (.error (.notFound "Agent not found"), d)
      | some a => (.ok (retiered d agentId a.performanceScore a),
          d.modifyRow .agent agentId (retiered d agentId a.performanceScore)) := by
  have hfind : (Prisma.findUnique .agent agentId).run d = (.ok (d.agent.get? agentId), d) := rfl
  rw [recomputeAgentTier, Prog.run_bind_ok hfind]
  cases h : d.agent.get? agentId with
  | none => rfl
  | some a =>
    dsimp only
    rw [computeQcPassRate, Prog.run_bind_ok (Prisma.run_query ..)]
    exact Prisma.run_update_of_some (r := .agent) h fun _ => retiered d agentId a.performanceScore

/-- Recomputations change the agents and nothing else, and fail on the first one that is not
there. -/
lemma recomputeEach_run (agentIds : List Id) :
    ∃ r agents t, d.clock ≤ t ∧ (recomputeEach agentIds).run d = (r, d.withAgents agents t) ∧
      (r.isOk = true ↔ ∀ agentId ∈ agentIds, (d.agent.get? agentId).isSome = true) := by
  induction agentIds generalizing d with
  | nil => exact ⟨.ok [], d.agent, d.clock, le_rfl, rfl, by simp [Except.isOk, Except.toBool]⟩
  | cons agentId agentIds ih =>
    rw [recomputeEach, Prog.run_bind, recomputeAgentTier_run]
    cases hagent : d.agent.get? agentId with
    | none =>
      refine ⟨.error (.notFound "Agent not found"), d.agent, d.clock, le_rfl, rfl, ?_⟩
      refine iff_of_false (by simp [Except.isOk, Except.toBool]) fun h => ?_
      simpa [hagent] using h agentId List.mem_cons_self
    | some a =>
      dsimp only
      obtain ⟨r, agents, t, hclock, hrun, hok⟩ :=
        ih (d.modifyRow .agent agentId (retiered d agentId a.performanceScore))
      have hlater : d.clock ≤ t := le_trans (by simp [Db.modifyRow, Db.tick]) hclock
      -- the agents that were there still are
      have hsame : ∀ j, ((d.modifyRow .agent agentId
          (retiered d agentId a.performanceScore)).agent.get? j).isSome =
            (d.agent.get? j).isSome := by
        intro j
        show ((d.agent.modify agentId _).get? j).isSome = _
        rw [Table.get?_modify]
        split_ifs <;> simp
      simp only [hsame] at hok
      rw [Prog.run_bind, hrun]
      cases r with
      | error e =>
        refine ⟨.error e, agents, t, hlater, rfl, ?_⟩
        simpa [hagent, Except.isOk, Except.toBool] using hok
      | ok tiers =>
        refine ⟨.ok _, agents, t, hlater, rfl, ?_⟩
        simpa [hagent, Except.isOk, Except.toBool] using hok

lemma recomputeAgentsForCase_run (caseId : Id) :
    ∃ r agents t, d.clock ≤ t ∧
      (recomputeAgentsForCase caseId).run d = (r, d.withAgents agents t) ∧
      (r.isOk = true ↔
        ∀ agentId ∈ agentsOfCase d caseId, (d.agent.get? agentId).isSome = true) := by
  obtain ⟨r, agents, t, hclock, hrun, hok⟩ := recomputeEach_run d (agentsOfCase d caseId)
  rw [recomputeAgentsForCase, Prog.run_bind_ok (Prisma.run_query ..), Prog.run_bind, hrun]
  cases r with
  | error e => exact ⟨.error e, agents, t, hclock, rfl, hok⟩
  | ok tiers => exact ⟨.ok (), agents, t, hclock, rfl, hok⟩

end Run

end AgentTieringService

end Asoju
