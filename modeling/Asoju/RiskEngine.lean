/-
The risk engine: how a case is scored, and when its level does not depend on how often it is
looked at.

`assessCase` adds up points for what it finds, and the sum has a level.  Two of its factors move
when nothing about the case does.  A high level raises a flag of the engine's own, which is an open
flag like any other at the next assessment; and a case that is held while work is going on gets
another row in its history when it is resumed, which counts as one more cycle of rework.

`RiskGauge` is what of the database the score moves with, and `creep` how far up it can go.
`level_stable_iff` shows that the level is the same at every assessment exactly if `creep` does not
take the score over a threshold.  `listAssessments` and `listHighRiskCases` only read.
-/
import Asoju.Cases
import Asoju.Lib.Run

namespace Asoju

open Lib

namespace RiskEngineService

/-! ## The score -/

/-- `HIGH_RISK_LEVEL`. -/
def highRiskLevel : ℕ := 3

/-- `INCIDENT_SEVERITY_POINTS`. -/
def incidentSeverityPoints : IncidentSeverity → ℕ
  | .low => 1
  | .medium => 1
  | .high => 2
  | .critical => 3

/-- The label of the flags that the engine raises. -/
def escalationLabel : String := "Automated risk escalation"

section Factors

variable (d : Db) (caseId : Id)

/-- The flags of the case that are not resolved. -/
def openFlags : ℕ := d.caseRiskFlag.values.countP fun f => f.caseId = caseId ∧ f.resolvedAt = none

def incidentPoints : ℕ :=
  ((d.incident.values.filter fun i => i.caseId = caseId).map
    fun i => incidentSeverityPoints i.severity).sum

/-- The incidents of the customer's other cases. -/
def priorIncidents (customerId : Id) : ℕ :=
  ((d.serviceCase.rows.filter fun p => p.1 ≠ caseId ∧ p.2.customerId = customerId).map
    fun p => d.incident.values.countP fun i => i.caseId = p.1).sum

/-- The score of the agent, and without one that of the provider. -/
def assigneeScore (a : Assignment) : Option ℚ :=
  ((a.agentId.bind d.agent.get?).bind Agent.performanceScore).or
    ((a.providerId.bind d.provider.get?).bind Provider.performanceScore)

def hasLowPerformer : Bool :=
  d.assignment.values.any fun a =>
    a.caseId = caseId ∧ a.status ∈ [.offered, .accepted, .inProgress] ∧
      (assigneeScore d a).any fun score => score < 3

/-- The rows of the history that say that work on the case began. -/
def startedRows : ℕ :=
  d.caseStatusHistory.values.countP fun h => h.caseId = caseId ∧ h.toStatus = .inProgress

def highestQuote : ℚ :=
  (d.quote.values.filter fun q => q.caseId = caseId).foldl (fun m q => max m q.amount.toRat) 0

/-- What `assessCase` finds about a case. -/
def factors (c : ServiceCase) : RiskFactors where
  openRiskFlags := min (openFlags d caseId) 3
  incidentPointsThisCase := incidentPoints d caseId
  priorIncidentsOtherCases := min (priorIncidents d caseId c.customerId) 2
  lowPerformingAssignee := hasLowPerformer d caseId
  urgentPriority := c.priority = .urgent
  reworkCycles := min (startedRows d caseId - 1) 2
  highValue := 500000 < highestQuote d caseId

end Factors

def score (f : RiskFactors) : ℕ :=
  f.openRiskFlags + f.incidentPointsThisCase + f.priorIncidentsOtherCases +
    (if f.lowPerformingAssignee then 2 else 0) + (if f.urgentPriority then 1 else 0) +
    f.reworkCycles + (if f.highValue then 1 else 0)

def levelOf (score : ℕ) : ℕ :=
  if 7 ≤ score then 4 else if 4 ≤ score then 3 else if 2 ≤ score then 2 else 1

/-- The factors as `JSON.stringify` prints them. -/
def factorsJson (f : RiskFactors) : String :=
  "\x7b\"openRiskFlags\":" ++ toString f.openRiskFlags ++
    ",\"incidentPointsThisCase\":" ++ toString f.incidentPointsThisCase ++
    ",\"priorIncidentsOtherCases\":" ++ toString f.priorIncidentsOtherCases ++
    ",\"lowPerformingAssignee\":" ++ toString f.lowPerformingAssignee ++
    ",\"urgentPriority\":" ++ toString f.urgentPriority ++
    ",\"reworkCycles\":" ++ toString f.reworkCycles ++
    ",\"highValue\":" ++ toString f.highValue ++ "\x7d"

/-! ## The assessment -/

/-- The text of a flag that the engine raises. -/
def escalationDetail (f : RiskFactors) : String :=
  "Risk engine scored this case " ++ toString (score f) ++ " (level " ++
    toString (levelOf (score f)) ++ "). Factors: " ++ factorsJson f

/-- The row of an assessment. -/
def assessmentRow (caseId : Id) (f : RiskFactors) (t : Time) : RiskAssessment where
  caseId := caseId
  score := score f
  level := levelOf (score f)
  factors := f
  assessedAt := t

/-- The writes of the transaction: the row of the assessment, and the level of the case. -/
def assessmentWrites (caseId : Id) (f : RiskFactors) (d : Db) : Db :=
  (d.insertRow .riskAssessment (assessmentRow caseId f d.clock)).modifyRow .serviceCase caseId
    fun c => { c with riskLevel := levelOf (score f) }

/-- Whether a flag is one that the engine has raised for the case and nobody has resolved. -/
def isOpenEscalation (caseId : Id) (f : CaseRiskFlag) : Bool :=
  f.caseId = caseId ∧ f.label = escalationLabel ∧ f.resolvedAt = none

def escalationFlag (caseId : Id) (f : RiskFactors) : CaseRiskFlag where
  caseId := caseId
  label := escalationLabel
  detail := some (escalationDetail f)

def assessCase (caseId : Id) : Svc RiskAssessment := do
  let some f ← Prisma.query .serviceCase fun d =>
      (d.serviceCase.get? caseId).map (factors d caseId)
    | throw (.notFound "Case not found")
  let assessment ← Prisma.transaction (assessmentWrites caseId f)
    fun d => assessmentRow caseId f d.clock
  Prisma.audit
  if highRiskLevel ≤ levelOf (score f) then
    let alreadyFlagged ← Prisma.query .caseRiskFlag fun d =>
      d.caseRiskFlag.values.find? (isOpenEscalation caseId)
    if alreadyFlagged.isNone then
      let _ ← Prisma.create .caseRiskFlag fun _ => escalationFlag caseId f
  return assessment

end RiskEngineService

/-! ## What the score moves with -/

/-- What of a case moves its score when the case is only assessed, held and resumed. -/
structure RiskGauge where
  /-- The points of the factors that stay. -/
  fixed : ℕ
  flags : ℕ
  /-- One of the flags is the engine's own. -/
  escalated : Bool
  starts : ℕ
  /-- The case is in progress, or is on hold and will be again. -/
  working : Bool
deriving DecidableEq, Repr

namespace RiskGauge

open RiskEngineService

def score (g : RiskGauge) : ℕ := min g.flags 3 + g.fixed + min (g.starts - 1) 2

/-- After an assessment. -/
def assessed (g : RiskGauge) : RiskGauge :=
  if highRiskLevel ≤ levelOf g.score ∧ g.escalated = false then
    { g with flags := g.flags + 1, escalated := true }
  else g

/-- After a hold has ended. -/
def resumed (g : RiskGauge) : RiskGauge :=
  if g.working then { g with starts := g.starts + 1 } else g

/-- The point of the flag of the engine's own, where it is still to come. -/
def flagRoom (g : RiskGauge) : ℕ :=
  if highRiskLevel ≤ levelOf g.score ∧ g.escalated = false ∧ g.flags < 3 then 1 else 0

/-- What is missing to two cycles of rework, where holds can make it up. -/
def reworkRoom (g : RiskGauge) : ℕ := if g.working then 2 - min (g.starts - 1) 2 else 0

/-- The points that assessing, holding and resuming the case can add. -/
def creep (g : RiskGauge) : ℕ := g.flagRoom + g.reworkRoom

/-- The scores from which a level is reached. -/
def thresholds : List ℕ := [2, 4, 7]

/-- The score cannot creep over a threshold. -/
def Settled (g : RiskGauge) : Prop := ∀ t ∈ thresholds, g.score < t → g.score + g.creep < t

instance (g : RiskGauge) : Decidable g.Settled := by unfold Settled; infer_instance

end RiskGauge

/-! ### Levels and thresholds -/

namespace RiskEngineService

open RiskGauge

lemma high_iff (n : ℕ) : highRiskLevel ≤ levelOf n ↔ 4 ≤ n := by
  rw [highRiskLevel, levelOf]
  split_ifs <;> omega

lemma levelOf_mono {m n : ℕ} (h : m ≤ n) : levelOf m ≤ levelOf n := by
  rw [levelOf, levelOf]
  split_ifs <;> omega

/-- A higher score has the same level exactly if it has reached no further threshold. -/
lemma levelOf_eq_iff {m n : ℕ} (h : m ≤ n) :
    levelOf n = levelOf m ↔ ∀ t ∈ thresholds, m < t → n < t := by
  simp only [thresholds, List.forall_mem_cons, List.not_mem_nil, false_implies, implies_true,
    and_true]
  rw [levelOf, levelOf]
  constructor
  · intro heq
    split_ifs at heq <;> omega
  · rintro ⟨htwo, hfour, hseven⟩
    split_ifs <;> omega

end RiskEngineService

namespace RiskGauge

open RiskEngineService

lemma settled_iff_level (g : RiskGauge) :
    g.Settled ↔ levelOf (g.score + g.creep) = levelOf g.score :=
  (levelOf_eq_iff (Nat.le_add_right ..)).symm

/-! ### Assessing and resuming -/

lemma score_assessed (g : RiskGauge) :
    g.score ≤ g.assessed.score ∧ g.assessed.score + g.assessed.creep = g.score + g.creep := by
  simp only [assessed, creep, flagRoom, reworkRoom, high_iff]
  by_cases h : 4 ≤ g.score ∧ g.escalated = false
  · rw [if_pos h]
    have hhigh : 4 ≤ min g.flags 3 + g.fixed + min (g.starts - 1) 2 := h.1
    simp only [score, h.2, true_and, Bool.true_eq_false, false_and, and_false, if_false]
    split_ifs <;> omega
  · rw [if_neg h]
    exact ⟨le_rfl, rfl⟩

/-- A hold that ends adds at most what there is room for. -/
lemma score_resumed (g : RiskGauge) :
    g.score ≤ g.resumed.score ∧
      g.resumed.score + g.resumed.reworkRoom = g.score + g.reworkRoom := by
  rw [resumed]
  by_cases hworking : g.working = true
  · simp only [reworkRoom, hworking, if_true, score]
    omega
  · rw [if_neg hworking]
    exact ⟨le_rfl, rfl⟩

/-- The room for the flag depends on whether the score is high. -/
lemma flagRoom_resumed {g : RiskGauge} (h : levelOf g.resumed.score = levelOf g.score) :
    g.resumed.flagRoom = g.flagRoom := by
  rw [flagRoom, flagRoom, h, resumed]
  by_cases hworking : g.working = true
  · rw [if_pos hworking]
  · rw [if_neg hworking]

lemma Settled.assessed {g : RiskGauge} (h : g.Settled) :
    g.assessed.Settled ∧ levelOf g.assessed.score = levelOf g.score := by
  obtain ⟨hle, heq⟩ := g.score_assessed
  rw [settled_iff_level] at h
  have hlevel : levelOf g.assessed.score = levelOf g.score := by
    refine le_antisymm ?_ (levelOf_mono hle)
    rw [← h, ← heq]
    exact levelOf_mono (Nat.le_add_right ..)
  rw [settled_iff_level, heq, h]
  exact ⟨hlevel.symm, hlevel⟩

lemma Settled.resumed {g : RiskGauge} (h : g.Settled) :
    g.resumed.Settled ∧ levelOf g.resumed.score = levelOf g.score := by
  obtain ⟨hle, heq⟩ := g.score_resumed
  rw [settled_iff_level] at h
  have hcreep : g.resumed.score ≤ g.score + g.creep := by
    rw [creep]
    omega
  have hlevel : levelOf g.resumed.score = levelOf g.score :=
    le_antisymm (h ▸ levelOf_mono hcreep) (levelOf_mono hle)
  have hsame : g.resumed.score + g.resumed.creep = g.score + g.creep := by
    rw [creep, creep, flagRoom_resumed hlevel]
    omega
  rw [settled_iff_level, hsame, h]
  exact ⟨hlevel.symm, hlevel⟩

/-- No flag of the engine's own is to come after an assessment. -/
lemma flagRoom_assessed (g : RiskGauge) : g.assessed.flagRoom = 0 := by
  rw [flagRoom, if_neg]
  rintro ⟨hhigh, hescalated, -⟩
  rw [assessed] at hhigh hescalated
  split at hescalated
  next => exact Bool.noConfusion hescalated
  next h =>
    rw [if_neg h] at hhigh
    exact h ⟨hhigh, hescalated⟩

/-- Three holds use up the room for rework: the first may find a case whose work has not begun. -/
lemma score_resumed_thrice (g : RiskGauge) :
    g.resumed.resumed.resumed.score = g.score + g.reworkRoom := by
  by_cases hworking : g.working = true
  · simp only [resumed, reworkRoom, hworking, if_true, score]
    omega
  · simp only [resumed, reworkRoom, hworking, Bool.false_eq_true, if_false, add_zero]

/-- The room is used up by one assessment and three holds. -/
lemma score_saturated (g : RiskGauge) :
    g.assessed.resumed.resumed.resumed.score = g.score + g.creep := by
  rw [score_resumed_thrice, ← g.score_assessed.2, creep, flagRoom_assessed, Nat.zero_add]

end RiskGauge

/-! ## Reading the gauge -/

namespace RiskEngineService

/-- The points of the factors that only a change of the case itself moves. -/
def fixedPoints (f : RiskFactors) : ℕ :=
  f.incidentPointsThisCase + f.priorIncidentsOtherCases +
    (if f.lowPerformingAssignee then 2 else 0) + (if f.urgentPriority then 1 else 0) +
    if f.highValue then 1 else 0

/-- Work on the case is going on, or will again when it is resumed. -/
def isWorking (c : ServiceCase) : Bool :=
  c.status = .inProgress ∨ c.status = .onHold ∧ c.heldFromStatus = some .inProgress

/-- How many flags of the engine's own are open. -/
def openEscalations (d : Db) (caseId : Id) : ℕ :=
  d.caseRiskFlag.values.countP (isOpenEscalation caseId)

def gauge (d : Db) (caseId : Id) (c : ServiceCase) : RiskGauge where
  fixed := fixedPoints (factors d caseId c)
  flags := openFlags d caseId
  escalated := 0 < openEscalations d caseId
  starts := startedRows d caseId
  working := isWorking c

lemma score_factors (d : Db) (caseId : Id) (c : ServiceCase) :
    score (factors d caseId c) = (gauge d caseId c).score := by
  have hflags : (factors d caseId c).openRiskFlags = min (gauge d caseId c).flags 3 := rfl
  have hrework : (factors d caseId c).reworkCycles = min ((gauge d caseId c).starts - 1) 2 := rfl
  have hfixed : (gauge d caseId c).fixed = fixedPoints (factors d caseId c) := rfl
  rw [score, RiskGauge.score, hflags, hrework, hfixed, fixedPoints]
  omega

/-- The gauge of the case, if there is one. -/
def gaugeOf (caseId : Id) (d : Db) : Option RiskGauge :=
  (d.serviceCase.get? caseId).map (gauge d caseId)

lemma gaugeOf_of_get? {d : Db} {caseId : Id} {c : ServiceCase}
    (h : d.serviceCase.get? caseId = some c) : gaugeOf caseId d = some (gauge d caseId c) := by
  rw [gaugeOf, h]
  rfl

/-! ### Changes of the case -/

/-- The other cases are those that they were. -/
lemma filter_rows_modify (t : Table ServiceCase) (caseId customerId : Id)
    (f : ServiceCase → ServiceCase) :
    ((t.modify caseId f).rows.filter fun p => p.1 ≠ caseId ∧ p.2.customerId = customerId) =
      t.rows.filter fun p => p.1 ≠ caseId ∧ p.2.customerId = customerId := by
  simp only [Table.modify, Table.mapRows]
  induction t.rows with
  | nil => rfl
  | cons p rows ih =>
    rw [List.map_cons]
    by_cases h : p.1 = caseId
    · simpa [h] using ih
    · rw [if_neg h, List.filter_cons, List.filter_cons, ih]

/-- A change of the case that leaves its customer and its priority. -/
lemma fixedPoints_of_modify {d d' : Db} {caseId : Id} {c c' : ServiceCase}
    {f : ServiceCase → ServiceCase} (hcase : d'.serviceCase = d.serviceCase.modify caseId f)
    (hincident : d'.incident = d.incident) (hassignment : d'.assignment = d.assignment)
    (hagent : d'.agent = d.agent) (hprovider : d'.provider = d.provider)
    (hquote : d'.quote = d.quote) (hcustomer : c'.customerId = c.customerId)
    (hpriority : c'.priority = c.priority) :
    fixedPoints (factors d' caseId c') = fixedPoints (factors d caseId c) := by
  have hpoints : (factors d' caseId c').incidentPointsThisCase =
      (factors d caseId c).incidentPointsThisCase := by
    simp only [factors, incidentPoints, hincident]
  have hprior : (factors d' caseId c').priorIncidentsOtherCases =
      (factors d caseId c).priorIncidentsOtherCases := by
    simp only [factors, priorIncidents, hcase, hincident, hcustomer, filter_rows_modify]
  have hlow : (factors d' caseId c').lowPerformingAssignee =
      (factors d caseId c).lowPerformingAssignee := by
    have hscore : assigneeScore d' = assigneeScore d := by
      funext a
      rw [assigneeScore, assigneeScore, hagent, hprovider]
    simp only [factors, hasLowPerformer, hassignment, hscore]
  have hurgent : (factors d' caseId c').urgentPriority = (factors d caseId c).urgentPriority :=
    congrArg (fun q : CasePriority => decide (q = .urgent)) hpriority
  have hhigh : (factors d' caseId c').highValue = (factors d caseId c).highValue := by
    have hhighest : highestQuote d' caseId = highestQuote d caseId := by
      rw [highestQuote, highestQuote, hquote]
    exact congrArg (fun q : ℚ => decide (500000 < q)) hhighest
  rw [fixedPoints, fixedPoints, hpoints, hprior, hlow, hurgent, hhigh]

/-- A status change adds to the history, and says whether work is going on. -/
lemma gauge_moveCase (d : Db) (caseId : Id) (c : ServiceCase) (dst : CaseStatus)
    (held : Option CaseStatus) (a : Option Id) (r : Option String) :
    gauge (d.moveCase caseId c dst held a r) caseId
        { c with status := dst, heldFromStatus := held } =
      { gauge d caseId c with
        starts := (gauge d caseId c).starts + if dst = .inProgress then 1 else 0
        working := isWorking { c with status := dst, heldFromStatus := held } } := by
  have hfixed : fixedPoints (factors (d.moveCase caseId c dst held a r) caseId
      { c with status := dst, heldFromStatus := held }) = fixedPoints (factors d caseId c) :=
    fixedPoints_of_modify (f := fun s => { s with status := dst, heldFromStatus := held })
      rfl rfl rfl rfl rfl rfl rfl rfl
  have hstarts : startedRows (d.moveCase caseId c dst held a r) caseId =
      startedRows d caseId + if dst = .inProgress then 1 else 0 := by
    have htable : (d.moveCase caseId c dst held a r).caseStatusHistory =
        d.caseStatusHistory.insert
          { caseId, fromStatus := some c.status, toStatus := dst, changedById := a, reason := r
            createdAt := d.clock + 1 } := rfl
    rw [startedRows, htable, Table.countP_values_insert, startedRows]
    simp
  rw [gauge, gauge, hfixed, hstarts]
  rfl

/-- Holding a case does not move its gauge. -/
lemma gaugeOf_hold (caseId : Id) (d : Db) (actor : AuthenticatedUser) (reason : String) :
    gaugeOf caseId ((CasesService.holdCase actor caseId reason).exec d) = gaugeOf caseId d := by
  rcases CasesService.holdCase_exec d caseId actor reason with h | ⟨c, hc, hs, -, -, h⟩
  · rw [h]
  · rw [h, gaugeOf_of_get? hc, gaugeOf, get?_moveCase d hc, if_pos rfl, Option.map_some,
      gauge_moveCase]
    simp [gauge, isWorking, hs]

/-- Resuming a case leaves its gauge, or counts one more beginning of work. -/
lemma gaugeOf_resume (caseId : Id) (d : Db) (actor : AuthenticatedUser)
    (reason : Option String) :
    gaugeOf caseId ((CasesService.resumeCase actor caseId reason).exec d) = gaugeOf caseId d ∨
      gaugeOf caseId ((CasesService.resumeCase actor caseId reason).exec d) =
        (gaugeOf caseId d).map RiskGauge.resumed := by
  rcases CasesService.resumeCase_exec d caseId actor reason with h | ⟨c, back, hc, hs, hb, h⟩
  · exact Or.inl (by rw [h])
  · refine Or.inr ?_
    rw [h, gaugeOf_of_get? hc, gaugeOf, get?_moveCase d hc, if_pos rfl, Option.map_some,
      gauge_moveCase]
    by_cases hback : back = .inProgress
    · simp [gauge, isWorking, RiskGauge.resumed, hs, hb, hback]
    · simp [gauge, isWorking, RiskGauge.resumed, hs, hb, hback]

/-- A hold and the end of it, where each may be refused. -/
lemma gaugeOf_pair (caseId : Id) (d : Db) (actor actor' : AuthenticatedUser) (reason : String)
    (reason' : Option String) :
    gaugeOf caseId ((CasesService.resumeCase actor' caseId reason').exec
        ((CasesService.holdCase actor caseId reason).exec d)) =
      (gaugeOf caseId d).map RiskGauge.resumed := by
  rcases CasesService.holdCase_cases d caseId actor reason with ⟨h, hno⟩ | ⟨c, hc, hs, -, -, h⟩
  · rw [h]
    rcases CasesService.resumeCase_cases d caseId actor' reason' with
      ⟨h', hno'⟩ | ⟨c, back, hc, hs, hb, h'⟩
    · -- Nothing happens, and the case has no work to go back to.
      rw [h', gaugeOf]
      cases hc : d.serviceCase.get? caseId with
      | none => rfl
      | some c =>
        have hidle : isWorking c = false := by
          by_cases hheld : c.status = .onHold
          · simp [isWorking, hheld, hno' c hc hheld]
          · rcases hno c hc with hs | hs | hs
            · exact absurd hs hheld
            · simp [isWorking, hs]
            · simp [isWorking, hs]
        simp [RiskGauge.resumed, gauge, hidle]
    · rw [h', gaugeOf_of_get? hc, gaugeOf, get?_moveCase d hc, if_pos rfl, Option.map_some,
        gauge_moveCase]
      by_cases hback : back = .inProgress
      · simp [gauge, isWorking, RiskGauge.resumed, hs, hb, hback]
      · simp [gauge, isWorking, RiskGauge.resumed, hs, hb, hback]
  · -- The case goes back to where it was.
    have hheld := get?_moveCase d hc .onHold (some c.status) (some actor.id) (some reason) caseId
    rw [if_pos rfl] at hheld
    rw [h]
    rcases CasesService.resumeCase_cases (d.moveCase caseId c .onHold (some c.status)
        (some actor.id) (some reason)) caseId actor' reason' with
      ⟨-, hno'⟩ | ⟨c', back, hc', -, hb, h'⟩
    · exact absurd (hno' _ hheld rfl) (Option.some_ne_none c.status)
    · rw [hheld, Option.some.injEq] at hc'
      subst hc'
      rw [Option.some.injEq] at hb
      subst hb
      rw [h', gaugeOf, get?_moveCase _ hheld, if_pos rfl, Option.map_some, gauge_moveCase,
        gauge_moveCase, gaugeOf_of_get? hc]
      by_cases hback : c.status = .inProgress
      · simp [gauge, isWorking, RiskGauge.resumed, hback]
      · simp [gauge, isWorking, RiskGauge.resumed, hback, hs]

/-! ### An assessment -/

/-- What an assessment leaves. -/
def assessedDb (caseId : Id) (f : RiskFactors) (d : Db) : Db :=
  if highRiskLevel ≤ levelOf (score f) ∧ openEscalations d caseId = 0 then
    (assessmentWrites caseId f d).insertRow .caseRiskFlag (escalationFlag caseId f)
  else assessmentWrites caseId f d

lemma assessCase_run {d : Db} {caseId : Id} {c : ServiceCase}
    (hc : d.serviceCase.get? caseId = some c) :
    (assessCase caseId).run d =
      (.ok (assessmentRow caseId (factors d caseId c) d.clock),
        assessedDb caseId (factors d caseId c) d) := by
  have hfind : ((assessmentWrites caseId (factors d caseId c) d).caseRiskFlag.values.find?
      (isOpenEscalation caseId)).isNone = decide (openEscalations d caseId = 0) := by
    rw [openEscalations]
    change (d.caseRiskFlag.values.find? (isOpenEscalation caseId)).isNone = _
    rw [Bool.eq_iff_iff, decide_eq_true_eq, List.countP_eq_zero, Option.isNone_iff_eq_none,
      List.find?_eq_none]
  rw [assessCase, assessedDb]
  simp only [Prog.run_bind, Prisma.run_query, hc, Option.map_some, Prisma.run_transaction,
    Prisma.run_audit]
  by_cases hhigh : highRiskLevel ≤ levelOf (score (factors d caseId c))
  · by_cases hnone : openEscalations d caseId = 0
    · simp only [Prog.run_bind, Prisma.run_query, Prisma.run_create, Prog.run_pure, hfind, hhigh,
        hnone, decide_true, if_true, true_and]
    · simp only [Prog.run_bind, Prisma.run_query, Prog.run_pure, hfind, hhigh, hnone, decide_false,
        Bool.false_eq_true, if_true, if_false, and_false]
  · simp only [hhigh, Prog.run_pure, if_false, false_and]

/-- What an assessment leaves of the case and its flags. -/
lemma get?_assessedDb {d : Db} {caseId : Id} {c : ServiceCase}
    (hc : d.serviceCase.get? caseId = some c) (f : RiskFactors) :
    (assessedDb caseId f d).serviceCase.get? caseId =
      some { c with riskLevel := levelOf (score f) } := by
  have hwrites : (assessmentWrites caseId f d).serviceCase.get? caseId =
      some { c with riskLevel := levelOf (score f) } := by
    change (d.serviceCase.modify caseId _).get? caseId = _
    rw [Table.get?_modify_self, hc]
    rfl
  rw [assessedDb]
  split
  · exact hwrites
  · exact hwrites

/-- The flag of the engine's own is raised where it is missing. -/
lemma caseRiskFlag_assessedDb (caseId : Id) (f : RiskFactors) (d : Db) :
    (assessedDb caseId f d).caseRiskFlag =
      if highRiskLevel ≤ levelOf (score f) ∧ openEscalations d caseId = 0 then
        d.caseRiskFlag.insert (escalationFlag caseId f)
      else d.caseRiskFlag := by
  rw [assessedDb]
  split <;> rfl

lemma openEscalations_assessedDb (caseId : Id) (f : RiskFactors) (d : Db) :
    openEscalations (assessedDb caseId f d) caseId =
      openEscalations d caseId +
        if highRiskLevel ≤ levelOf (score f) ∧ openEscalations d caseId = 0 then 1 else 0 := by
  rw [openEscalations, caseRiskFlag_assessedDb, openEscalations]
  split
  · rw [Table.countP_values_insert, if_pos (by simp [isOpenEscalation, escalationFlag])]
  · rfl

/-- The transaction of an assessment does not move the gauge. -/
lemma gauge_assessmentWrites (d : Db) (caseId : Id) (c : ServiceCase) (f : RiskFactors) :
    gauge (assessmentWrites caseId f d) caseId { c with riskLevel := levelOf (score f) } =
      gauge d caseId c := by
  have hfixed : fixedPoints (factors (assessmentWrites caseId f d) caseId
      { c with riskLevel := levelOf (score f) }) = fixedPoints (factors d caseId c) :=
    fixedPoints_of_modify (f := fun c => { c with riskLevel := levelOf (score f) })
      rfl rfl rfl rfl rfl rfl rfl rfl
  rw [gauge, gauge, hfixed]
  rfl

/-- A flag of the engine's own is an open flag. -/
lemma gauge_escalationFlag (d : Db) (caseId : Id) (c : ServiceCase) (f : RiskFactors) :
    gauge (d.insertRow .caseRiskFlag (escalationFlag caseId f)) caseId c =
      { gauge d caseId c with flags := (gauge d caseId c).flags + 1, escalated := true } := by
  have htable : (d.insertRow .caseRiskFlag (escalationFlag caseId f)).caseRiskFlag =
      d.caseRiskFlag.insert (escalationFlag caseId f) := rfl
  have hflags : openFlags (d.insertRow .caseRiskFlag (escalationFlag caseId f)) caseId =
      openFlags d caseId + 1 := by
    rw [openFlags, htable, Table.countP_values_insert, if_pos (by simp [escalationFlag])]
    rfl
  have hopen : openEscalations (d.insertRow .caseRiskFlag (escalationFlag caseId f)) caseId =
      openEscalations d caseId + 1 := by
    rw [openEscalations, htable, Table.countP_values_insert,
      if_pos (by simp [isOpenEscalation, escalationFlag])]
    rfl
  rw [gauge, hflags, hopen, decide_eq_true (Nat.succ_pos _)]
  rfl

lemma gaugeOf_assess (caseId : Id) (d : Db) :
    gaugeOf caseId ((assessCase caseId).exec d) = (gaugeOf caseId d).map RiskGauge.assessed := by
  cases hc : d.serviceCase.get? caseId with
  | none =>
    rw [Prog.exec, assessCase]
    simp [Prog.run_bind, hc, gaugeOf]
  | some c =>
    have hescalated : (gauge d caseId c).escalated = false ↔ openEscalations d caseId = 0 := by
      rw [gauge, decide_eq_false_iff_not, Nat.not_lt, Nat.le_zero]
    have hcond : (highRiskLevel ≤ levelOf (gauge d caseId c).score ∧
        (gauge d caseId c).escalated = false) ↔
        highRiskLevel ≤ levelOf (score (factors d caseId c)) ∧ openEscalations d caseId = 0 := by
      rw [hescalated, ← score_factors]
    rw [Prog.exec, assessCase_run hc, gaugeOf_of_get? hc, gaugeOf,
      get?_assessedDb hc, Option.map_some, Option.map_some, RiskGauge.assessed, assessedDb]
    by_cases h : highRiskLevel ≤ levelOf (score (factors d caseId c)) ∧ openEscalations d caseId = 0
    · rw [if_pos h, if_pos (hcond.mpr h), gauge_escalationFlag, gauge_assessmentWrites]
    · rw [if_neg h, if_neg (mt hcond.mp h), gauge_assessmentWrites]

/-! ## Assessments with holds in between -/

/-- A call about the case. -/
inductive RiskCall
  | assess
  | hold (actor : AuthenticatedUser) (reason : String)
  | resume (actor : AuthenticatedUser) (reason : Option String)
deriving DecidableEq, Repr

def RiskCall.step (caseId : Id) (d : Db) : RiskCall → Db
  | .assess => (assessCase caseId).exec d
  | .hold actor reason => (CasesService.holdCase actor caseId reason).exec d
  | .resume actor reason => (CasesService.resumeCase actor caseId reason).exec d

/-- Assessments with any number of holds, each followed by its end, in between. -/
inductive Paired : List RiskCall → Prop
  | nil : Paired []
  | assess {os : List RiskCall} (h : Paired os) : Paired (.assess :: os)
  | pair (actor actor' : AuthenticatedUser) (reason : String) (reason' : Option String)
      {os : List RiskCall} (h : Paired os) :
      Paired (.hold actor reason :: .resume actor' reason' :: os)

/-- If the call is an assessment, it succeeds, and the level it writes is `level`. -/
def WritesLevel (caseId : Id) (level : ℕ) (d : Db) : RiskCall → Prop
  | .assess => (assessCase caseId).Returns d fun a d' =>
      a.level = level ∧ a ∈ d'.riskAssessment.values ∧
        (d'.serviceCase.get? caseId).map ServiceCase.riskLevel = some level
  | .hold .. => True
  | .resume .. => True

/-- An assessment in `d'` has a level at least as high as one in `d`. -/
def LevelLe (caseId : Id) (d d' : Db) : Prop :=
  (assessCase caseId).Returns d fun a _ =>
    (assessCase caseId).Returns d' fun a' _ => a.level ≤ a'.level

/-- One flag of the engine's own is open at most, and neither an incident nor a flag would lower
the level. -/
def WellBehaved (caseId : Id) (d : Db) : Prop :=
  openEscalations d caseId ≤ 1 ∧
    (∀ i : Incident, LevelLe caseId d (d.insertRow .incident i)) ∧
    ∀ f : CaseRiskFlag, LevelLe caseId d (d.insertRow .caseRiskFlag f)

/-- The level depends on the case and not on how often it is looked at. -/
def LevelStable (caseId : Id) (d : Db) : Prop :=
  ∀ os, Paired os →
    (∃ level, AllSteps (RiskCall.step caseId) (WritesLevel caseId level) d os) ∧
      AllStates (RiskCall.step caseId) (WellBehaved caseId) d os

/-! ### What an assessment writes -/

lemma writesLevel_assess_iff {d : Db} {caseId : Id} {c : ServiceCase}
    (hc : d.serviceCase.get? caseId = some c) (level : ℕ) :
    WritesLevel caseId level d .assess ↔ levelOf (gauge d caseId c).score = level := by
  rw [← score_factors]
  constructor
  · rintro ⟨a, d', hrun, hlevel, -⟩
    rw [assessCase_run hc] at hrun
    cases hrun
    exact hlevel
  · intro hlevel
    have hrow : assessmentRow caseId (factors d caseId c) d.clock ∈
        (assessedDb caseId (factors d caseId c) d).riskAssessment.values := by
      have htable : (assessedDb caseId (factors d caseId c) d).riskAssessment =
          d.riskAssessment.insert (assessmentRow caseId (factors d caseId c) d.clock) := by
        rw [assessedDb]
        split <;> rfl
      rw [htable, Table.values_insert]
      exact List.mem_append_right _ (List.mem_singleton_self _)
    refine ⟨_, _, assessCase_run hc, hlevel, hrow, ?_⟩
    rw [get?_assessedDb hc, Option.map_some, hlevel]

lemma levelLe_of_score {d d' : Db} {caseId : Id} {c : ServiceCase}
    (hc : d.serviceCase.get? caseId = some c) (hc' : d'.serviceCase.get? caseId = some c)
    (h : score (factors d caseId c) ≤ score (factors d' caseId c)) : LevelLe caseId d d' :=
  ⟨_, _, assessCase_run hc, _, _, assessCase_run hc', levelOf_mono h⟩

/-- More open flags and more incidents do not lower the score. -/
lemma score_mono {f f' : RiskFactors} (hflags : f.openRiskFlags ≤ f'.openRiskFlags)
    (hpoints : f.incidentPointsThisCase ≤ f'.incidentPointsThisCase)
    (hprior : f.priorIncidentsOtherCases ≤ f'.priorIncidentsOtherCases)
    (hlow : f'.lowPerformingAssignee = f.lowPerformingAssignee)
    (hurgent : f'.urgentPriority = f.urgentPriority) (hrework : f'.reworkCycles = f.reworkCycles)
    (hhigh : f'.highValue = f.highValue) : score f ≤ score f' := by
  rw [score, score, hlow, hurgent, hrework, hhigh]
  omega

/-- An incident counts for its case, and for the other cases of the customer. -/
lemma levelLe_incident {d : Db} {caseId : Id} {c : ServiceCase}
    (hc : d.serviceCase.get? caseId = some c) (i : Incident) :
    LevelLe caseId d (d.insertRow .incident i) := by
  have hvalues : (d.insertRow .incident i).incident.values = d.incident.values ++ [i] :=
    Table.values_insert ..
  have hpoints : incidentPoints d caseId ≤ incidentPoints (d.insertRow .incident i) caseId := by
    rw [incidentPoints, incidentPoints, hvalues, List.filter_append, List.map_append,
      List.sum_append]
    exact Nat.le_add_right ..
  have hprior : priorIncidents d caseId c.customerId ≤
      priorIncidents (d.insertRow .incident i) caseId c.customerId := by
    rw [priorIncidents, priorIncidents, hvalues]
    refine List.sum_le_sum fun p _ => ?_
    rw [List.countP_append]
    exact Nat.le_add_right ..
  exact levelLe_of_score hc hc
    (score_mono le_rfl hpoints (min_le_min_right 2 hprior) rfl rfl rfl rfl)

lemma levelLe_flag {d : Db} {caseId : Id} {c : ServiceCase}
    (hc : d.serviceCase.get? caseId = some c) (f : CaseRiskFlag) :
    LevelLe caseId d (d.insertRow .caseRiskFlag f) := by
  have hvalues : (d.insertRow .caseRiskFlag f).caseRiskFlag.values = d.caseRiskFlag.values ++ [f] :=
    Table.values_insert ..
  have hflags : openFlags d caseId ≤ openFlags (d.insertRow .caseRiskFlag f) caseId := by
    rw [openFlags, openFlags, hvalues, List.countP_append]
    exact Nat.le_add_right ..
  exact levelLe_of_score hc hc
    (score_mono (min_le_min_right 3 hflags) le_rfl le_rfl rfl rfl rfl rfl)

/-! ### Runs -/

/-- A case whose score cannot creep over a threshold, at the given level. -/
def Steady (caseId : Id) (level : ℕ) (d : Db) : Prop :=
  (∃ g, gaugeOf caseId d = some g ∧ g.Settled ∧ levelOf g.score = level) ∧
    openEscalations d caseId ≤ 1

lemma openEscalations_step (caseId : Id) (d : Db) (o : RiskCall)
    (h : openEscalations d caseId ≤ 1) : openEscalations (o.step caseId d) caseId ≤ 1 := by
  cases o with
  | assess =>
    cases hc : d.serviceCase.get? caseId with
    | none =>
      have hsame : (assessCase caseId).exec d = d := by
        rw [Prog.exec, assessCase]
        simp [Prog.run_bind, hc]
      rw [RiskCall.step, hsame]
      exact h
    | some c =>
      rw [RiskCall.step, Prog.exec, assessCase_run hc]
      dsimp only
      rw [openEscalations_assessedDb]
      split <;> omega
  | hold actor reason =>
    rcases CasesService.holdCase_exec d caseId actor reason with heq | ⟨c, -, -, -, -, heq⟩
    · rw [RiskCall.step, heq]
      exact h
    · rw [RiskCall.step, heq]
      exact h
  | resume actor reason =>
    rcases CasesService.resumeCase_exec d caseId actor reason with heq | ⟨c, back, -, -, -, heq⟩
    · rw [RiskCall.step, heq]
      exact h
    · rw [RiskCall.step, heq]
      exact h

/-- A call moves the gauge as its kind says. -/
lemma gaugeOf_step (caseId : Id) (d : Db) (o : RiskCall) :
    gaugeOf caseId (o.step caseId d) = gaugeOf caseId d ∨
      gaugeOf caseId (o.step caseId d) = (gaugeOf caseId d).map RiskGauge.assessed ∨
      gaugeOf caseId (o.step caseId d) = (gaugeOf caseId d).map RiskGauge.resumed := by
  cases o with
  | assess => exact Or.inr (Or.inl (gaugeOf_assess caseId d))
  | hold actor reason => exact Or.inl (gaugeOf_hold caseId d actor reason)
  | resume actor reason => exact (gaugeOf_resume caseId d actor reason).imp_right Or.inr

/-- **What a call preserves.** -/
lemma steady_step {caseId : Id} {level : ℕ} {d : Db} (h : Steady caseId level d) (o : RiskCall) :
    Steady caseId level (o.step caseId d) := by
  obtain ⟨⟨g, hg, hsettled, hlevel⟩, hone⟩ := h
  refine ⟨?_, openEscalations_step caseId d o hone⟩
  rcases gaugeOf_step caseId d o with heq | heq | heq
  · exact ⟨g, heq.trans hg, hsettled, hlevel⟩
  · rw [hg] at heq
    exact ⟨g.assessed, heq, hsettled.assessed.1, hsettled.assessed.2.trans hlevel⟩
  · rw [hg] at heq
    exact ⟨g.resumed, heq, hsettled.resumed.1, hsettled.resumed.2.trans hlevel⟩

lemma Steady.exists_case {caseId : Id} {level : ℕ} {d : Db} (h : Steady caseId level d) :
    ∃ c, d.serviceCase.get? caseId = some c ∧ levelOf (gauge d caseId c).score = level := by
  obtain ⟨⟨g, hg, -, hlevel⟩, -⟩ := h
  obtain ⟨c, hc, rfl⟩ := Option.map_eq_some_iff.mp hg
  exact ⟨c, hc, hlevel⟩

/-- A settled case has one level in every run, with holds wherever they are. -/
lemma Steady.run {caseId : Id} {level : ℕ} {d : Db} (h : Steady caseId level d)
    (os : List RiskCall) :
    AllSteps (RiskCall.step caseId) (WritesLevel caseId level) d os ∧
      AllStates (RiskCall.step caseId) (WellBehaved caseId) d os := by
  have hstates : AllStates (RiskCall.step caseId) (Steady caseId level) d os :=
    Lib.invariant (I := Steady caseId level) (fun _ o hd => steady_step hd o) h os
  constructor
  · have hall : AllSteps (RiskCall.step caseId) (fun _ _ => True) d os :=
      AllSteps.of_forall_mem (fun _ _ _ => trivial) d
    refine hall.of_invariant (I := Steady caseId level) (fun _ o hd _ => steady_step hd o)
      (fun s o hd _ => ?_) h
    cases o with
    | assess =>
      obtain ⟨c, hc, hlevel⟩ := hd.exists_case
      exact (writesLevel_assess_iff hc level).mpr hlevel
    | hold actor reason => trivial
    | resume actor reason => trivial
  · refine hstates.mono fun s hd => ?_
    obtain ⟨c, hc, -⟩ := hd.exists_case
    exact ⟨hd.2, fun i => levelLe_incident hc i, fun f => levelLe_flag hc f⟩

/-- One assessment, three holds and a second assessment. -/
def saturating : List RiskCall :=
  let actor : AuthenticatedUser := ⟨0, .admin⟩
  [.assess, .hold actor "", .resume actor none, .hold actor "", .resume actor none,
    .hold actor "", .resume actor none, .assess]

lemma paired_saturating : Paired saturating :=
  .assess (.pair _ _ _ _ (.pair _ _ _ _ (.pair _ _ _ _ (.assess .nil))))

/-- **When the level depends on the case alone**: at most one flag of the engine's own is open, and
what assessments and holds can add to the score takes it over no threshold. -/
theorem level_stable_iff {d : Db} {caseId : Id} {c : ServiceCase}
    (hc : d.serviceCase.get? caseId = some c) :
    LevelStable caseId d ↔ openEscalations d caseId ≤ 1 ∧ (gauge d caseId c).Settled := by
  constructor
  · intro h
    refine ⟨(h [] .nil).2.first.1, ?_⟩
    obtain ⟨⟨level, hfirst, hsteps⟩, -⟩ := h saturating paired_saturating
    obtain ⟨-, -, -, -, -, -, hlast, -⟩ := hsteps
    have hgauge : gaugeOf caseId (runFrom (RiskCall.step caseId) d saturating.dropLast) =
        some (gauge d caseId c).assessed.resumed.resumed.resumed := by
      simp only [saturating, List.dropLast_cons_cons, List.dropLast_singleton, runFrom_cons,
        runFrom_nil, RiskCall.step, gaugeOf_pair, gaugeOf_assess, gaugeOf_of_get? hc,
        Option.map_some]
    obtain ⟨c', hc', hgauge'⟩ := Option.map_eq_some_iff.mp hgauge
    have hlevel := (writesLevel_assess_iff hc level).mp hfirst
    have hlevel' := (writesLevel_assess_iff hc' level).mp hlast
    rw [hgauge', RiskGauge.score_saturated] at hlevel'
    rw [RiskGauge.settled_iff_level, hlevel, hlevel']
  · rintro ⟨hone, hsettled⟩ os -
    have hsteady : Steady caseId (levelOf (gauge d caseId c).score) d :=
      ⟨⟨_, gaugeOf_of_get? hc, hsettled, rfl⟩, hone⟩
    exact ⟨⟨_, (hsteady.run os).1⟩, (hsteady.run os).2⟩

/-- An urgent case in progress, with the given incidents. -/
def urgentDb (severities : List IncidentSeverity) : Db where
  serviceCase := Table.empty.insert
    { customerId := 0, serviceType := .propertyInspection, description := "Inspect the site"
      location := "Lagos", priority := .urgent, status := .inProgress }
  caseStatusHistory := Table.empty.insert
    { caseId := 0, fromStatus := some .assigned, toStatus := .inProgress, changedById := some 0
      reason := none, createdAt := 0 }
  incident := severities.foldl
    (fun t severity => t.insert { caseId := 0, severity, summary := "Incident", detail := none })
    Table.empty

/-- Three incidents take the case to the highest level, where it stays. -/
theorem level_stable_iff_critical : LevelStable 0 (urgentDb [.critical, .high, .medium]) :=
  (level_stable_iff rfl).mpr ⟨by decide +kernel, by decide +kernel⟩

/-- With two of them the score is 6.  The flag that the first assessment raises makes it 7 at the
second. -/
theorem level_not_stable : ¬ LevelStable 0 (urgentDb [.critical, .high]) := by
  intro h
  obtain ⟨⟨level, hfirst, hsecond, -⟩, -⟩ := h [.assess, .assess] (.assess (.assess .nil))
  rw [RiskCall.step] at hsecond
  obtain ⟨a, d, hrun, hlevel, -⟩ := hfirst
  obtain ⟨b, d', hrun', hlevel', -⟩ := hsecond
  have hthree : (Prog.run (assessCase 0) (urgentDb [.critical, .high])).1.toOption.map
      RiskAssessment.level = some 3 := by decide +kernel
  have hfour : (Prog.run (assessCase 0) ((assessCase 0).exec
      (urgentDb [.critical, .high]))).1.toOption.map RiskAssessment.level = some 4 := by
    decide +kernel
  rw [hrun] at hthree
  rw [hrun'] at hfour
  simp only [Except.toOption, Option.map_some, Option.some.injEq] at hthree hfour
  omega

end RiskEngineService

end Asoju
