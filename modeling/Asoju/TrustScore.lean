/-
The trust score of an agent in the field.

Five components are computed from the record of the agent, and weighted into one score.  Three of
them are rates with a neutral prior, and 0 for an agent of whom nothing is known.  That is where the
score goes wrong: the first check-in away from the place raises it, from nothing to a little less
than the prior.  `trustScore_monotone_iff` says that nothing else does.

What is read of the agent is the argument of the calculation, and the row it writes is its result.
-/
import Asoju.Prisma
import Asoju.Lib.Decimal
import Asoju.Lib.PriorRate
import Mathlib.Data.Int.ConditionallyCompleteOrder

namespace Asoju.AgentTrustScore

open Lib

inductive TrustTier
  | new | bronze | silver | gold | platinum
deriving DecidableEq, Repr

namespace TrustTier

def min : TrustTier → ℤ
  | new => 0
  | bronze => 20
  | silver => 40
  | gold => 65
  | platinum => 85

def badge : TrustTier → String
  | new => "🆕"
  | bronze => "🥉"
  | silver => "🥈"
  | gold => "🥇"
  | platinum => "💎"

end TrustTier

/-- The tiers from the lowest to the highest. -/
def trustTiers : List TrustTier := [.new, .bronze, .silver, .gold, .platinum]

/-- The highest tier whose minimum is reached. -/
def getTrustTier (score : ℤ) : TrustTier :=
  (trustTiers.reverse.find? fun tier => tier.min ≤ score).getD .new

namespace TrustWeights

def completion : ℚ := 3 / 10
def gps : ℚ := 2 / 10
def evidence : ℚ := 2 / 10
def rating : ℚ := 2 / 10
def response : ℚ := 1 / 10

end TrustWeights

def minForCompletion : ℕ := 10
def minForGps : ℕ := 5
def minForEvidence : ℕ := 5

def completedCaseStatuses : List CaseStatus := [.completed, .closed]

def volumeBlend (rawRate : ℚ) (sampleSize minSample : ℕ) : ℤ :=
  let volumeWeight : ℚ := sampleSize / minSample
  roundHalfUp (rawRate * volumeWeight + 50 * (1 - volumeWeight))

def scoreResponseTime : Option ℚ → ℤ
  | none => 0
  | some avgMinutes =>
      if avgMinutes ≤ 5 then 100
      else if avgMinutes ≤ 15 then 80
      else if avgMinutes ≤ 30 then 60
      else if avgMinutes ≤ 60 then 40
      else if avgMinutes ≤ 120 then 20
      else 0

inductive ScoreTrend
  | improving | declining | stable
deriving DecidableEq, Repr

def determineTrend (current : ℤ) : Option ℤ → ScoreTrend
  | none => .stable
  | some previous =>
      if 2 < current - previous then .improving
      else if current - previous < -2 then .declining
      else .stable

/-! ## What is read -/

inductive GeofenceOutcome
  | pass | unverified
deriving DecidableEq, Repr

inductive GeofenceRejection
  | invalidCoordinates | accuracyTooLow | locationStale | outsideGeofence
deriving DecidableEq, Repr

/-- An assignment in the field. -/
structure FieldAssignment where
  caseId : Id
  createdAt : Time
  acceptedAt : Option Time := none
  geofenceResult : Option GeofenceOutcome := none
deriving DecidableEq, Repr

/-- What is read of a case. -/
structure AssignedCase where
  status : CaseStatus
  slaTargetAt : Option Time := none
deriving DecidableEq, Repr

/-- The record of an agent. -/
structure AgentHistory where
  performanceScore : Option ℚ := none
  assignments : List FieldAssignment := []
  /-- The cases, by their keys. -/
  caseOf : Id → Option AssignedCase := fun _ => none
  /-- The evidence that the agent has uploaded, the oldest first: its case and its time. -/
  evidence : List (Id × Time) := []
  /-- The check-ins that were rejected, with the reasons that the audit log has for them. -/
  rejections : List (Option GeofenceRejection) := []
  /-- The composite score of the last calculation. -/
  existing : Option ℤ := none

/-- The row of the calculation. -/
structure TrustScore where
  completionScore : ℤ
  gpsComplianceScore : ℤ
  evidenceScore : ℤ
  ratingScore : ℤ
  responseScore : ℤ
  compositeScore : ℤ
  trustTier : TrustTier
  trustBadge : String
  totalAssignments : ℕ
  completedAssignments : ℕ
  previousScore : Option ℤ
  scoreTrend : ScoreTrend
deriving DecidableEq, Repr

/-! ## The calculation -/

/-- A share of a total as a score, blended with the prior while there is little to go by. -/
def shareScore (minSample passed total : ℕ) : ℤ :=
  if total < minSample then volumeBlend ((passed / total : ℚ) * 100) total minSample
  else roundHalfUp ((passed / total : ℚ) * 100)

namespace AgentHistory

variable (h : AgentHistory)

def totalAssignments : ℕ := h.assignments.length

def isCompleted (a : FieldAssignment) : Bool :=
  (h.caseOf a.caseId).any fun c => c.status ∈ completedCaseStatuses

def completedAssignments : ℕ := h.assignments.countP h.isCompleted

def completionScore : ℤ :=
  if h.totalAssignments = 0 then 0
  else shareScore minForCompletion h.completedAssignments h.totalAssignments

def passedCheckIns : ℕ := h.assignments.countP fun a => a.geofenceResult = some .pass

def outsideGeofenceRejections : ℕ := h.rejections.count (some .outsideGeofence)

def judgedCheckIns : ℕ := h.passedCheckIns + h.outsideGeofenceRejections

def gpsComplianceScore : ℤ :=
  if h.judgedCheckIns = 0 then 0
  else shareScore minForGps h.passedCheckIns h.judgedCheckIns

/-- The first evidence for the case of the assignment is there, and was not late. -/
def isOnTime (a : FieldAssignment) : Bool :=
  (h.evidence.find? fun item => item.1 = a.caseId).any fun earliest =>
    ((h.caseOf a.caseId).bind AssignedCase.slaTargetAt).all fun slaTarget => earliest.2 ≤ slaTarget

def onTimeCount : ℕ := h.assignments.countP h.isOnTime

def evidenceScore : ℤ :=
  if h.totalAssignments = 0 then 0
  else shareScore minForEvidence h.onTimeCount h.totalAssignments

def ratingScore : ℤ := (h.performanceScore.map fun s => roundHalfUp (s / 5 * 100)).getD 0

/-- The minutes from the offer of each accepted assignment to its acceptance. -/
def responseTimes : List ℚ :=
  h.assignments.filterMap fun a => a.acceptedAt.map fun t => ((t - a.createdAt : ℤ) : ℚ) / 60000

def avgResponseMin : Option ℚ :=
  if 0 < h.responseTimes.length then some (h.responseTimes.sum / h.responseTimes.length) else none

def responseScore : ℤ := scoreResponseTime h.avgResponseMin

def compositeScore : ℤ :=
  roundHalfUp (h.completionScore * TrustWeights.completion +
    h.gpsComplianceScore * TrustWeights.gps + h.evidenceScore * TrustWeights.evidence +
    h.ratingScore * TrustWeights.rating + h.responseScore * TrustWeights.response)

end AgentHistory

def calculateTrustScore (h : AgentHistory) : TrustScore where
  completionScore := h.completionScore
  gpsComplianceScore := h.gpsComplianceScore
  evidenceScore := h.evidenceScore
  ratingScore := h.ratingScore
  responseScore := h.responseScore
  compositeScore := h.compositeScore
  trustTier := getTrustTier h.compositeScore
  trustBadge := (getTrustTier h.compositeScore).badge
  totalAssignments := h.totalAssignments
  completedAssignments := h.completedAssignments
  previousScore := h.existing
  scoreTrend := determineTrend h.compositeScore h.existing

/-! ## Shares -/

section Share

variable {m p p' n : ℕ}

/-- The prior is half of the full score. -/
lemma shareScore_eq (hn : 0 < n) : shareScore m p n = roundHalfUp (priorRate m p n * 100) := by
  rw [shareScore]
  split_ifs with h
  · rw [volumeBlend, priorRate_of_lt hn h]
    ring_nf
  · rw [priorRate_of_le (Nat.le_of_not_lt h)]

/-- A share as a score, which is 0 as long as nothing is known. -/
def knownScore (minSample passed total : ℕ) : ℤ :=
  if total = 0 then 0 else shareScore minSample passed total

lemma knownScore_mem (h : p ≤ n) : knownScore m p n ∈ Set.Icc (0 : ℤ) 100 := by
  rw [knownScore]
  split_ifs with hn
  · exact ⟨le_rfl, by decide⟩
  · rw [shareScore_eq (Nat.pos_of_ne_zero hn)]
    have hnonneg : 0 ≤ priorRate m p n := priorRate_nonneg
    have hle : priorRate m p n ≤ 1 := priorRate_le_one h
    have hzero := roundHalfUp_intCast 0
    have hfull := roundHalfUp_intCast 100
    constructor
    · rw [← hzero]
      exact roundHalfUp_mono (by push_cast; linarith)
    · rw [← hfull]
      exact roundHalfUp_mono (by push_cast; linarith)

lemma knownScore_mono (h : p ≤ p') : knownScore m p n ≤ knownScore m p' n := by
  rw [knownScore, knownScore]
  split_ifs with hn
  · exact le_rfl
  · rw [shareScore_eq (Nat.pos_of_ne_zero hn), shareScore_eq (Nat.pos_of_ne_zero hn)]
    have hrate : priorRate m p n ≤ priorRate m p' n := priorRate_mono h
    exact roundHalfUp_mono (by linarith)

lemma knownScore_le_success (h : p ≤ n) : knownScore m p n ≤ knownScore m (p + 1) (n + 1) := by
  rcases Nat.eq_zero_or_pos n with rfl | hn
  · exact (knownScore_mem (Nat.add_le_add_right h 1)).1
  · rw [knownScore, knownScore, if_neg hn.ne', if_neg (Nat.succ_ne_zero n), shareScore_eq hn,
      shareScore_eq n.succ_pos]
    have hrate : priorRate m p n ≤ priorRate m (p + 1) (n + 1) := priorRate_le_success h
    exact roundHalfUp_mono (by linarith)

/-- Of what is known already one more failure does not raise the score. -/
lemma knownScore_failure_le (hn : 0 < n) (h : p ≤ n) :
    knownScore m p (n + 1) ≤ knownScore m p n := by
  rw [knownScore, knownScore, if_neg hn.ne', if_neg (Nat.succ_ne_zero n), shareScore_eq hn,
    shareScore_eq n.succ_pos]
  have hrate : priorRate m p (n + 1) ≤ priorRate m p n := priorRate_failure_le h
  exact roundHalfUp_mono (by linarith)

end Share

/-! ## The components -/

namespace AgentHistory

variable (h : AgentHistory)

lemma completionScore_eq : h.completionScore =
    knownScore minForCompletion h.completedAssignments h.totalAssignments := rfl

lemma gpsComplianceScore_eq : h.gpsComplianceScore =
    knownScore minForGps h.passedCheckIns h.judgedCheckIns := rfl

lemma evidenceScore_eq : h.evidenceScore =
    knownScore minForEvidence h.onTimeCount h.totalAssignments := rfl

lemma passedCheckIns_le : h.passedCheckIns ≤ h.judgedCheckIns := Nat.le_add_right ..

lemma scoreResponseTime_mem (avg : Option ℚ) : scoreResponseTime avg ∈ Set.Icc (0 : ℤ) 100 := by
  cases avg with
  | none => exact ⟨le_rfl, by decide⟩
  | some avgMinutes =>
    rw [scoreResponseTime]
    split_ifs <;> exact ⟨by decide, by decide⟩

/-- Five stars are the full score. -/
lemma ratingScore_mem (hscore : ∀ s, h.performanceScore = some s → 0 ≤ s ∧ s ≤ 5) :
    h.ratingScore ∈ Set.Icc (0 : ℤ) 100 := by
  rw [ratingScore]
  cases hs : h.performanceScore with
  | none => exact ⟨le_rfl, by decide⟩
  | some s =>
    obtain ⟨hnonneg, hle⟩ := hscore s hs
    have hzero := roundHalfUp_intCast 0
    have hfull := roundHalfUp_intCast 100
    constructor
    · rw [← hzero]
      exact roundHalfUp_mono (by push_cast; linarith)
    · rw [← hfull]
      exact roundHalfUp_mono (by push_cast; linarith)

/-- The composite score goes with its components. -/
lemma compositeScore_mono {h h' : AgentHistory} (hcompletion : h.completionScore ≤ h'.completionScore)
    (hgps : h.gpsComplianceScore ≤ h'.gpsComplianceScore)
    (hevidence : h.evidenceScore ≤ h'.evidenceScore) (hrating : h.ratingScore ≤ h'.ratingScore)
    (hresponse : h.responseScore ≤ h'.responseScore) : h.compositeScore ≤ h'.compositeScore := by
  rw [compositeScore, compositeScore]
  refine roundHalfUp_mono ?_
  have h₁ : (h.completionScore : ℚ) ≤ h'.completionScore := by exact_mod_cast hcompletion
  have h₂ : (h.gpsComplianceScore : ℚ) ≤ h'.gpsComplianceScore := by exact_mod_cast hgps
  have h₃ : (h.evidenceScore : ℚ) ≤ h'.evidenceScore := by exact_mod_cast hevidence
  have h₄ : (h.ratingScore : ℚ) ≤ h'.ratingScore := by exact_mod_cast hrating
  have h₅ : (h.responseScore : ℚ) ≤ h'.responseScore := by exact_mod_cast hresponse
  simp only [TrustWeights.completion, TrustWeights.gps, TrustWeights.evidence,
    TrustWeights.rating, TrustWeights.response]
  linarith

end AgentHistory

/-- Each score is between nothing and the full score. -/
structure TrustScore.InRange (score : TrustScore) : Prop where
  completion : score.completionScore ∈ Set.Icc (0 : ℤ) 100
  gps : score.gpsComplianceScore ∈ Set.Icc (0 : ℤ) 100
  evidence : score.evidenceScore ∈ Set.Icc (0 : ℤ) 100
  rating : score.ratingScore ∈ Set.Icc (0 : ℤ) 100
  response : score.responseScore ∈ Set.Icc (0 : ℤ) 100
  composite : score.compositeScore ∈ Set.Icc (0 : ℤ) 100

/-- The weights add up to one. -/
lemma calculateTrustScore_inRange (h : AgentHistory)
    (hscore : ∀ s, h.performanceScore = some s → 0 ≤ s ∧ s ≤ 5) :
    (calculateTrustScore h).InRange := by
  have hcompletion : h.completionScore ∈ Set.Icc (0 : ℤ) 100 :=
    knownScore_mem List.countP_le_length
  have hgps : h.gpsComplianceScore ∈ Set.Icc (0 : ℤ) 100 := knownScore_mem h.passedCheckIns_le
  have hevidence : h.evidenceScore ∈ Set.Icc (0 : ℤ) 100 := knownScore_mem List.countP_le_length
  have hrating := h.ratingScore_mem hscore
  have hresponse : h.responseScore ∈ Set.Icc (0 : ℤ) 100 :=
    AgentHistory.scoreResponseTime_mem h.avgResponseMin
  refine ⟨hcompletion, hgps, hevidence, hrating, hresponse, ?_⟩
  show h.compositeScore ∈ Set.Icc (0 : ℤ) 100
  have hzero := roundHalfUp_intCast 0
  have hfull := roundHalfUp_intCast 100
  rw [Set.mem_Icc] at hcompletion hgps hevidence hrating hresponse
  have hcast : ∀ {k : ℤ}, 0 ≤ k ∧ k ≤ 100 → (0 : ℚ) ≤ k ∧ (k : ℚ) ≤ 100 := fun hk =>
    ⟨by exact_mod_cast hk.1, by exact_mod_cast hk.2⟩
  obtain ⟨h₁, h₁'⟩ := hcast hcompletion
  obtain ⟨h₂, h₂'⟩ := hcast hgps
  obtain ⟨h₃, h₃'⟩ := hcast hevidence
  obtain ⟨h₄, h₄'⟩ := hcast hrating
  obtain ⟨h₅, h₅'⟩ := hcast hresponse
  rw [AgentHistory.compositeScore]
  simp only [TrustWeights.completion, TrustWeights.gps, TrustWeights.evidence,
    TrustWeights.rating, TrustWeights.response]
  constructor
  · rw [← hzero]
    exact roundHalfUp_mono (by push_cast; linarith)
  · rw [← hfull]
    exact roundHalfUp_mono (by push_cast; linarith)

/-! ## What an agent can do -/

/-- The assignment when the agent has checked in at its place. -/
def FieldAssignment.passed (a : FieldAssignment) : FieldAssignment :=
  { a with geofenceResult := some .pass }

namespace AgentHistory

variable (h : AgentHistory)

/-- The case comes to have the status. -/
def moved (caseId : Id) (status : CaseStatus) : AgentHistory :=
  { h with caseOf := fun i =>
      if i = caseId then (h.caseOf i).map fun c => { c with status } else h.caseOf i }

/-- One more check-in away from the place has been rejected. -/
def rejected : AgentHistory := { h with rejections := h.rejections ++ [some .outsideGeofence] }

/-- A case that is completed counts for every assignment on it. -/
lemma compositeScore_le_moved (caseId : Id) {status : CaseStatus}
    (hstatus : status ∈ completedCaseStatuses) :
    h.compositeScore ≤ (h.moved caseId status).compositeScore := by
  have hcompleted : h.completedAssignments ≤ (h.moved caseId status).completedAssignments := by
    refine List.countP_mono_left fun a _ ha => ?_
    rw [isCompleted] at ha ⊢
    simp only [moved]
    split_ifs with hi
    · cases hc : h.caseOf a.caseId with
      | none => rw [hc] at ha; cases ha
      | some c => simpa using hstatus
    · exact ha
  -- the due time of the case is as it was
  have hontime : (h.moved caseId status).onTimeCount = h.onTimeCount := by
    refine List.countP_congr fun a _ => ?_
    have hsla : ((h.moved caseId status).caseOf a.caseId).bind AssignedCase.slaTargetAt =
        (h.caseOf a.caseId).bind AssignedCase.slaTargetAt := by
      simp only [moved]
      split_ifs
      · cases h.caseOf a.caseId <;> rfl
      · rfl
    rw [isOnTime, isOnTime, hsla]
    rfl
  refine compositeScore_mono ?_ le_rfl ?_ le_rfl le_rfl
  · rw [completionScore_eq, completionScore_eq]
    exact knownScore_mono hcompleted
  · rw [evidenceScore_eq, evidenceScore_eq, hontime]
    exact le_rfl

/-- A check-in at the place is one more success among one more check-ins. -/
lemma compositeScore_le_passed {pre post : List FieldAssignment} {a : FieldAssignment}
    (hlist : h.assignments = pre ++ a :: post) (ha : a.geofenceResult ≠ some .pass) :
    h.compositeScore ≤
      { h with assignments := pre ++ a.passed :: post : AgentHistory }.compositeScore := by
  obtain ⟨h', hh'⟩ : ∃ h' : AgentHistory, h' = { h with assignments := pre ++ a.passed :: post } :=
    ⟨_, rfl⟩
  rw [← hh']
  have htotal : h'.totalAssignments = h.totalAssignments := by
    simp [totalAssignments, hh', hlist]
  have hcompleted : h'.completedAssignments = h.completedAssignments := by
    have hsame : h'.isCompleted = h.isCompleted := by rw [hh']; rfl
    have ha' : h.isCompleted a.passed = h.isCompleted a := rfl
    rw [completedAssignments, completedAssignments, hsame, hh', hlist]
    simp [List.countP_append, List.countP_cons, ha']
  have hontime : h'.onTimeCount = h.onTimeCount := by
    have hsame : h'.isOnTime = h.isOnTime := by rw [hh']; rfl
    have ha' : h.isOnTime a.passed = h.isOnTime a := rfl
    rw [onTimeCount, onTimeCount, hsame, hh', hlist]
    simp [List.countP_append, List.countP_cons, ha']
  have hpassed : h'.passedCheckIns = h.passedCheckIns + 1 := by
    rw [passedCheckIns, passedCheckIns, hh', hlist]
    simp only [List.countP_append, List.countP_cons, FieldAssignment.passed, decide_true,
      decide_eq_true_eq, ha, if_true, if_false]
    omega
  have hjudged : h'.judgedCheckIns = h.judgedCheckIns + 1 := by
    have hrejections : h'.outsideGeofenceRejections = h.outsideGeofenceRejections := by
      rw [hh']
      rfl
    rw [judgedCheckIns, judgedCheckIns, hpassed, hrejections]
    omega
  have hresponse : h'.responseScore = h.responseScore := by
    have htimes : h'.responseTimes = h.responseTimes := by
      rw [responseTimes, responseTimes, hh', hlist]
      simp [List.filterMap_append, List.filterMap_cons, FieldAssignment.passed]
    rw [responseScore, responseScore, avgResponseMin, avgResponseMin, htimes]
  refine compositeScore_mono ?_ ?_ ?_ ?_ ?_
  · rw [completionScore_eq, completionScore_eq, hcompleted, htotal]
  · rw [gpsComplianceScore_eq, gpsComplianceScore_eq, hpassed, hjudged]
    exact knownScore_le_success h.passedCheckIns_le
  · rw [evidenceScore_eq, evidenceScore_eq, hontime, htotal]
  · rw [hh']
    exact le_rfl
  · rw [hresponse]

lemma judgedCheckIns_rejected : h.rejected.judgedCheckIns = h.judgedCheckIns + 1 := by
  have hrejections : h.rejected.outsideGeofenceRejections = h.outsideGeofenceRejections + 1 := by
    simp [outsideGeofenceRejections, rejected]
  have hpassed : h.rejected.passedCheckIns = h.passedCheckIns := rfl
  rw [judgedCheckIns, judgedCheckIns, hrejections, hpassed, Nat.add_assoc]

/-- A rejection is one more failure, for an agent of whom some check-in is known. -/
lemma compositeScore_rejected_le (hknown : 0 < h.judgedCheckIns) :
    h.rejected.compositeScore ≤ h.compositeScore := by
  refine compositeScore_mono le_rfl ?_ le_rfl le_rfl le_rfl
  rw [gpsComplianceScore_eq, gpsComplianceScore_eq, judgedCheckIns_rejected]
  exact knownScore_failure_le hknown h.passedCheckIns_le

/-- The first rejection is worth eight points. -/
lemma compositeScore_rejected_of_unknown (hunknown : h.judgedCheckIns = 0) :
    h.rejected.compositeScore = 8 + h.compositeScore := by
  have hpassed : h.passedCheckIns = 0 := by
    have hle := h.passedCheckIns_le
    omega
  have hgps : h.gpsComplianceScore = 0 := by rw [gpsComplianceScore_eq, hunknown]; rfl
  have hgps' : h.rejected.gpsComplianceScore = 40 := by
    have hpassed' : h.rejected.passedCheckIns = 0 := hpassed
    rw [gpsComplianceScore_eq, judgedCheckIns_rejected, hunknown, hpassed']
    decide +kernel
  have height : ((8 : ℤ) : ℚ) = 40 * TrustWeights.gps := by norm_num [TrustWeights.gps]
  rw [compositeScore, compositeScore, hgps, hgps', ← roundHalfUp_intCast_add, height]
  congr 1
  show h.completionScore * TrustWeights.completion + _ + h.evidenceScore * TrustWeights.evidence +
    h.ratingScore * TrustWeights.rating + h.responseScore * TrustWeights.response = _
  push_cast
  ring

/-- The scores of the agent are in range, what is done well does not lower the composite score, and
a check-in away from the place does not raise it. -/
structure Monotone : Prop where
  inRange : (∀ s, h.performanceScore = some s → 0 ≤ s ∧ s ≤ 5) → (calculateTrustScore h).InRange
  moved : ∀ caseId, ∀ status ∈ completedCaseStatuses,
    (calculateTrustScore h).compositeScore ≤
      (calculateTrustScore (h.moved caseId status)).compositeScore
  passed : ∀ pre a post, h.assignments = pre ++ a :: post → a.geofenceResult ≠ some .pass →
    (calculateTrustScore h).compositeScore ≤
      (calculateTrustScore { h with assignments := pre ++ a.passed :: post }).compositeScore
  rejected : (calculateTrustScore h.rejected).compositeScore ≤
    (calculateTrustScore h).compositeScore

end AgentHistory

/-- **The score is monotone in conduct.**  For every record of an agent: the scores are in range,
completed cases and check-ins at the place never lower the composite score and a check-in away from
the place never raises it, if and only if there is a check-in of the agent that has been judged. -/
theorem trustScore_monotone_iff (h : AgentHistory) : h.Monotone ↔ 0 < h.judgedCheckIns := by
  constructor
  · intro hmono
    by_contra hunknown
    have hraised := h.compositeScore_rejected_of_unknown (by omega)
    have hle : h.rejected.compositeScore ≤ h.compositeScore := hmono.rejected
    omega
  · intro hknown
    exact ⟨calculateTrustScore_inRange h, fun caseId status => h.compositeScore_le_moved caseId,
      fun pre a post => h.compositeScore_le_passed, h.compositeScore_rejected_le hknown⟩

/-- The first rejected check-in of an agent with no record at all. -/
theorem trustScore_not_monotone : ¬ AgentHistory.Monotone {} ∧
    (calculateTrustScore {}).compositeScore = 0 ∧
    (calculateTrustScore (AgentHistory.rejected {})).compositeScore = 8 := by
  refine ⟨fun h => absurd h.rejected (by decide +kernel), by decide +kernel, by decide +kernel⟩

end Asoju.AgentTrustScore
