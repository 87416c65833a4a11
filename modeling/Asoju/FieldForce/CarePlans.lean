/-
Recurring care plans of FieldForce: a plan, the visits that are generated for it, and what becomes
of them.

Visits are generated in two ways: for some weeks ahead, in a loop, and one at a time when a visit
has been completed or missed.  Both go on from the newest visit of the plan.  The operations are
programs over a store of plans and visits, each access one action.  Notes, the report of a visit and
the name of its agent are left out, and the service report that follows a completion.

Dates are numbers of milliseconds, and the days and weekdays are those of a zone whose distance to
UTC is fixed, as that of Africa/Lagos is.
-/
import Asoju.FieldForce.Schema
import Asoju.Lib.Grouped
import Asoju.Lib.Sorting

namespace Asoju.FieldForce

open Lib

namespace CarePlans

inductive CarePlanFrequency
  | daily | weekly | biweekly | monthly
deriving DecidableEq, Repr

/-- `CARE_PLAN_FREQUENCIES[frequency].daysBetween`. -/
def CarePlanFrequency.daysBetween : CarePlanFrequency → ℤ
  | daily => 1
  | weekly => 7
  | biweekly => 14
  | monthly => 30

inductive CarePlanStatus
  | active | paused | cancelled | expired
deriving DecidableEq, Repr

def CarePlanStatus.text : CarePlanStatus → String
  | active => "ACTIVE"
  | paused => "PAUSED"
  | cancelled => "CANCELLED"
  | expired => "EXPIRED"

inductive CareVisitStatus
  | scheduled | dispatched | inProgress | completed | missed | cancelled
deriving DecidableEq, Repr

def CareVisitStatus.text : CareVisitStatus → String
  | scheduled => "SCHEDULED"
  | dispatched => "DISPATCHED"
  | inProgress => "IN_PROGRESS"
  | completed => "COMPLETED"
  | missed => "MISSED"
  | cancelled => "CANCELLED"

structure CarePlan where
  customerId : Id
  frequency : CarePlanFrequency
  preferredDay : Option String := none
  preferredTime : Option String := none
  status : CarePlanStatus := .active
  startDate : Time
  endDate : Option Time := none
  /-- Missing for a plan without a limit. -/
  maxVisits : Option ℤ := none
  totalVisits : ℤ := 0
  completedVisits : ℤ := 0
  missedVisits : ℤ := 0
  nextVisitDate : Option Time := none
  costPerVisit : ℤ
  totalBilled : ℤ := 0
deriving DecidableEq, Repr

structure CareVisit where
  carePlanId : Id
  scheduledDate : Time
  scheduledTime : String
  visitNumber : ℤ
  status : CareVisitStatus := .scheduled
  dispatchedAt : Option Time := none
  completedAt : Option Time := none
  agentId : Option Id := none
deriving DecidableEq, Repr

structure Store where
  carePlan : Table CarePlan := .empty
  careVisit : Table CareVisit := .empty

inductive Model
  | carePlan | careVisit
deriving DecidableEq, Repr

def carePlans : TableOf Store Model CarePlan :=
  ⟨.carePlan, Store.carePlan, fun t s => { s with carePlan := t }, fun _ _ => rfl⟩

def careVisits : TableOf Store Model CareVisit :=
  ⟨.careVisit, Store.careVisit, fun t s => { s with careVisit := t }, fun _ _ => rfl⟩

/-- A program over the plans and their visits. -/
abbrev Work (α : Type) := Prog Store (Access Model) Failure α

/-- The visits of a plan, in the order of their creation. -/
def visitsOf (s : Store) (planId : Id) : List CareVisit :=
  s.careVisit.group CareVisit.carePlanId planId

/-! ## Dates -/

/-- What the dates depend on besides their numbers. -/
structure Locale where
  /-- What is added to a date to read the local one. -/
  utcOffset : ℤ
  toUpperCase : String → String

def msPerDay : ℤ := 24 * 60 * 60 * 1000

def dayNames : List String := ["SUN", "MON", "TUE", "WED", "THU", "FRI", "SAT"]

section Dates

variable (loc : Locale)

/-- `getDay`: the weekday, from Sunday on.  The day of the number zero was a Thursday. -/
def getDay (date : Time) : ℤ := ((date + loc.utcOffset) / msPerDay + 4) % 7

/-- `setDate(getDate() + days)`. -/
def addDays (date : Time) (days : ℤ) : Time := date + days * msPerDay

/-- The days to the next preferred day.  A name that is not one of a day is ignored. -/
def daysToAdd (nextDate : Time) (frequency : CarePlanFrequency) (preferredDay : Option String) :
    ℤ :=
  match preferredDay with
  | none => 0
  | some day =>
      if frequency = .weekly ∨ frequency = .biweekly then
        match dayNames.idxOf? (loc.toUpperCase day) with
        | none => 0
        | some targetDayIndex =>
            if getDay loc nextDate = targetDayIndex then 0
            else if targetDayIndex - getDay loc nextDate ≤ 0 then
              targetDayIndex - getDay loc nextDate + 7
            else targetDayIndex - getDay loc nextDate
      else 0

def calculateNextVisitDate (fromDate : Time) (frequency : CarePlanFrequency)
    (preferredDay : Option String) : Time :=
  let nextDate := addDays fromDate frequency.daysBetween
  addDays nextDate (daysToAdd loc nextDate frequency preferredDay)

lemma daysToAdd_nonneg (nextDate : Time) (frequency : CarePlanFrequency)
    (preferredDay : Option String) : 0 ≤ daysToAdd loc nextDate frequency preferredDay := by
  have hday : getDay loc nextDate < 7 := Int.emod_lt_of_pos _ (by decide)
  unfold daysToAdd
  split
  · exact le_rfl
  · split
    · split
      · exact le_rfl
      · split_ifs <;> omega
    · exact le_rfl

lemma lt_addDays (date : Time) {days : ℤ} (h : 1 ≤ days) : date < addDays date days := by
  have hms : 0 < days * msPerDay := Int.mul_pos (by omega) (by decide)
  exact Int.lt_add_of_pos_right date hms

/-- The next visit is later by a day at least. -/
lemma lt_calculateNextVisitDate (fromDate : Time) (frequency : CarePlanFrequency)
    (preferredDay : Option String) :
    fromDate < calculateNextVisitDate loc fromDate frequency preferredDay := by
  have hdays : 1 ≤ frequency.daysBetween := by cases frequency <;> decide
  have hadd := daysToAdd_nonneg loc (addDays fromDate frequency.daysBetween) frequency preferredDay
  refine (lt_addDays fromDate hdays).trans_le (Int.le_add_of_nonneg_right ?_)
  exact Int.mul_nonneg hadd (by decide)

/-- The date of the visit after `fromDate`. -/
def nextDate (plan : CarePlan) (fromDate : Time) : Time :=
  calculateNextVisitDate loc fromDate plan.frequency plan.preferredDay

lemma lt_nextDate (plan : CarePlan) (fromDate : Time) : fromDate < nextDate loc plan fromDate :=
  lt_calculateNextVisitDate loc ..

end Dates

/-! ## Generation of visits -/

/-- The newest visit: the one with the latest date. -/
def lastVisit (visits : List CareVisit) : Option CareVisit :=
  (sortDesc CareVisit.scheduledDate visits).head?

/-- Where the generation of visits goes on from. -/
def fromDate (plan : CarePlan) (visits : List CareVisit) : Time :=
  (lastVisit visits).elim plan.startDate CareVisit.scheduledDate

def lastNumber (visits : List CareVisit) : ℤ := (lastVisit visits).elim 0 CareVisit.visitNumber

/-- A visit as it is generated. -/
def newVisit (planId : Id) (plan : CarePlan) (scheduledDate : Time) (visitNumber : ℤ) :
    CareVisit where
  carePlanId := planId
  scheduledDate := scheduledDate
  scheduledTime := plan.preferredTime.getD "09:00"
  visitNumber := visitNumber

/-- The limit on the number of visits.  A limit of zero is none. -/
def visitLimit (plan : CarePlan) : Option ℤ := plan.maxVisits.filter fun m => m ≠ 0

/-- How many visits the limit leaves. -/
def remainingVisits (plan : CarePlan) : Option ℤ :=
  (visitLimit plan).map fun m => m - plan.totalVisits

/-- The last date for which visits are generated that many weeks ahead. -/
def effectiveCutoff (plan : CarePlan) (weeks : ℤ) (now : Time) : Time :=
  plan.endDate.elim (addDays now (weeks * 7)) (min (addDays now (weeks * 7)))

/-- The condition of the loop that generates visits, after `made` of them. -/
def goesOn (plan : CarePlan) (cutoff currentDate : Time) (made : ℕ) : Bool :=
  currentDate ≤ cutoff ∧ (remainingVisits plan).all fun remaining => (made : ℤ) < remaining

/-- A later date is closer to the cutoff. -/
lemma toNat_sub_lt {cutoff date later : ℤ} (h : date ≤ cutoff) (hlt : date < later) :
    (cutoff + 1 - later).toNat < (cutoff + 1 - date).toNat := by
  omega

section Operations

variable (loc : Locale)

/-- The loop that generates visits, from `currentDate` on. -/
def generateLoop (planId : Id) (plan : CarePlan) (cutoff currentDate : Time) (visitNumber : ℤ)
    (visits : List CareVisit) : Work (List CareVisit) :=
  if h : goesOn plan cutoff currentDate visits.length = true then do
    let existing ← Client.findFirst careVisits fun v =>
      v.carePlanId = planId ∧ v.scheduledDate = currentDate
    let visits ← if existing.isNone then do
        let visit := newVisit planId plan currentDate (visitNumber + 1)
        let _ ← Client.create careVisits visit
        pure (visits ++ [visit])
      else pure visits
    generateLoop planId plan cutoff (nextDate loc plan currentDate) (visitNumber + 1) visits
  else pure visits
termination_by (cutoff + 1 - currentDate).toNat
decreasing_by
  exact toNat_sub_lt (of_decide_eq_true h).1 (lt_nextDate loc plan currentDate)

/-- The error for a plan that is not there. -/
def planNotFound (planId : Id) : Failure := .thrown s!"Care plan not found: {planId}"

def visitNotFound (visitId : Id) : Failure := .thrown s!"Care visit not found: {visitId}"

/-- The plan after visits have been generated for it. -/
def generated (visits : List CareVisit) (p : CarePlan) : CarePlan :=
  { p with
    totalVisits := p.totalVisits + visits.length
    nextVisitDate := visits.head?.map CareVisit.scheduledDate }

def generateUpcomingVisits (planId : Id) (weeks : ℤ) (now : Time) : Work (List CareVisit) := do
  let some plan ← Client.findUnique carePlans planId | throw (planNotFound planId)
  let existing ← Client.query .careVisit fun s => visitsOf s planId
  let visits ← generateLoop loc planId plan (effectiveCutoff plan weeks now)
    (nextDate loc plan (fromDate plan existing)) (lastNumber existing) []
  if visits ≠ [] then Client.update carePlans .recordNotFound planId (generated visits)
  return visits

/-- Whether the limit on the number of visits is reached. -/
def reachedLimit (plan : CarePlan) (n : ℤ) : Bool := (visitLimit plan).any fun m => m ≤ n

/-- Whether a date is past the end of the plan. -/
def isPastEnd (plan : CarePlan) (date : Time) : Bool :=
  plan.endDate.any fun endDate => endDate < date

/-- The plan after its next visit would have been too late. -/
def expire (p : CarePlan) : CarePlan := { p with status := .expired, nextVisitDate := none }

/-- The plan after one more visit on the given date. -/
def extend (date : Time) (p : CarePlan) : CarePlan :=
  { p with totalVisits := p.totalVisits + 1, nextVisitDate := some date }

def scheduleNextVisit (planId : Id) : Work (Option CareVisit) := do
  let some plan ← Client.findUnique carePlans planId | throw (planNotFound planId)
  if plan.status ≠ .active then
    throw (.thrown s!"Cannot schedule next visit for plan in status: {plan.status.text}")
  if reachedLimit plan plan.totalVisits then
    throw (.thrown s!"Care plan has reached max visits ({plan.maxVisits.getD 0})")
  let existing ← Client.query .careVisit fun s => visitsOf s planId
  let date := nextDate loc plan (fromDate plan existing)
  if isPastEnd plan date then do
    Client.update carePlans .recordNotFound planId expire
    return none
  else do
    let visit := newVisit planId plan date (lastNumber existing + 1)
    let _ ← Client.create careVisits visit
    Client.update carePlans .recordNotFound planId (extend date)
    return some visit

/-! ## Plans -/

structure CreateCarePlanInput where
  customerId : Id
  frequency : CarePlanFrequency
  preferredDay : Option String := none
  preferredTime : Option String := none
  startDate : Time
  endDate : Option Time := none
  maxVisits : Option ℤ := none
  costPerVisit : ℤ
deriving DecidableEq, Repr

/-- A text as `|| null` keeps it. -/
def textOrNull (text : Option String) : Option String := text.filter fun t => t ≠ ""

/-- The row of a new plan. -/
def newPlan (input : CreateCarePlanInput) : CarePlan where
  customerId := input.customerId
  frequency := input.frequency
  preferredDay := textOrNull input.preferredDay
  preferredTime := textOrNull input.preferredTime
  startDate := input.startDate
  endDate := input.endDate
  maxVisits := input.maxVisits.filter fun m => m ≠ 0
  costPerVisit := input.costPerVisit

/-- The plan after its first visits have been generated. -/
def begun (visits : List CareVisit) (p : CarePlan) : CarePlan :=
  { p with
    totalVisits := visits.length
    nextVisitDate := visits.head?.map CareVisit.scheduledDate }

def createCarePlan (input : CreateCarePlanInput) (now : Time) : Work CarePlan := do
  let planId ← Client.create carePlans (newPlan input)
  let visits ← generateUpcomingVisits loc planId 4 now
  Client.updateRow carePlans .recordNotFound planId (begun visits)

def activateCarePlan (planId : Id) : Work CarePlan := do
  let some plan ← Client.findUnique carePlans planId | throw (planNotFound planId)
  if plan.status ≠ .paused then
    throw (.thrown (s!"Cannot activate care plan in status: {plan.status.text}. " ++
      "Only PAUSED plans can be activated."))
  Client.updateRow carePlans .recordNotFound planId fun p => { p with status := .active }

def pauseCarePlan (planId : Id) : Work CarePlan := do
  let some plan ← Client.findUnique carePlans planId | throw (planNotFound planId)
  if plan.status ≠ .active then
    throw (.thrown (s!"Cannot pause care plan in status: {plan.status.text}. " ++
      "Only ACTIVE plans can be paused."))
  Client.updateRow carePlans .recordNotFound planId fun p => { p with status := .paused }

/-- A visit of the plan that nobody has been sent to. -/
def isScheduled (planId : Id) (v : CareVisit) : Bool :=
  v.carePlanId = planId ∧ v.status = .scheduled

def cancelVisit (v : CareVisit) : CareVisit := { v with status := .cancelled }

def cancelCarePlan (planId : Id) : Work CarePlan := do
  let some plan ← Client.findUnique carePlans planId | throw (planNotFound planId)
  if plan.status = .cancelled ∨ plan.status = .expired then
    throw (.thrown s!"Cannot cancel care plan in status: {plan.status.text}")
  let _ ← Client.updateMany careVisits (isScheduled planId) cancelVisit
  Client.updateRow carePlans .recordNotFound planId fun p => { p with status := .cancelled }

/-! ## Visits -/

def dispatchVisit (agentId : Id) (now : Time) (v : CareVisit) : CareVisit :=
  { v with status := .dispatched, dispatchedAt := some now, agentId := some agentId }

def dispatchCareVisit (visitId agentId : Id) (now : Time) : Work CareVisit := do
  let some visit ← Client.findUnique careVisits visitId | throw (visitNotFound visitId)
  if visit.status ≠ .scheduled then
    throw (.thrown (s!"Cannot dispatch visit in status: {visit.status.text}. " ++
      "Only SCHEDULED visits can be dispatched."))
  Client.updateRow careVisits .recordNotFound visitId (dispatchVisit agentId now)

/-- A visit with its plan. -/
def visitWithPlan (visitId : Id) (s : Store) : Option (CareVisit × CarePlan) := do
  let visit ← s.careVisit.get? visitId
  let plan ← s.carePlan.get? visit.carePlanId
  return (visit, plan)

def completeVisit (now : Time) (v : CareVisit) : CareVisit :=
  { v with status := .completed, completedAt := some now }

/-- The status of the plan after one more of its visits has been completed. -/
def statusAfter (now : Time) (plan : CarePlan) : CarePlanStatus :=
  if reachedLimit plan (plan.completedVisits + 1) then .expired
  else if isPastEnd plan (nextDate loc plan now) then .expired
  else plan.status

/-- The plan after one more of its visits has been completed, by what has been read of it. -/
def countCompleted (now : Time) (plan p : CarePlan) : CarePlan :=
  { p with
    completedVisits := plan.completedVisits + 1
    nextVisitDate :=
      if statusAfter loc now plan = .active then some (nextDate loc plan now) else none
    totalBilled := (plan.completedVisits + 1) * plan.costPerVisit
    status := statusAfter loc now plan }

/-- A failure of `scheduleNextVisit` is only logged. -/
def tryScheduleNext (planId : Id) : Work Unit :=
  tryCatch (do let _ ← scheduleNextVisit loc planId) fun _ => pure ()

def completeCareVisit (visitId : Id) (now : Time) : Work CareVisit := do
  let some (visit, plan) ← Client.query .careVisit (visitWithPlan visitId)
    | throw (visitNotFound visitId)
  if visit.status = .completed ∨ visit.status = .cancelled then
    throw (.thrown s!"Cannot complete visit in status: {visit.status.text}")
  let completedVisit ← Client.updateRow careVisits .recordNotFound visitId (completeVisit now)
  Client.update carePlans .recordNotFound visit.carePlanId (countCompleted loc now plan)
  if statusAfter loc now plan = .active then tryScheduleNext loc visit.carePlanId
  return completedVisit

def missVisit (v : CareVisit) : CareVisit := { v with status := .missed }

def countMissed (p : CarePlan) : CarePlan := { p with missedVisits := p.missedVisits + 1 }

def markVisitMissed (visitId : Id) : Work CareVisit := do
  let some (visit, _) ← Client.query .careVisit (visitWithPlan visitId)
    | throw (visitNotFound visitId)
  if visit.status ≠ .scheduled ∧ visit.status ≠ .dispatched then
    throw (.thrown s!"Cannot mark visit as missed in status: {visit.status.text}")
  let missedVisit ← Client.updateRow careVisits .recordNotFound visitId missVisit
  Client.update carePlans .recordNotFound visit.carePlanId countMissed
  tryScheduleNext loc visit.carePlanId
  return missedVisit

end Operations

end CarePlans

end Asoju.FieldForce
