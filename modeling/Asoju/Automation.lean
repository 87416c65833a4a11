/-
Automatic decisions about service requests.

A request is evaluated against the rules for its service type: a blocked keyword blocks it, a
missing field sends it back to the customer, and a request that passes every rule is handled
automatically.  The decision is recorded, one for each request, and a request that has to be
handled by staff gets an escalation, once.

How a text is put into lower case is a parameter, `toLowerCase`.
-/
import Asoju.Prisma
import Mathlib.Data.List.Sort

namespace Asoju

open Lib

/-! ## The evaluator -/

/-- What the evaluator sees of a request. -/
structure EvaluableRequest where
  serviceType : Option ServiceType
  objective : Option String
  location : Option String
  timing : Option String
  rawDescription : String

/-- What the evaluator sees of the capability for a service type. -/
structure EvaluableCapability where
  enabled : Bool
  rules : List AutomationRule

structure EvaluationResult where
  outcome : AutomationDecisionOutcome
  reason : String
  ruleResults : List RuleResult
  capabilityEnabled : Bool
deriving DecidableEq, Repr

namespace Automation

/-- The field of this name; there is none for another name. -/
def fieldAccessors (field : String) (r : EvaluableRequest) : Option String :=
  match field with
  | "serviceType" => r.serviceType.map ServiceType.name
  | "objective" => r.objective
  | "location" => r.location
  | "timing" => r.timing
  | _ => none

def evaluateRequiredFields (request : EvaluableRequest) (rule : AutomationRule) : RuleResult :=
  let missing := rule.config.filter fun f => isBlank (fieldAccessors f request)
  let joined := ", ".intercalate missing
  { ruleId := rule.id, kind := .requiredFields, passed := missing.isEmpty
    detail := if missing.isEmpty then none else some s!"Missing: {joined}" }

/-- `String.prototype.includes`. -/
def includes (s t : String) : Bool := decide (t.toList <:+: s.toList)

variable (toLowerCase : String → String)

def evaluateBlockedKeywords (request : EvaluableRequest) (rule : AutomationRule) : RuleResult :=
  let objective := request.objective.getD ""
  let haystack := toLowerCase s!"{request.rawDescription} {objective}"
  -- The empty keyword counts as none.
  let matched := (rule.config.find? fun k => includes haystack (toLowerCase k)).filter (· ≠ "")
  { ruleId := rule.id, kind := .blockedKeywords, passed := matched.isNone
    detail := matched.map fun k => s!"Matched blocked keyword: {k}" }

def evaluateRule (request : EvaluableRequest) (rule : AutomationRule) : RuleResult :=
  if rule.kind = .blockedKeywords then evaluateBlockedKeywords toLowerCase request rule
  else evaluateRequiredFields request rule

/-- A block takes precedence over what is missing. -/
def evaluate (request : EvaluableRequest) (capability : Option EvaluableCapability) :
    EvaluationResult :=
  match request.serviceType, capability with
  | none, _ => ⟨.customerInput, "Service type has not been determined yet", [], false⟩
  | some serviceType, none =>
      ⟨.unsupported, s!"Automation is not offered for {serviceType.name} yet", [], false⟩
  | some serviceType, some capability =>
      if capability.enabled = false then
        ⟨.escalate, s!"Automation is currently disabled for {serviceType.name}", [], false⟩
      else
        let ruleResults := capability.rules.map (evaluateRule toLowerCase request)
        match ruleResults.find? fun r => r.kind = .blockedKeywords ∧ ¬ r.passed with
        | some blocked =>
            ⟨.blocked, blocked.detail.getD "A blocked-keyword rule matched", ruleResults, true⟩
        | none =>
            match ruleResults.find? fun r => r.kind = .requiredFields ∧ ¬ r.passed with
            | some missingFields =>
                ⟨.customerInput, missingFields.detail.getD "Required information is missing",
                  ruleResults, true⟩
            | none => ⟨.auto, "Every configured rule passed", ruleResults, true⟩

/-- **When a request is handled automatically**: its service type is known, offered and
enabled, and it passes every rule. -/
theorem evaluate_auto_iff (request : EvaluableRequest)
    (capability : Option EvaluableCapability) :
    (evaluate toLowerCase request capability).outcome = .auto ↔
      request.serviceType.isSome ∧ ∃ c, capability = some c ∧ c.enabled = true ∧
        ∀ rule ∈ c.rules, (evaluateRule toLowerCase request rule).passed = true := by
  unfold evaluate
  split
  · rename_i hnone
    simp [hnone]
  · rename_i hsome
    simp [hsome]
  · rename_i serviceType c hsome
    rw [hsome]
    by_cases henabled : c.enabled = false
    · simp [henabled]
    · rw [if_neg henabled]
      rw [Bool.not_eq_false] at henabled
      dsimp only
      split
      · -- A block is a rule that has not passed.
        rename_i blocked hblocked
        obtain ⟨rule, hrule, rfl⟩ := List.mem_map.mp (List.mem_of_find?_eq_some hblocked)
        have hfails := List.find?_some hblocked
        simp only [decide_eq_true_eq] at hfails
        refine iff_of_false (by simp) ?_
        rintro ⟨-, c', hc, -, hpassed⟩
        cases hc
        exact hfails.2 (hpassed rule hrule)
      · rename_i hblocked
        split
        · rename_i missingFields hmissing
          obtain ⟨rule, hrule, rfl⟩ := List.mem_map.mp (List.mem_of_find?_eq_some hmissing)
          have hfails := List.find?_some hmissing
          simp only [decide_eq_true_eq] at hfails
          refine iff_of_false (by simp) ?_
          rintro ⟨-, c', hc, -, hpassed⟩
          cases hc
          exact hfails.2 (hpassed rule hrule)
        · rename_i hmissing
          refine iff_of_true rfl ⟨rfl, c, rfl, henabled, fun rule hrule => ?_⟩
          have hb := List.find?_eq_none.mp hblocked _ (List.mem_map_of_mem hrule)
          have hm := List.find?_eq_none.mp hmissing _ (List.mem_map_of_mem hrule)
          simp only [decide_eq_true_eq, not_and, not_not] at hb hm
          cases hkind : (evaluateRule toLowerCase request rule).kind with
          | blockedKeywords => exact hb hkind
          | requiredFields => exact hm hkind

/-- A rule with an empty configuration never stands in the way. -/
example : (evaluate id ⟨some .procurement, none, none, none, "A generator"⟩
    (some ⟨true, [⟨0, .requiredFields, [], 0⟩, ⟨1, .blockedKeywords, [""], 1⟩]⟩)).outcome =
      .auto := by decide +kernel

end Automation

/-! ## The recorded decision -/

namespace EscalationService

def createForServiceRequest (serviceRequestId : Id) (reasonCategory : EscalationReasonCategory)
    (customerMessage : String) (internalReason : Option String) : Svc Id := do
  let escalationId ← Prisma.create .escalation fun _ =>
    { serviceRequestId := some serviceRequestId, reasonCategory, customerMessage, internalReason }
  Prisma.audit
  return escalationId

end EscalationService

/-- The decision about the request; there is at most one. -/
def Db.decisionByRequest (d : Db) (serviceRequestId : Id) : Option (Id × AutomationDecision) :=
  d.automationDecision.rows.find? fun p => p.2.serviceRequestId = serviceRequestId

/-- The outcome of the decision about the request that the case has come from. -/
def Db.originRequestOutcome (d : Db) (caseId : Id) : Option AutomationDecisionOutcome :=
  ((d.serviceRequest.rows.find? fun p => p.2.convertedCaseId = some caseId).bind fun p =>
    d.decisionByRequest p.1).map fun p => p.2.outcome

/-- The capability for the service type, with its rules in their order. -/
def Db.capabilityFor (d : Db) (serviceType : ServiceType) : Option EvaluableCapability :=
  (d.automationCapability.values.find? fun c => c.serviceType = serviceType).map fun c =>
    ⟨c.enabled, c.rules.mergeSort fun a b => a.sortOrder ≤ b.sortOrder⟩

namespace AutomationEligibilityService

variable (toLowerCase : String → String)

/-- The capability for the service type of a request, once that is known. -/
def findCapability : Option ServiceType → Svc (Option EvaluableCapability)
  | some serviceType => Prisma.query .automationCapability (·.capabilityFor serviceType)
  | none => return none

/-- The escalation of the request: a request is escalated at most once. -/
def escalationOf (serviceRequestId : Id) (result : EvaluationResult) (existing : Option Id) :
    Svc (Option Id) :=
  if result.outcome = .escalate ∧ existing = none then do
    let created ← EscalationService.createForServiceRequest serviceRequestId .automationUnavailable
      "We're reviewing your request with a member of the team and will be in touch shortly."
      (some result.reason)
    return some created
  else return existing

/-- Evaluates the request and records the decision. -/
def evaluateAndRecord (serviceRequestId : Id) : Svc AutomationDecision := do
  let some request ← Prisma.findUnique .serviceRequest serviceRequestId
    | throw (.internal "No ServiceRequest found")
  let capability ← findCapability request.serviceType
  let result := Automation.evaluate toLowerCase
    { serviceType := request.serviceType, objective := request.objective
      location := request.location, timing := request.timing
      rawDescription := request.rawDescription } capability
  let existing ← Prisma.query .automationDecision (·.decisionByRequest serviceRequestId)
  let escalationId ← escalationOf serviceRequestId result
    (existing.bind fun x => x.2.escalationId)
  let decision ← Prisma.upsert .automationDecision
    (fun d => (d.decisionByRequest serviceRequestId).map Prod.fst)
    (fun t =>
      { serviceRequestId, outcome := result.outcome, reason := result.reason
        ruleResults := result.ruleResults, capabilityEnabled := result.capabilityEnabled
        escalationId, decidedAt := t })
    fun t decision =>
      { decision with
        outcome := result.outcome, reason := result.reason, ruleResults := result.ruleResults
        capabilityEnabled := result.capabilityEnabled, escalationId, decidedAt := t }
  Prisma.audit
  return decision

end AutomationEligibilityService

end Asoju
