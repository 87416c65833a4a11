/-
Service requests, and the cases they become.

A request becomes a case in one of two ways: staff convert it, or it is converted on its own
when the automatic decision says so, which is looked at whenever the request is created, changed
or looked at again.  Both ways read the request first and refuse one that has been converted, and
both create the case in a later action, which connects the request to it and overwrites what the
request was connected to before.
-/
import Asoju.Automation
import Asoju.Cases
import Asoju.ChecklistTemplates
import Asoju.Membership

namespace Asoju

open Lib

/-! ## The data -/

structure CreateServiceRequestDto where
  rawDescription : String
  location : Option String
  channel : String
  serviceType : Option ServiceType

/-- A field that is not given stays as it is. -/
structure UpdateServiceRequestDto where
  serviceType : Option ServiceType := none
  objective : Option String := none
  subject : Option String := none
  timing : Option String := none
  location : Option String := none

structure ConvertRequestDto where
  serviceType : ServiceType
  description : String
  location : String
  priority : Option CasePriority := none
  tier : Option CaseTier := none
  beneficiaryId : Option Id := none
  propertyId : Option Id := none
  assetId : Option Id := none

/-- What the service type makes of the priority, where staff have not chosen one. -/
def serviceTypeDefaultPriority : ServiceType → Option CasePriority
  | .bereavementSupport => some .urgent
  | _ => none

def verifiedPoaRequiredServiceTypes : List ServiceType := [.legalDocumentServices]

/-- The roles that staff have on a case of their own. -/
def collaboratorRoleByUserRole : Role → Option CollaboratorRole
  | .relationshipManager => some .relationshipManager
  | .caseManager => some .caseManager
  | .qualityControl => some .qualityControl
  | .finance => some .finance
  | .complianceRisk => some .complianceRisk
  | _ => none

/-- The number of the case under the key `i`: the sequence starts at one. -/
def caseNumberOf (i : Id) : String :=
  let digits := toString (i + 1)
  "ASJ-" ++ String.ofList (List.replicate (6 - digits.length) '0') ++ digits

example : caseNumberOf 183 = "ASJ-000184" := by decide +kernel

namespace Db

variable (d : Db)

def hasVerifiedPoa (customerId : Id) : Bool :=
  d.verifiedAsset.values.any fun a =>
    a.customerId = customerId ∧ a.type = .powerOfAttorney ∧ a.verified

/-- The database after the creation of a case that the request is connected to. -/
def convertRequest (requestId : Id) (serviceCase : ServiceCase) : Db :=
  (d.insertRow .serviceCase serviceCase).modifyRow .serviceRequest requestId fun r =>
    { r with convertedCaseId := some d.serviceCase.next }

end Db

/-! ## The methods -/

/-- The database with other tasks. -/
def Db.withTasks (d : Db) (t : Table CaseTask) (c : Time) : Db := { d with caseTask := t, clock := c }

/-- The tasks of a case are written to their table. -/
lemma createMany_caseTask_eq (d : Db) (tasks : List CaseTask) :
    ∃ t c, d.clock ≤ c ∧
      tasks.foldl (fun d task => d.insertRow .caseTask task) d = d.withTasks t c := by
  induction tasks generalizing d with
  | nil => exact ⟨_, _, le_rfl, rfl⟩
  | cons task tasks ih =>
    obtain ⟨t, c, hclock, heq⟩ := ih (d.insertRow .caseTask task)
    exact ⟨t, c, d.le_tick.trans hclock, heq⟩

namespace CasesService

/-- Creates a case and connects the request to it, whatever it was connected to. -/
def createConnected (requestId : Id) (serviceCase : ServiceCase) : Svc Id :=
  .atom (.create .serviceCase)
    (fun d =>
      if (d.serviceRequest.get? requestId).isSome then
        d.convertRequest requestId { serviceCase with createdAt := d.clock }
      else d)
    fun d =>
      if (d.serviceRequest.get? requestId).isSome then .ret d.serviceCase.next
      else .fail (.internal "Record to connect not found")

/-- Creates the case of a request, with its number, its checklist and its history. -/
def createCase (requestId : Id) (serviceCase : ServiceCase) (changedById : Option Id) :
    Svc Id := do
  let caseId ← createConnected requestId serviceCase
  let _ ← Prisma.update .serviceCase caseId fun _ c =>
    { c with caseNumber := some (caseNumberOf caseId) }
  Prisma.createMany .caseTask (checklistTasks caseId serviceCase.serviceType)
  let _ ← Prisma.create .caseStatusHistory fun t =>
    { caseId, fromStatus := none, toStatus := .draft, changedById, reason := none, createdAt := t }
  return caseId

/-- Something that is attached to a case has to belong to the customer of the request. -/
def checkOwner (m : Model) (ownerOf : Db → Id → Option Id) (field : String)
    (attached : Option Id) (customerId : Id) : Svc Unit := do
  if let some i := attached then
    let owner ← Prisma.query m (ownerOf · i)
    if owner ≠ some customerId then
      throw (.badRequest s!"{field} does not belong to this customer")

def checkBeneficiary : Option Id → Id → Svc Unit :=
  checkOwner .beneficiary (fun d i => (d.beneficiary.get? i).map Beneficiary.customerId)
    "beneficiaryId"

def checkProperty : Option Id → Id → Svc Unit :=
  checkOwner .property (fun d i => (d.property.get? i).map Property.customerId) "propertyId"

def checkAsset : Option Id → Id → Svc Unit :=
  checkOwner .asset (fun d i => (d.asset.get? i).map Asset.customerId) "assetId"

/-- Whether the service type can be offered to the customer without a power of attorney, or one
is on file. -/
def poaSettled (serviceType : ServiceType) (customerId : Id) : Svc Bool :=
  if serviceType ∈ verifiedPoaRequiredServiceTypes then
    Prisma.query .verifiedAsset (·.hasVerifiedPoa customerId)
  else return true

/-- The tier of the case, unless staff have chosen one, is the one the customer subscribes to. -/
def tierOf (chosen : Option CaseTier) (customerId : Id) : Svc CaseTier :=
  match chosen with
  | some tier => return tier
  | none => do
      let active ← Prisma.query .subscription (·.activeSubscription customerId)
      return (active.map fun x => x.2.tier).getD .essential

/-- Whoever converts a request gets access to the case. -/
def addCollaborator (actor : AuthenticatedUser) (caseId : Id) : Svc Unit := do
  if let some role := collaboratorRoleByUserRole actor.role then
    let _ ← Prisma.create .caseCollaborator fun _ => { caseId, userId := actor.id, role }

/-- Staff turn a request into a case. -/
def convertToCase (actor : AuthenticatedUser) (requestId : Id) (dto : ConvertRequestDto) :
    Svc Id := do
  let some request ← Prisma.findUnique .serviceRequest requestId
    | throw (.notFound "Service request not found")
  if request.convertedCaseId.isSome then
    throw (.notFound "Service request has already been converted")
  checkBeneficiary dto.beneficiaryId request.customerId
  checkProperty dto.propertyId request.customerId
  checkAsset dto.assetId request.customerId
  let settled ← poaSettled dto.serviceType request.customerId
  if settled = false then
    throw (.badRequest ("This service requires a verified Power of Attorney on file — the " ++
      "customer must submit one to their vault and have staff verify it before this case can be " ++
      "created"))
  let tier ← tierOf dto.tier request.customerId
  let caseId ← createCase requestId
    { customerId := request.customerId, serviceType := dto.serviceType
      description := dto.description, location := dto.location
      priority := (dto.priority <|> serviceTypeDefaultPriority dto.serviceType).getD .standard
      tier, beneficiaryId := dto.beneficiaryId, propertyId := dto.propertyId
      assetId := dto.assetId } (some actor.id)
  addCollaborator actor caseId
  Prisma.audit
  return caseId

/-- The automatic counterpart of `convertToCase`: it declines where that one throws. -/
def autoConvert (requestId : Id) : Svc Unit := do
  let some request ← Prisma.findUnique .serviceRequest requestId | return
  if request.convertedCaseId.isSome then return
  let some serviceType := request.serviceType | return
  let some location := request.location.filter (· ≠ "") | return
  let settled ← poaSettled serviceType request.customerId
  if settled = false then return
  let tier ← tierOf none request.customerId
  let _ ← createCase requestId
    { customerId := request.customerId, serviceType
      description := request.objective.getD request.rawDescription, location
      priority := (serviceTypeDefaultPriority serviceType).getD .standard, tier } none
  Prisma.audit

variable (toLowerCase : String → String)

def evaluateAutomationAndMaybeConvert (requestId : Id) : Svc AutomationDecision := do
  let decision ← AutomationEligibilityService.evaluateAndRecord toLowerCase requestId
  if decision.outcome = .auto then autoConvert requestId
  return decision

def doCreateServiceRequest (user : AuthenticatedUser) (dto : CreateServiceRequestDto) :
    Svc Id := do
  let customerId ← requireCustomerProfile user.id
  let requestId ← Prisma.create .serviceRequest fun _ =>
    { customerId, rawDescription := dto.rawDescription, location := dto.location
      channel := dto.channel, serviceType := dto.serviceType }
  Prisma.audit
  let _ ← evaluateAutomationAndMaybeConvert toLowerCase requestId
  return requestId

/-- The customer adds to a request that is not a case yet. -/
def updateServiceRequest (user : AuthenticatedUser) (requestId : Id)
    (dto : UpdateServiceRequestDto) : Svc ServiceRequest := do
  let customerId ← requireCustomerProfile user.id
  let some request := (← Prisma.findUnique .serviceRequest requestId).filter fun r =>
      r.customerId = customerId
    | throw (.notFound "Service request not found")
  if request.convertedCaseId.isSome then
    throw (.badRequest "This request has already been converted to a case")
  let updated ← Prisma.update .serviceRequest requestId fun _ r =>
    { r with
      serviceType := dto.serviceType <|> r.serviceType
      objective := dto.objective <|> r.objective
      subject := dto.subject <|> r.subject
      timing := dto.timing <|> r.timing
      location := dto.location <|> r.location }
  Prisma.audit
  let _ ← evaluateAutomationAndMaybeConvert toLowerCase requestId
  return updated

/-- Staff have the automatic decision looked at again. -/
def recomputeAutomationDecision (requestId : Id) : Svc AutomationDecision := do
  let some _ ← Prisma.findUnique .serviceRequest requestId
    | throw (.notFound "Service request not found")
  evaluateAutomationAndMaybeConvert toLowerCase requestId

end CasesService

end Asoju
