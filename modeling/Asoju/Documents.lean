/-
What is shown of a case, and which of its documents.

Two endpoints show the documents of a case: the one of the case (`CasesService.getCaseDetail`) and
the one of its documents (`DocumentsService.listForCase`).  Both stand behind `CaseAccessGuard`.
Each narrows the documents down by itself: for those in the field both leave out what is for staff
or for another assignment, and for a beneficiary the first has a query of its own.

How a storage key becomes a link is a parameter.  The names of persons are left out.
-/
import Asoju.Automation
import Asoju.CaseAccess
import Asoju.Lib.Sorting

namespace Asoju

open Lib (sortAsc sortDesc)

/-- A row under its key. -/
abbrev Row (β : Type) : Type := Id × β

/-! ## The documents for an actor in the field -/

/-- A document is for everyone on the case, for staff, or for one assignment. -/
def visibleToFieldActor (ownAssignmentIds : List Id) (doc : Document) : Bool :=
  match doc.visibility with
  | .staffOnly => false
  | .assignee => doc.restrictedToAssignmentId.any fun id => id ∈ ownAssignmentIds
  | .all => true

def filterDocumentsForFieldActor (documents : List (Row Document)) (ownAssignmentIds : List Id) :
    List (Row Document) :=
  documents.filter fun p => visibleToFieldActor ownAssignmentIds p.2

namespace Db

variable (d : Db) (caseId : Id)

/-- The rows of a table that belong to a case. -/
def rowsOf {β : Type} (t : Lib.Table β) (ofCase : β → Id) : List (Row β) :=
  t.rows.filter fun p => ofCase p.2 = caseId

/-- The assignments of the case that the user holds. -/
def ownAssignmentIds (userId : Id) : List Id :=
  ((rowsOf caseId d.assignment Assignment.caseId).filter fun p =>
    d.holdsAssignment userId p.2).map Prod.fst

/-- The documents of the case, the newest first. -/
def documentsOf : List (Row Document) :=
  sortDesc (fun p => p.2.createdAt) (rowsOf caseId d.document Document.caseId)

end Db

/-! ## The responses -/

inductive ServiceFamily
  | arrivals | inspect | build | care | verify | assist
deriving DecidableEq, Repr

def familyForServiceType : ServiceType → ServiceFamily
  | .arrivalSupport => .arrivals
  | .propertyInspection => .inspect
  | .assetInspection => .inspect
  | .constructionSupervision => .build
  | .familySupport => .care
  | .bereavementSupport => .care
  | .businessVerification => .verify
  | .procurement => .assist
  | .investmentSupport => .assist
  | .agricultureSupport => .assist
  | .legalDocumentServices => .verify
  | .healthcareCoordination => .care

/-- A document with a link to its file. -/
structure DocumentWithView where
  id : Id
  document : Document
  viewUrl : String
deriving DecidableEq, Repr

/-- A document as a beneficiary is shown it. -/
structure BeneficiaryDocument where
  id : Id
  label : String
  createdAt : Time
  viewUrl : String
deriving DecidableEq, Repr

/-- The case as a beneficiary is shown it. -/
structure BeneficiaryCaseDetail where
  id : Id
  caseNumber : Option String
  serviceType : ServiceType
  status : CaseStatus
  location : String
  description : String
  statusHistory : List (CaseStatus × Time)
  assignments : List (AssignmentRole × AssignmentStatus × Option Time)
  evidence : List Id
  documents : List BeneficiaryDocument
  reports : List (Id × String × Option String × Time)
  serviceFamily : ServiceFamily
deriving DecidableEq, Repr

/-- The case as everybody else is shown it. -/
structure CaseDetail where
  id : Id
  serviceCase : ServiceCase
  customerUserId : Option Id
  tasks : List (Row CaseTask)
  statusHistory : List (Row CaseStatusHistory)
  riskFlags : List (Row CaseRiskFlag)
  incidents : List (Row Incident)
  collaborators : List (Row CaseCollaborator)
  assignments : List (Row Assignment)
  evidence : List (Row Evidence)
  documents : List DocumentWithView
  reports : List (Row Report)
  quotes : List (Row Quote)
  invoices : List (Row Invoice × List (Row Payment))
  approvals : List (Row Approval)
  originRequestOutcome : Option AutomationDecisionOutcome
  scopes : List (Row CaseScope)
  serviceFamily : ServiceFamily
deriving DecidableEq, Repr

inductive CaseResponse
  | beneficiary (detail : BeneficiaryCaseDetail)
  | full (detail : CaseDetail)
deriving DecidableEq, Repr

/-! ## The services -/

variable (getViewUrl : String → String) (d : Db) (actor : AuthenticatedUser) (caseId : Id)

def withView (p : Row Document) : DocumentWithView := ⟨p.1, p.2, getViewUrl p.2.storageKey⟩

namespace DocumentsService

def listForCase : List DocumentWithView :=
  let documents := d.documentsOf caseId
  let visible :=
    if actor.role ∈ fieldRoles then
      filterDocumentsForFieldActor documents (d.ownAssignmentIds caseId actor.id)
    else documents
  visible.map (withView getViewUrl)

end DocumentsService

namespace CasesService

/-- The documents of the case that a beneficiary is shown. -/
def beneficiaryDocuments : List (Row Document) :=
  sortDesc (fun p => p.2.createdAt)
    ((Db.rowsOf caseId d.document Document.caseId).filter fun p => p.2.visibility = .all)

def toBeneficiaryCaseDetail (serviceCase : ServiceCase) : BeneficiaryCaseDetail where
  id := caseId
  caseNumber := serviceCase.caseNumber
  serviceType := serviceCase.serviceType
  status := serviceCase.status
  location := serviceCase.location
  description := serviceCase.description
  statusHistory := (sortAsc CaseStatusHistory.createdAt
    ((Db.rowsOf caseId d.caseStatusHistory CaseStatusHistory.caseId).map Prod.snd)).map
      fun h => (h.toStatus, h.createdAt)
  assignments := (Db.rowsOf caseId d.assignment Assignment.caseId).map
    fun p => (p.2.role, p.2.status, p.2.scheduledFor)
  evidence := (Db.rowsOf caseId d.evidence Evidence.caseId).map Prod.fst
  documents := (beneficiaryDocuments d caseId).map
    fun p => ⟨p.1, p.2.label, p.2.createdAt, getViewUrl p.2.storageKey⟩
  reports := (sortDesc (fun p => p.2.createdAt) (Db.rowsOf caseId d.report Report.caseId)).map
    fun p => (p.1, p.2.summary, p.2.limitation, p.2.createdAt)
  serviceFamily := familyForServiceType serviceCase.serviceType

/-- The documents of the case that anybody else is shown. -/
def visibleDocuments : List (Row Document) :=
  if actor.role = .fieldAgent ∨ actor.role = .provider then
    filterDocumentsForFieldActor (d.documentsOf caseId)
      (((Db.rowsOf caseId d.assignment Assignment.caseId).filter fun p =>
        d.holdsAssignment actor.id p.2).map Prod.fst)
  else d.documentsOf caseId

def toCaseDetail (serviceCase : ServiceCase) : CaseDetail where
  id := caseId
  serviceCase := serviceCase
  customerUserId := (d.customer.get? serviceCase.customerId).map Customer.userId
  tasks := sortAsc (fun p => p.2.sortOrder) (Db.rowsOf caseId d.caseTask CaseTask.caseId)
  statusHistory := sortAsc (fun p => p.2.createdAt)
    (Db.rowsOf caseId d.caseStatusHistory CaseStatusHistory.caseId)
  riskFlags := Db.rowsOf caseId d.caseRiskFlag CaseRiskFlag.caseId
  incidents := Db.rowsOf caseId d.incident Incident.caseId
  collaborators := Db.rowsOf caseId d.caseCollaborator CaseCollaborator.caseId
  assignments := Db.rowsOf caseId d.assignment Assignment.caseId
  evidence := Db.rowsOf caseId d.evidence Evidence.caseId
  documents := (visibleDocuments d actor caseId).map (withView getViewUrl)
  reports := Db.rowsOf caseId d.report Report.caseId
  quotes := Db.rowsOf caseId d.quote Quote.caseId
  invoices := (Db.rowsOf caseId d.invoice Invoice.caseId).map fun p =>
    (p, d.payment.rows.filter fun x => x.2.invoiceId = p.1)
  approvals := sortAsc (fun p => p.2.createdAt) (Db.rowsOf caseId d.approval Approval.caseId)
  originRequestOutcome := d.originRequestOutcome caseId
  scopes := sortDesc (fun p => p.2.version) (Db.rowsOf caseId d.caseScope CaseScope.caseId)
  serviceFamily := familyForServiceType serviceCase.serviceType

def getCaseDetail : Except HttpError CaseResponse :=
  match d.serviceCase.get? caseId with
  | none => .error (.notFound "Case not found")
  | some serviceCase =>
      if actor.role = .beneficiary then
        .ok (.beneficiary (toBeneficiaryCaseDetail getViewUrl d caseId serviceCase))
      else .ok (.full (toCaseDetail getViewUrl d actor caseId serviceCase))

end CasesService

/-! ## The endpoints -/

/-- `GET /cases/:id`. -/
def getCase : Except HttpError CaseResponse := do
  CaseAccessGuard.canActivate d actor caseId
  CasesService.getCaseDetail getViewUrl d actor caseId

/-- `GET /cases/:caseId/documents`. -/
def getDocuments : Except HttpError (List DocumentWithView) := do
  CaseAccessGuard.canActivate d actor caseId
  return DocumentsService.listForCase getViewUrl d actor caseId

/-- The documents in the response for a case. -/
def CaseResponse.documentIds : CaseResponse → List Id
  | .beneficiary detail => detail.documents.map (·.id)
  | .full detail => detail.documents.map (·.id)

end Asoju
