/-
The files of the platform, which lie in a bucket, and the rows that point to them.

A browser asks for a link to upload to (`createUploadUrl`), puts its file there, and names the key
of the file in a second call, which stores a row with it.  The key that comes back may be any text.
The platform trusts it if it begins like the keys made for that case or that customer, and if there
is an object under it.  This is enough: `StorageCall.provenance`.

`configured` says whether there is a bucket.  Without one the links lead nowhere, and every object
counts as there.  How long a link lasts is left out, since it only takes uploads away.
-/
import Asoju.Lib.Client
import Asoju.Lib.Rely
import Asoju.Lib.Sorting
import Asoju.Cases

namespace Asoju

open Lib

namespace Storage

/-! ## The store -/

inductive KeyKind
  | evidence | documents | vault | reports
deriving DecidableEq, Repr

/-- How the keys of a kind begin. -/
def KeyKind.text : KeyKind → String
  | evidence => "evidence"
  | documents => "documents"
  | vault => "vault"
  | reports => "reports"

/-- Where the files of a case or of a customer lie. -/
structure Folder where
  kind : KeyKind
  owner : Id
deriving DecidableEq, Repr

/-- A link to upload to.  The bucket knows the key; the folder is what it was asked for. -/
structure UploadLink where
  folder : Folder
  key : String
deriving DecidableEq, Repr

inductive EvidenceType
  | photo | video | document | voice | location | note
deriving DecidableEq, Repr

structure EvidenceItem where
  caseId : Id
  taskId : Option Id
  uploaderId : Id
  type : EvidenceType
  description : Option String
  storageKey : String
  /-- Unique for the case. -/
  clientRequestId : Option String
deriving DecidableEq, Repr

structure VaultDocument where
  customerId : Id
  name : String
  category : VaultCategory
  notes : Option String
  storageKey : Option String
deriving DecidableEq, Repr

/-- A report of a case, with the file that it has been rendered to. -/
structure RenderedReport where
  caseId : Id
  createdAt : Time
  pdfStorageKey : Option String := none
deriving DecidableEq, Repr

structure Store where
  customer : Table Customer := .empty
  serviceCase : Table ServiceCase := .empty
  assignment : Table Assignment := .empty
  evidence : Table EvidenceItem := .empty
  document : Table Document := .empty
  vaultDocument : Table VaultDocument := .empty
  report : Table RenderedReport := .empty
  /-- The links that have been handed out. -/
  signed : List UploadLink := []
  /-- The keys under which there is an object. -/
  objects : List String := []

inductive Model
  | customer | serviceCase | assignment | evidence | document | vaultDocument | report | auditEvent
  | bucket
deriving DecidableEq, Repr

def customers : TableOf Store Model Customer :=
  ⟨.customer, Store.customer, fun t s => { s with customer := t }, fun _ _ => rfl⟩

def cases : TableOf Store Model ServiceCase :=
  ⟨.serviceCase, Store.serviceCase, fun t s => { s with serviceCase := t }, fun _ _ => rfl⟩

def assignments : TableOf Store Model Assignment :=
  ⟨.assignment, Store.assignment, fun t s => { s with assignment := t }, fun _ _ => rfl⟩

def evidence : TableOf Store Model EvidenceItem :=
  ⟨.evidence, Store.evidence, fun t s => { s with evidence := t }, fun _ _ => rfl⟩

def documents : TableOf Store Model Document :=
  ⟨.document, Store.document, fun t s => { s with document := t }, fun _ _ => rfl⟩

def vaultDocuments : TableOf Store Model VaultDocument :=
  ⟨.vaultDocument, Store.vaultDocument, fun t s => { s with vaultDocument := t }, fun _ _ => rfl⟩

def reports : TableOf Store Model RenderedReport :=
  ⟨.report, Store.report, fun t s => { s with report := t }, fun _ _ => rfl⟩

abbrev Work (α : Type) := Prog Store (Access Model) HttpError α

/-- `AuditService.record`. -/
def record : Work Unit := .write (.create .auditEvent) id

/-! ## Keys -/

/-- `String.prototype.startsWith`. -/
def startsWith (s p : String) : Bool := p.toList.isPrefixOf s.toList

/-- What follows the last dot of a file name, with the dot. -/
def extension (fileName : String) : String :=
  if '.' ∈ fileName.toList then
    String.ofList ('.' :: (fileName.toList.reverse.takeWhile (· ≠ '.')).reverse)
  else ""

example : extension "title.deed.pdf" = ".pdf" ∧ extension "deed" = "" := by decide

/-- The key of a new object, of which the caller chooses the extension only. -/
def createKey (folder : String) (fileName : Option String) (uuid : String) : String :=
  folder ++ "/" ++ uuid ++ fileName.elim "" extension

/-! ## The bucket -/

inductive UploadUrl
  | signed (key : String)
  | dryRun (key : String)
deriving DecidableEq, Repr

/-- What a browser is told of an upload. -/
structure UploadResponse where
  storageKey : String
  uploadUrl : UploadUrl
deriving DecidableEq, Repr

section Services

variable (configured : Bool) (idText : Id → String)

def Folder.text (f : Folder) : String := f.kind.text ++ "/" ++ idText f.owner

namespace StorageService

def getUploadUrl (folder : Folder) (key : String) : Work UploadUrl :=
  if configured then do
    .write (.create .bucket) fun s => { s with signed := s.signed ++ [⟨folder, key⟩] }
    return .signed key
  else return .dryRun key

def objectExists (key : String) : Work Bool :=
  if configured then Client.query .bucket fun s => key ∈ s.objects else return true

def putBuffer (key : String) : Work Unit :=
  if configured then .write (.create .bucket) fun s => { s with objects := s.objects ++ [key] }
  else return ()

end StorageService

/-- The bucket takes an upload when a link was signed for the key, and the header that asks for
encryption, which was signed too, is there. -/
def accepts (key : String) (encrypted : Bool) (s : Store) : Bool :=
  encrypted && s.signed.any fun link => link.key = key

/-- A client puts a file under a key: the answer of the bucket. -/
def put (key : String) (encrypted : Bool) : Work Bool :=
  .atom (.update .bucket)
    (fun s => if accepts key encrypted s then { s with objects := s.objects ++ [key] } else s)
    fun s => .ret (accepts key encrypted s)

/-! ## The services -/

def notIssuedForCase : HttpError :=
  .badRequest "storageKey was not issued for this case — request a new upload URL"

def notIssuedForAccount : HttpError :=
  .badRequest "storageKey was not issued for this account — request a new upload URL"

def notUploaded : HttpError :=
  .badRequest ("Uploaded file not found — the upload may not have completed. " ++
    "Request a new upload URL and try again.")

/-- A link to upload to, in a folder. -/
def linkInto (folder : Folder) (fileName uuid : String) : Work UploadResponse := do
  let key := createKey (folder.text idText) (some fileName) uuid
  let url ← StorageService.getUploadUrl configured folder key
  return ⟨key, url⟩

/-- The two checks of a key that comes from outside. -/
def checkUploaded (notIssued : HttpError) (folder : Folder) (key : String) : Work Unit := do
  if ¬ startsWith key (folder.text idText ++ "/") then throw notIssued
  let found ← StorageService.objectExists configured key
  if ¬ found then throw notUploaded

namespace EvidenceService

structure CreateEvidenceDto where
  type : EvidenceType
  description : Option String := none
  taskId : Option Id := none
  storageKey : String
  clientRequestId : Option String := none
deriving DecidableEq, Repr

def createUploadUrl (caseId : Id) (fileName uuid : String) : Work UploadResponse :=
  linkInto configured idText ⟨.evidence, caseId⟩ fileName uuid

/-- The row is one that the request of a client has created on the case. -/
def isReplay (caseId : Id) (clientRequestId : Option String) (e : EvidenceItem) : Bool :=
  clientRequestId.isSome && e.caseId = caseId && e.clientRequestId = clientRequestId

/-- What the request has created before, if it has a key. -/
def findSubmitted (caseId : Id) (clientRequestId : Option String) :
    Work (Option (Id × EvidenceItem)) :=
  if clientRequestId = none ∨ clientRequestId = some "" then return none
  else Client.findFirst evidence (isReplay caseId clientRequestId)

def uniqueViolation : HttpError := .internal "Unique constraint failed on (caseId, clientRequestId)"

def createEvidence (actor : AuthenticatedUser) (caseId : Id) (dto : CreateEvidenceDto) :
    Work Id := do
  let some serviceCase ← Client.findUnique cases caseId | throw (.notFound "Case not found")
  if serviceCase.status ≠ .inProgress then
    throw (.badRequest s!"Cannot submit evidence for a case in status {serviceCase.status.name}")
  checkUploaded configured idText notIssuedForCase ⟨.evidence, caseId⟩ dto.storageKey
  let item ← Client.createUnique evidence (isReplay caseId dto.clientRequestId) uniqueViolation
    { caseId, taskId := dto.taskId, uploaderId := actor.id, type := dto.type
      description := dto.description, storageKey := dto.storageKey
      clientRequestId := dto.clientRequestId }
  record
  return item

def submitEvidence (actor : AuthenticatedUser) (caseId : Id) (dto : CreateEvidenceDto) :
    Work Id := do
  match ← findSubmitted caseId dto.clientRequestId with
  | some (i, _) => return i
  | none => createEvidence configured idText actor caseId dto

end EvidenceService

namespace DocumentsService

structure CreateDocumentDto where
  label : String
  storageKey : String
  visibility : Option DocumentVisibility := none
  restrictedToAssignmentId : Option Id := none
deriving DecidableEq, Repr

def createUploadUrl (caseId : Id) (fileName uuid : String) : Work UploadResponse :=
  linkInto configured idText ⟨.documents, caseId⟩ fileName uuid

/-- A document for one assignment names an assignment of the case. -/
def requireRestriction (caseId : Id) (dto : CreateDocumentDto) : Work Unit :=
  if dto.visibility.getD .all = .assignee then do
    let some assignmentId := dto.restrictedToAssignmentId
      | throw (.badRequest "restrictedToAssignmentId is required when visibility is ASSIGNEE")
    let found ← Client.findUnique assignments assignmentId
    if ¬ found.any fun a => a.caseId = caseId then
      throw (.badRequest "restrictedToAssignmentId must be an assignment on this case")
  else return ()

def addDocument (actor : AuthenticatedUser) (caseId : Id) (dto : CreateDocumentDto) (now : Time) :
    Work Id := do
  requireRestriction caseId dto
  checkUploaded configured idText notIssuedForCase ⟨.documents, caseId⟩ dto.storageKey
  let visibility := dto.visibility.getD .all
  let document ← Client.create documents
    { caseId, label := dto.label, storageKey := dto.storageKey, uploadedById := some actor.id
      createdAt := now, visibility
      restrictedToAssignmentId :=
        if visibility = .assignee then dto.restrictedToAssignmentId else none }
  record
  return document

def deleteDocument (actor : AuthenticatedUser) (caseId documentId : Id) : Work Unit := do
  let found ← Client.findUnique documents documentId
  let some document := found.filter fun d => d.caseId = caseId
    | throw (.notFound "Document not found on this case")
  if document.uploadedById ≠ some actor.id ∧ actor.role ≠ .admin ∧ actor.role ≠ .superAdmin then
    throw (.forbidden "Only the uploader or an admin can remove this document")
  .write (.update .document) fun s => { s with document := s.document.erase documentId }
  record

end DocumentsService

namespace VaultService

structure CreateVaultDocumentDto where
  name : String
  category : Option VaultCategory := none
  notes : Option String := none
  storageKey : Option String := none
deriving DecidableEq, Repr

def requireCustomer (userId : Id) : Work Id := do
  let found ← Client.findFirst customers fun c => c.userId = userId
  let some customer := found | throw (.notFound "No customer profile for this user")
  return customer.1

def createUploadUrl (user : AuthenticatedUser) (fileName uuid : String) : Work UploadResponse := do
  let customerId ← requireCustomer user.id
  linkInto configured idText ⟨.vault, customerId⟩ fileName uuid

/-- A key that is given is checked, and an empty one counts as none. -/
def checkKey (customerId : Id) (storageKey : Option String) : Work Unit :=
  match storageKey with
  | some key =>
      if key = "" then return ()
      else checkUploaded configured idText notIssuedForAccount ⟨.vault, customerId⟩ key
  | none => return ()

def addDocument (user : AuthenticatedUser) (dto : CreateVaultDocumentDto) : Work Id := do
  let customerId ← requireCustomer user.id
  checkKey configured idText customerId dto.storageKey
  let document ← Client.create vaultDocuments
    { customerId, name := dto.name, category := dto.category.getD .other, notes := dto.notes
      storageKey := dto.storageKey }
  record
  return document

def deleteDocument (user : AuthenticatedUser) (documentId : Id) : Work Unit := do
  let customerId ← requireCustomer user.id
  let some document ← Client.findUnique vaultDocuments documentId
    | throw (.notFound "Document not found")
  if document.customerId ≠ customerId then throw (.forbidden "Not your document")
  .write (.update .vaultDocument) fun s =>
    { s with vaultDocument := s.vaultDocument.erase documentId }
  record

end VaultService

namespace CaseReportPdfService

/-- The newest report of a case. -/
def latestReport (caseId : Id) (s : Store) : Option (Id × RenderedReport) :=
  (sortDesc (fun p => p.2.createdAt) (s.report.rows.filter fun p => p.2.caseId = caseId)).head?

/-- Renders the report of a case, or takes the one that is there: the key of the file.  What the
file says is left out. -/
def getReportPdfUrl (caseId : Id) (uuid : String) : Work String := do
  let some _ ← Client.findUnique cases caseId | throw (.notFound "Case not found")
  let some (reportId, report) ← Client.query .report (latestReport caseId)
    | throw (.notFound "This case has no issued report yet")
  match report.pdfStorageKey with
  | some key => return key
  | none =>
      let folder : Folder := ⟨.reports, caseId⟩
      let key := createKey (folder.text idText) (some (idText reportId ++ ".pdf")) uuid
      StorageService.putBuffer configured key
      Client.update reports (.internal "Record to update not found") reportId fun r =>
        { r with pdfStorageKey := some key }
      return key

end CaseReportPdfService

/-! ## The pages of the browser -/

def uploadFailed : HttpError := .internal "Upload to storage failed — please try again."

/-- The browser puts a file where the response says, unless that leads nowhere. -/
def putFile (encrypted : Bool) (response : UploadResponse) : Work String :=
  match response.uploadUrl with
  | .dryRun _ => return response.storageKey
  | .signed key => do
      let ok ← put key encrypted
      if ¬ ok then throw uploadFailed
      return response.storageKey

/-- `uploadFile` sends the header that asks for encryption. -/
def uploadFile (createUploadUrl : Work UploadResponse) : Work String := do
  let response ← createUploadUrl
  putFile true response

/-- `uploadVaultFile` does not. -/
def uploadVaultFile (createUploadUrl : Work UploadResponse) : Work String := do
  let response ← createUploadUrl
  putFile false response

/-- The page of a case in the field: it uploads the file and submits it. -/
def fieldPage (actor : AuthenticatedUser) (caseId : Id) (fileName uuid : String)
    (dto : EvidenceService.CreateEvidenceDto) : Work Id := do
  let storageKey ←
    uploadFile (EvidenceService.createUploadUrl configured idText caseId fileName uuid)
  EvidenceService.submitEvidence configured idText actor caseId { dto with storageKey }

/-- The page of a case for staff. -/
def casePage (actor : AuthenticatedUser) (caseId : Id) (fileName uuid : String)
    (dto : DocumentsService.CreateDocumentDto) (now : Time) : Work Id := do
  let storageKey ←
    uploadFile (DocumentsService.createUploadUrl configured idText caseId fileName uuid)
  DocumentsService.addDocument configured idText actor caseId { dto with storageKey } now

/-- The page of the vault. -/
def vaultPage (user : AuthenticatedUser) (fileName uuid : String)
    (dto : VaultService.CreateVaultDocumentDto) : Work Id := do
  let storageKey ←
    uploadVaultFile (VaultService.createUploadUrl configured idText user fileName uuid)
  VaultService.addDocument configured idText user { dto with storageKey := some storageKey }

end Services

end Storage

end Asoju
